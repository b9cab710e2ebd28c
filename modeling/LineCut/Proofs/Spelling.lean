/-
How a JSON value may be written.

There are two printers, one that writes no blanks and one that begins a line for every item, and a
reader should not care which of them a text came from.  So between the printers and the readers
stands a relation: `Spells` says of a value and a text that the text is the value, tokens as the
printers write them, with blanks wherever blanks may be.  That both printers spell the value they
are given is said here.  What is said of the readers elsewhere is said of all spellings, and needs
to know nothing about printers.

A number is spelled only if it is an integer of 64 bits, with or without a sign.  Other numbers have
a text that is shown and not one that is read.
-/
import LineCut.Json.Printer
import LineCut.Json.Reader

namespace LineCut.Json

/-! ### Values that can be spelled -/

mutual

/-- All numbers in the value are integers of 64 bits. -/
def Plain : Json → Prop
  | .null | .bool _ | .str _ => True
  | .int n => -0x8000000000000000 ≤ n ∧ n < 0x10000000000000000
  | .real _ => False
  | .arr items => PlainItems items
  | .obj members => PlainMembers members
termination_by structural value => value

/-- All numbers in the items are integers of 64 bits. -/
def PlainItems : List Json → Prop
  | [] => True
  | item :: rest => Plain item ∧ PlainItems rest
termination_by structural items => items

/-- All numbers in the members' values are integers of 64 bits. -/
def PlainMembers : List (String × Json) → Prop
  | [] => True
  | (_, value) :: rest => Plain value ∧ PlainMembers rest
termination_by structural members => members

end

theorem plainItems_map {α : Type} {f : α → Json} {xs : List α} (h : ∀ x ∈ xs, Plain (f x)) :
    PlainItems (xs.map f) := by
  induction xs with
  | nil => exact trivial
  | cons x xs ih =>
    exact ⟨h x List.mem_cons_self, ih fun y hy => h y (List.mem_cons_of_mem x hy)⟩

theorem plainMembers_of_forall {members : List (String × Json)}
    (h : ∀ member ∈ members, Plain member.2) : PlainMembers members := by
  induction members with
  | nil => exact trivial
  | cons member members ih =>
    exact ⟨h member List.mem_cons_self, ih fun m hm => h m (List.mem_cons_of_mem member hm)⟩

/-! ### Spellings -/

/-- Nothing but blanks. -/
def Blanks (text : List Char) : Prop :=
  ∀ c ∈ text, Cursor.isBlank c = true

/-- What stands in front of an item or a member: blanks, and a comma unless it is the first. -/
inductive Comma : Bool → List Char → Prop
  | first {blanks : List Char} (h : Blanks blanks) : Comma true blanks
  | next {before after : List Char} (hbefore : Blanks before) (hafter : Blanks after) :
      Comma false (before ++ ',' :: after)

mutual

/-- The text is the value, with blanks in it as it may be. -/
inductive Spells : Json → List Char → Prop
  | null : Spells .null ['n', 'u', 'l', 'l']
  | bool (b : Bool) : Spells (.bool b) (boolChars b)
  | int {n : Int} (hlow : -0x8000000000000000 ≤ n) (hhigh : n < 0x10000000000000000) :
      Spells (.int n) (intChars n)
  | str (text : String) : Spells (.str text) (stringChars text)
  | arr {items : List Json} {text : List Char} (h : SpellsItems true items text) :
      Spells (.arr items) ('[' :: text)
  | obj {members : List (String × Json)} {text : List Char} (h : SpellsMembers true members text) :
      Spells (.obj members) ('\x7b' :: text)

/-- The text is the items up to the closing bracket. -/
inductive SpellsItems : Bool → List Json → List Char → Prop
  | nil {first : Bool} {blanks : List Char} (h : Blanks blanks) :
      SpellsItems first [] (blanks ++ [']'])
  | cons {first : Bool} {item : Json} {rest : List Json} {comma text more : List Char}
      (hcomma : Comma first comma) (hitem : Spells item text)
      (hrest : SpellsItems false rest more) :
      SpellsItems first (item :: rest) (comma ++ (text ++ more))

/-- The text is the members up to the closing brace. -/
inductive SpellsMembers : Bool → List (String × Json) → List Char → Prop
  | nil {first : Bool} {blanks : List Char} (h : Blanks blanks) :
      SpellsMembers first [] (blanks ++ ['\x7d'])
  | cons {first : Bool} (key : String) {value : Json} {rest : List (String × Json)}
      {comma before after text more : List Char} (hcomma : Comma first comma)
      (hbefore : Blanks before) (hafter : Blanks after) (hvalue : Spells value text)
      (hrest : SpellsMembers false rest more) :
      SpellsMembers first ((key, value) :: rest)
        (comma ++ (stringChars key ++ (before ++ ':' :: (after ++ (text ++ more)))))

end

/-! ### Printers spell -/

theorem blanks_nil : Blanks [] := by
  simp [Blanks]

theorem blanks_newLine (indent : Nat) : Blanks (newLine indent) := by
  intro c hc
  rcases List.mem_cons.mp hc with rfl | hspace
  · rfl
  · rw [(List.mem_replicate.mp hspace).2]
    rfl

/-- A comma if one is due, and then blanks. -/
theorem comma_append {blanks : List Char} (h : Blanks blanks) (first : Bool) :
    Comma first ((if first then [] else [',']) ++ blanks) := by
  cases first with
  | true => exact .first h
  | false => exact .next blanks_nil h

mutual

/-- **A value without blanks is spelled.** -/
theorem spells_chars : ∀ {value : Json}, Plain value → Spells value (chars value)
  | .null, _ => .null
  | .bool b, _ => .bool b
  | .int _, h => .int h.1 h.2
  | .str text, _ => .str text
  | .arr _, h => .arr (spells_itemsChars true h)
  | .obj _, h => .obj (spells_membersChars true h)

theorem spells_itemsChars : ∀ (first : Bool) {items : List Json}, PlainItems items →
    SpellsItems first items (itemsChars first items)
  | _, [], _ => .nil blanks_nil
  | first, item :: rest, h => by
    have hspells := SpellsItems.cons (comma_append blanks_nil first) (spells_chars h.1)
      (spells_itemsChars false h.2)
    simpa [itemsChars] using hspells

theorem spells_membersChars : ∀ (first : Bool) {members : List (String × Json)},
    PlainMembers members → SpellsMembers first members (membersChars first members)
  | _, [], _ => .nil blanks_nil
  | first, (key, _) :: _, h => by
    have hspells := SpellsMembers.cons key (comma_append blanks_nil first) blanks_nil blanks_nil
      (spells_chars h.1) (spells_membersChars false h.2)
    simpa [membersChars] using hspells

end

mutual

/-- **So is a value over several lines**, at any indentation. -/
theorem spells_prettyChars : ∀ (indent : Nat) {value : Json}, Plain value →
    Spells value (prettyChars indent value)
  | _, .null, _ => .null
  | _, .bool b, _ => .bool b
  | _, .int _, h => .int h.1 h.2
  | _, .str text, _ => .str text
  | indent, .arr items, h => by
    have hspells := Spells.arr (spells_prettyItems (indent + 2) true (blanks_newLine indent) h)
    cases items with
    | nil => exact .arr (.nil blanks_nil)
    | cons item rest => simpa [prettyChars] using hspells
  | indent, .obj members, h => by
    have hspells := Spells.obj (spells_prettyMembers (indent + 2) true (blanks_newLine indent) h)
    cases members with
    | nil => exact .obj (.nil blanks_nil)
    | cons member rest => simpa [prettyChars] using hspells

theorem spells_prettyItems : ∀ (indent : Nat) (first : Bool) {blanks : List Char}
    (_ : Blanks blanks) {items : List Json}, PlainItems items →
      SpellsItems first items (prettyItems indent first items ++ (blanks ++ [']']))
  | _, _, _, hblanks, [], _ => .nil hblanks
  | indent, first, _, hblanks, item :: rest, h => by
    have hspells := SpellsItems.cons (comma_append (blanks_newLine indent) first)
      (spells_prettyChars indent h.1) (spells_prettyItems indent false hblanks h.2)
    simpa [prettyItems] using hspells

theorem spells_prettyMembers : ∀ (indent : Nat) (first : Bool) {blanks : List Char}
    (_ : Blanks blanks) {members : List (String × Json)}, PlainMembers members →
      SpellsMembers first members (prettyMembers indent first members ++ (blanks ++ ['\x7d']))
  | _, _, _, hblanks, [], _ => .nil hblanks
  | indent, first, _, hblanks, (key, _) :: _, h => by
    have hafter : Blanks [' '] := by simp [Blanks, Cursor.isBlank]
    have hspells := SpellsMembers.cons key (comma_append (blanks_newLine indent) first) blanks_nil
      hafter (spells_prettyChars indent h.1) (spells_prettyMembers indent false hblanks h.2)
    simpa [prettyMembers] using hspells

end

end LineCut.Json
