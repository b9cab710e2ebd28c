/-
Reading values, however they are spelled.

`Reads reader value x` says that the reader takes every spelling of the value for `x`.  It is the
form in which readers compose: an array is read if its items are, an object if its members are one
after the other, and what is said of the inner readers is all that the outer one needs.

Two bounds are in the way.  The walks through arrays and objects spend fuel, but a list spelled out
has more characters than items, so the characters that are left are always enough.  Nesting is
bounded by intention, and a value is read only if its depth stays below the bound; `reads_value` is
by induction on that bound, as the reader itself is.
-/
import LineCut.Proofs.Tokens

namespace LineCut.Json

/-! ### How a spelled value begins -/

/-- A character that a value may begin with. -/
structure Opens (c : Char) : Prop where
  not_blank : Cursor.isBlank c = false
  not_comma : c ≠ ','
  not_bracket : c ≠ ']'

theorem opens_of_isDigit {c : Char} (h : c.isDigit = true) : Opens c where
  not_blank := by simp [Cursor.isBlank, ne_of_isDigit h]
  not_comma := ne_of_isDigit h rfl
  not_bracket := ne_of_isDigit h rfl

theorem Spells.opens {value : Json} {text : List Char} (h : Spells value text) :
    ∃ c more, text = c :: more ∧ Opens c := by
  cases h with
  | null => exact ⟨_, _, rfl, rfl, by decide, by decide⟩
  | bool b => cases b <;> exact ⟨_, _, rfl, rfl, by decide, by decide⟩
  | @int n hlow hhigh =>
    cases n with
    | ofNat m =>
      obtain ⟨d, more, heq, hd⟩ := toDigits_append_head m []
      exact ⟨d, more, by rw [intChars, ← heq, List.append_nil], opens_of_isDigit hd⟩
    | negSucc m => exact ⟨_, _, rfl, rfl, by decide, by decide⟩
  | str text => exact ⟨_, _, rfl, rfl, by decide, by decide⟩
  | arr h => exact ⟨_, _, rfl, rfl, by decide, by decide⟩
  | obj h => exact ⟨_, _, rfl, rfl, by decide, by decide⟩

/-- The blanks in front of a value are skipped, and nothing of the value is. -/
theorem skip_spelled {value : Json} {text blanks : List Char} (h : Spells value text)
    (hblanks : Blanks blanks) (rest : List Char) (offset : Nat) :
    Cursor.skip ⟨blanks ++ (text ++ rest), offset⟩ = ⟨text ++ rest, offset + blanks.length⟩ := by
  obtain ⟨c, more, rfl, hc⟩ := h.opens
  exact skip_blanks hblanks hc.not_blank offset

/-! ### Reading one value -/

/-- The reader takes every spelling of the value for `x`, with or without blanks in front of it, and
stops behind it. -/
structure Reads {α : Type} (reader : Cursor → Read α) (value : Json) (x : α) : Prop where
  gives : ∀ {text blanks rest : List Char}, Spells value text → Blanks blanks → Follows rest →
    ∀ offset, Gives (reader ⟨blanks ++ (text ++ rest), offset⟩) x rest

theorem Reads.map {α β : Type} {reader : Cursor → Read α} {value : Json} {x : α}
    (h : Reads reader value x) (f : α → β) :
    Reads (fun c => (reader c).map fun (x, c) => (f x, c)) value (f x) where
  gives hspells hblanks hrest offset := (h.gives hspells hblanks hrest offset).map f

theorem gives_readText (wanted text : String) {blanks : List Char} (h : Blanks blanks)
    (rest : List Char) (offset : Nat) :
    Gives (readText wanted ⟨blanks ++ (stringChars text ++ rest), offset⟩) text rest := by
  rw [readText, skip_spelled (.str text) h]
  exact gives_textBody text rest _

theorem reads_readText (wanted text : String) : Reads (readText wanted) (.str text) text := by
  refine ⟨fun {_ blanks rest} hspells hblanks _ offset => ?_⟩
  cases hspells
  exact gives_readText wanted text hblanks rest offset

theorem reads_readBool (b : Bool) : Reads readBool (.bool b) b := by
  refine ⟨fun {_ blanks rest} hspells hblanks _ offset => ?_⟩
  rw [readBool, skip_spelled hspells hblanks]
  cases hspells
  cases b with
  | true => exact (passes_word ['r', 'u', 'e'] rest _).map true
  | false => exact (passes_word ['a', 'l', 's', 'e'] rest _).map false

/-- A digit opens a number and nothing else. -/
theorem scalar?_of_isDigit {d : Char} (h : d.isDigit = true) (more : List Char) (offset : Nat) :
    scalar? ⟨d :: more, offset⟩ = some (number ⟨d :: more, offset⟩) := by
  unfold scalar?
  split
  · next heq => exact absurd (List.cons.inj heq).1 (ne_of_isDigit h rfl)
  · next heq => exact absurd (List.cons.inj heq).1 (ne_of_isDigit h rfl)
  · next heq => exact absurd (List.cons.inj heq).1 (ne_of_isDigit h rfl)
  · next heq => exact absurd (List.cons.inj heq).1 (ne_of_isDigit h rfl)
  · next heq => simp [← (List.cons.inj heq).1, h]
  · next heq => exact absurd heq (List.cons_ne_nil _ _)

/-- **A value without items is read back**, by whatever bound on nesting. -/
theorem reads_valueWith_of_depth_eq_zero (nested : Option (Cursor → Read Json)) {value : Json}
    (h : value.depth = 0) : Reads (valueWith nested) value value := by
  refine ⟨fun {text blanks rest} hspells hblanks hrest offset => ?_⟩
  rw [valueWith.eq_def, skip_spelled hspells hblanks]
  cases hspells with
  | null => exact (passes_word ['u', 'l', 'l'] rest _).map Json.null
  | bool b =>
    cases b with
    | true => exact (passes_word ['r', 'u', 'e'] rest _).map (Json.bool true)
    | false => exact (passes_word ['a', 'l', 's', 'e'] rest _).map (Json.bool false)
  | @int n hlow hhigh =>
    have hnumber := gives_number hlow hhigh hrest (offset + blanks.length)
    cases n with
    | ofNat m =>
      obtain ⟨d, more, heq, hd⟩ := toDigits_append_head m rest
      rw [intChars, heq] at hnumber ⊢
      simpa [scalar?_of_isDigit hd] using hnumber
    | negSucc m => exact hnumber
  | str text => exact (gives_textBody text rest (offset + blanks.length)).map Json.str
  | arr _ => exact absurd h (Nat.succ_ne_zero _)
  | obj _ => exact absurd h (Nat.succ_ne_zero _)

/-! ### Arrays -/

/-- No item follows the last one. -/
theorem gives_nextItem_nil (first : Bool) {blanks : List Char} (h : Blanks blanks)
    (rest : List Char) (offset : Nat) :
    Gives (nextItem first ⟨blanks ++ ']' :: rest, offset⟩) false (']' :: rest) := by
  rw [nextItem, skip_blanks h rfl]
  exact ⟨_, rfl⟩

/-- Where an item follows, its comma is taken if one is due. -/
theorem gives_nextItem_cons {first : Bool} {comma text : List Char} {value : Json}
    (hcomma : Comma first comma) (h : Spells value text) (rest : List Char) (offset : Nat) :
    Gives (nextItem first ⟨comma ++ (text ++ rest), offset⟩) true (text ++ rest) := by
  obtain ⟨c, more, rfl, hc⟩ := h.opens
  cases hcomma with
  | first hblanks =>
    rw [nextItem, List.cons_append, skip_blanks hblanks hc.not_blank]
    exact ⟨offset + comma.length, by simp [hc.not_comma, hc.not_bracket]⟩
  | @next before after hbefore hafter =>
    have hskip : Cursor.skip (Cursor.next ⟨',' :: (after ++ c :: (more ++ rest)),
        offset + before.length⟩) = ⟨c :: (more ++ rest), _⟩ :=
      skip_blanks hafter hc.not_blank _
    rw [nextItem, List.append_assoc, List.cons_append, List.cons_append, skip_blanks hbefore rfl]
    simp only [hskip]
    exact ⟨_, by simp [hc.not_bracket]; rfl⟩

/-- Items end with a bracket, and before each but the first stands a comma, so a value ends where
further items follow. -/
theorem SpellsItems.follows {values : List Json} {text : List Char}
    (h : SpellsItems false values text) (rest : List Char) : Follows (text ++ rest) := by
  cases h with
  | nil hblanks =>
    rw [List.append_assoc]
    exact follows_append hblanks (.inr (.inl rfl)) rest
  | cons hcomma _ _ =>
    cases hcomma with
    | next hbefore _ =>
      rw [List.append_assoc, List.append_assoc]
      exact follows_append hbefore (.inl rfl) _

theorem SpellsItems.length_lt {first : Bool} {values : List Json} {text : List Char}
    (h : SpellsItems first values text) : values.length < text.length := by
  induction values generalizing first text with
  | nil => cases h; simp
  | cons value values ih =>
    cases h with
    | cons _ hitem hrest =>
      obtain ⟨c, more, rfl, -⟩ := hitem.opens
      have hlt := ih hrest
      simp only [List.length_cons, List.length_append]
      omega

/-- The walk through an array reads all items and stops at the bracket, given fuel for one more item
than there are. -/
theorem gives_items {α : Type} {item : Cursor → Read α} {toJson : α → Json} (xs : List α)
    (hitems : ∀ x ∈ xs, Reads item (toJson x) x) {first : Bool} {text : List Char}
    (h : SpellsItems first (xs.map toJson) text) (fuel rest : List Char) (offset : Nat)
    (hfuel : xs.length < fuel.length) :
    Gives (items item fuel first ⟨text ++ rest, offset⟩) xs (']' :: rest) := by
  induction xs generalizing first text fuel offset with
  | nil =>
    obtain ⟨mark, fuel, rfl⟩ := List.exists_cons_of_length_pos hfuel
    cases h with
    | nil hblanks =>
      obtain ⟨behind, hnext⟩ := gives_nextItem_nil first hblanks rest offset
      exact ⟨behind, by simp [items, hnext]⟩
  | cons x xs ih =>
    obtain ⟨mark, fuel, rfl⟩ := List.exists_cons_of_length_pos (Nat.zero_lt_of_lt hfuel)
    cases h with
    | @cons _ _ _ comma text more hcomma hitem hrest =>
      obtain ⟨before, hnext⟩ := gives_nextItem_cons hcomma hitem (more ++ rest) offset
      obtain ⟨behind, hread⟩ :=
        (hitems x List.mem_cons_self).gives hitem blanks_nil (hrest.follows rest) before
      obtain ⟨last, hall⟩ := ih (fun y hy => hitems y (List.mem_cons_of_mem x hy)) hrest fuel behind
        (Nat.lt_of_succ_lt_succ hfuel)
      rw [List.nil_append] at hread
      exact ⟨last, by simp [items, hnext, hread, hall]⟩

/-- An array is read by what reads its inside and stops at its bracket. -/
theorem gives_inArray {α : Type} {inside : Cursor → Read α} {x : α} {text rest : List Char}
    (h : ∀ offset, Gives (inside ⟨text, offset⟩) x (']' :: rest)) (offset : Nat) :
    Gives (inArray inside ⟨'[' :: text, offset⟩) x rest := by
  obtain ⟨behind, hinside⟩ := h (offset + Char.utf8Size '[')
  have hclose : closeArray ⟨']' :: rest, behind⟩ = .ok ⟨rest, behind + 1⟩ := by
    rw [closeArray, skip_cons rfl]
    rfl
  rw [inArray, next_cons, hinside]
  exact ⟨behind + 1, by simp only [hclose]; rfl⟩

/-- **An array is read item by item.** -/
theorem gives_inArray_items {α : Type} {item : Cursor → Read α} {toJson : α → Json} {xs : List α}
    (hitems : ∀ x ∈ xs, Reads item (toJson x) x) {text : List Char}
    (h : SpellsItems true (xs.map toJson) text) (rest : List Char) (offset : Nat) :
    Gives (inArray (fun c => items item c.fuel true c) ⟨'[' :: (text ++ rest), offset⟩) xs
      rest := by
  refine gives_inArray (fun offset => gives_items xs hitems h _ rest offset ?_) offset
  have hlt := h.length_lt
  simp only [List.length_map] at hlt
  simp only [Cursor.fuel, Cursor.next, List.length_cons, List.length_append]
  omega

theorem reads_readList {α : Type} {item : Cursor → Read α} {toJson : α → Json} {xs : List α}
    (hitems : ∀ x ∈ xs, Reads item (toJson x) x) :
    Reads (readList (some item)) (.arr (xs.map toJson)) xs := by
  refine ⟨fun {text blanks rest} hspells hblanks _ offset => ?_⟩
  rw [readList, skip_spelled hspells hblanks]
  cases hspells with
  | arr h => exact gives_inArray_items hitems h rest _

/-! ### Objects

What a member means may depend on those before it, so the reader of a member takes what has been
read so far to what has been read then.  `ReadsMembers` is the run of such steps.
-/

/-- The reader of a member takes every spelling of this one from the one state to the other. -/
structure ReadsMember {σ : Type} (member : σ → String → Cursor → Read σ) (state : σ)
    (key : String) (value : Json) (after : σ) : Prop where
  gives : ∀ {before blanks text rest : List Char}, Blanks before → Blanks blanks →
    Spells value text → Follows rest → ∀ offset,
      Gives (member state key ⟨before ++ ':' :: (blanks ++ (text ++ rest)), offset⟩) after rest

/-- One member after the other is read, from the one state to the other. -/
inductive ReadsMembers {σ : Type} (member : σ → String → Cursor → Read σ) :
    σ → List (String × Json) → σ → Prop
  | nil (state : σ) : ReadsMembers member state [] state
  | cons {state next after : σ} {key : String} {value : Json} {rest : List (String × Json)}
      (hmember : ReadsMember member state key value next)
      (hrest : ReadsMembers member next rest after) :
      ReadsMembers member state ((key, value) :: rest) after

theorem ReadsMembers.append {σ : Type} {member : σ → String → Cursor → Read σ}
    {state next after : σ} {front back : List (String × Json)}
    (hfront : ReadsMembers member state front next)
    (hback : ReadsMembers member next back after) :
    ReadsMembers member state (front ++ back) after := by
  induction hfront with
  | nil state => exact hback
  | cons hmember _ ih => exact .cons hmember (ih hback)

theorem passes_colon {blanks : List Char} (h : Blanks blanks) (rest : List Char) (offset : Nat) :
    Passes (colon ⟨blanks ++ ':' :: rest, offset⟩) rest := by
  rw [colon, skip_blanks h rfl]
  exact ⟨_, rfl⟩

/-- Most members are read so: the colon, and behind it a value. -/
theorem readsMember_of_reads {σ α : Type} {member : σ → String → Cursor → Read σ} {state : σ}
    {key : String} {value : Json} {reader : Cursor → Read α} {x : α} (h : Reads reader value x)
    (f : α → σ)
    (hmember : ∀ {c behind : Cursor}, colon c = .ok behind →
      member state key c = (reader behind).map fun (x, c) => (f x, c)) :
    ReadsMember member state key value (f x) := by
  refine ⟨fun {before blanks text rest} hbefore hblanks hspells hrest offset => ?_⟩
  obtain ⟨behind, hcolon⟩ := passes_colon hbefore (blanks ++ (text ++ rest)) offset
  rw [hmember hcolon]
  exact (h.gives hspells hblanks hrest behind).map f

/-- No key follows the last member. -/
theorem gives_nextKey_nil (first : Bool) {blanks : List Char} (h : Blanks blanks)
    (rest : List Char) (offset : Nat) :
    Gives (nextKey first ⟨blanks ++ '\x7d' :: rest, offset⟩) none ('\x7d' :: rest) := by
  rw [nextKey, skip_blanks h rfl]
  exact ⟨_, rfl⟩

/-- Where a member follows, its comma is taken if one is due, and then its key. -/
theorem gives_nextKey_cons {first : Bool} {comma : List Char} (hcomma : Comma first comma)
    (key : String) (rest : List Char) (offset : Nat) :
    Gives (nextKey first ⟨comma ++ (stringChars key ++ rest), offset⟩) (some key) rest := by
  cases hcomma with
  | first hblanks =>
    rw [nextKey, skip_spelled (.str key) hblanks]
    exact (gives_textBody key rest _).map some
  | @next before after hbefore hafter =>
    have hskip : Cursor.skip (Cursor.next ⟨',' :: (after ++ (stringChars key ++ rest)),
        offset + before.length⟩) = ⟨stringChars key ++ rest, _⟩ :=
      skip_spelled (.str key) hafter rest _
    rw [nextKey, List.append_assoc, List.cons_append, skip_blanks hbefore rfl]
    simp only [hskip]
    exact (gives_textBody key rest _).map some

theorem SpellsMembers.follows {members : List (String × Json)} {text : List Char}
    (h : SpellsMembers false members text) (rest : List Char) : Follows (text ++ rest) := by
  cases h with
  | nil hblanks =>
    rw [List.append_assoc]
    exact follows_append hblanks (.inr (.inr rfl)) rest
  | cons key hcomma _ _ _ _ =>
    cases hcomma with
    | next hbefore _ =>
      rw [List.append_assoc, List.append_assoc]
      exact follows_append hbefore (.inl rfl) _

theorem SpellsMembers.length_lt {first : Bool} {members : List (String × Json)}
    {text : List Char} (h : SpellsMembers first members text) : members.length < text.length := by
  induction members generalizing first text with
  | nil => cases h; simp
  | cons member members ih =>
    cases h with
    | cons key _ _ _ _ hrest =>
      have hlt := ih hrest
      simp only [List.length_cons, List.length_append]
      omega

/-- The walk through an object takes the run of its members and stops at the brace, given fuel for
one more member than there are. -/
theorem gives_members {σ : Type} {member : σ → String → Cursor → Read σ} {state after : σ}
    {all : List (String × Json)} (hmembers : ReadsMembers member state all after) {first : Bool}
    {text : List Char} (h : SpellsMembers first all text) (fuel rest : List Char) (offset : Nat)
    (hfuel : all.length < fuel.length) :
    Gives (members member fuel first state ⟨text ++ rest, offset⟩) after ('\x7d' :: rest) := by
  induction hmembers generalizing first text fuel offset with
  | nil state =>
    obtain ⟨mark, fuel, rfl⟩ := List.exists_cons_of_length_pos hfuel
    cases h with
    | nil hblanks =>
      obtain ⟨behind, hnext⟩ := gives_nextKey_nil first hblanks rest offset
      exact ⟨behind, by simp [members, hnext]⟩
  | @cons state next after key value others hmember hothers ih =>
    obtain ⟨mark, fuel, rfl⟩ := List.exists_cons_of_length_pos (Nat.zero_lt_of_lt hfuel)
    cases h with
    | @cons _ _ _ _ comma before blanks text more hcomma hbefore hblanks hvalue hrest =>
      obtain ⟨start, hkey⟩ := gives_nextKey_cons hcomma key
        (before ++ ':' :: (blanks ++ (text ++ (more ++ rest)))) offset
      obtain ⟨behind, hread⟩ := hmember.gives hbefore hblanks hvalue (hrest.follows rest) start
      obtain ⟨last, hall⟩ := ih hrest fuel behind (Nat.lt_of_succ_lt_succ hfuel)
      exact ⟨last, by simp [members, hkey, hread, hall]⟩

/-- An object with one member, piece by piece. -/
theorem Spells.obj_singleton {key : String} {value : Json} {text : List Char}
    (h : Spells (.obj [(key, value)]) text) :
    ∃ before beforeColon afterColon inner behind, Blanks before ∧ Blanks beforeColon ∧
      Blanks afterColon ∧ Spells value inner ∧ Blanks behind ∧
      text = '\x7b' :: (before ++ (stringChars key ++ (beforeColon ++ ':' ::
        (afterColon ++ (inner ++ (behind ++ ['\x7d'])))))) := by
  cases h with
  | obj hmembers =>
    cases hmembers with
    | cons _ hcomma hbeforeColon hafterColon hvalue hrest =>
      cases hcomma with
      | first hbefore =>
        cases hrest with
        | nil hbehind =>
          exact ⟨_, _, _, _, _, hbefore, hbeforeColon, hafterColon, hvalue, hbehind, rfl⟩

/-- An object is read by what reads its inside and stops at its brace. -/
theorem gives_inObject {α : Type} {inside : Cursor → Read α} {x : α} {text rest : List Char}
    (h : ∀ offset, Gives (inside ⟨text, offset⟩) x ('\x7d' :: rest)) (offset : Nat) :
    Gives (inObject inside ⟨'\x7b' :: text, offset⟩) x rest := by
  obtain ⟨behind, hinside⟩ := h (offset + Char.utf8Size '\x7b')
  have hclose : closeObject ⟨'\x7d' :: rest, behind⟩ = .ok ⟨rest, behind + 1⟩ := by
    rw [closeObject, skip_cons rfl]
    rfl
  rw [inObject, next_cons, hinside]
  exact ⟨behind + 1, by simp only [hclose]; rfl⟩

/-- **The inside of an object is read member by member.** -/
theorem gives_members_fuel {σ : Type} {member : σ → String → Cursor → Read σ} {state after : σ}
    {all : List (String × Json)} (hmembers : ReadsMembers member state all after)
    {text : List Char} (h : SpellsMembers true all text) (rest : List Char) (offset : Nat) :
    Gives (members member (Cursor.fuel ⟨text ++ rest, offset⟩) true state ⟨text ++ rest, offset⟩)
      after ('\x7d' :: rest) := by
  refine gives_members hmembers h _ rest offset ?_
  have hlt := h.length_lt
  simp only [Cursor.fuel, List.length_cons, List.length_append]
  omega

/-! ### Any value -/

theorem depth_le_depthItems {item : Json} {items : List Json} (h : item ∈ items) :
    item.depth ≤ depthItems items := by
  induction h with
  | head rest => exact Nat.le_max_left _ _
  | tail _ _ ih => exact Nat.le_trans ih (Nat.le_max_right _ _)

theorem depth_le_depthMembers {member : String × Json} {members : List (String × Json)}
    (h : member ∈ members) : member.2.depth ≤ depthMembers members := by
  induction h with
  | head rest => exact Nat.le_max_left _ _
  | tail _ _ ih => exact Nat.le_trans ih (Nat.le_max_right _ _)

/-- An array leaves its items one bracket less. -/
theorem depth_item_le {items : List Json} {limit : Nat} (h : (arr items).depth ≤ limit + 1)
    {item : Json} (hitem : item ∈ items) : item.depth ≤ limit :=
  Nat.le_trans (depth_le_depthItems hitem) (Nat.le_of_succ_le_succ h)

/-- So does an object leave its members. -/
theorem depth_member_le {members : List (String × Json)} {limit : Nat}
    (h : (obj members).depth ≤ limit + 1) {m : String × Json} (hm : m ∈ members) :
    m.2.depth ≤ limit :=
  Nat.le_trans (depth_le_depthMembers hm) (Nat.le_of_succ_le_succ h)

/-- Members of which nothing is known are read one by one if their values are. -/
theorem readsMembers_anyMember {value : Cursor → Read Json} (all : List (String × Json))
    (h : ∀ member ∈ all, Reads value member.2 member.2) (before : List (String × Json)) :
    ReadsMembers (anyMember value) before all (before ++ all) := by
  induction all generalizing before with
  | nil => simpa using ReadsMembers.nil before
  | cons member all ih =>
    obtain ⟨key, v⟩ := member
    have hrest := ih (fun m hm => h m (List.mem_cons_of_mem _ hm)) (before ++ [(key, v)])
    rw [List.append_assoc] at hrest
    refine .cons (readsMember_of_reads (h _ List.mem_cons_self) (fun v => before ++ [(key, v)]) ?_)
      hrest
    intro c behind hcolon
    simp [anyMember, hcolon]

/-- **Every value that nests no deeper than the bound is read back.** -/
theorem reads_value (limit : Nat) (v : Json) (h : v.depth ≤ limit) : Reads (value limit) v v := by
  induction limit generalizing v with
  | zero => exact reads_valueWith_of_depth_eq_zero none (Nat.le_zero.mp h)
  | succ limit ih =>
    cases v with
    | null => exact reads_valueWith_of_depth_eq_zero _ rfl
    | bool b => exact reads_valueWith_of_depth_eq_zero _ rfl
    | int n => exact reads_valueWith_of_depth_eq_zero _ rfl
    | real shown => exact reads_valueWith_of_depth_eq_zero _ rfl
    | str text => exact reads_valueWith_of_depth_eq_zero _ rfl
    | arr items =>
      -- Items are read as themselves, which is what `id` stands for.
      have hitems : ∀ item ∈ items, Reads (value limit) (id item) item := fun item hitem =>
        ih item (depth_item_le h hitem)
      refine ⟨fun {text blanks rest} hspells hblanks _ offset => ?_⟩
      rw [value, valueWith.eq_def, skip_spelled hspells hblanks]
      cases hspells with
      | arr hspells =>
        rw [← List.map_id items] at hspells
        exact (gives_inArray_items hitems hspells rest _).map Json.arr
    | obj members =>
      have hmembers : ∀ member ∈ members, Reads (value limit) member.2 member.2 :=
        fun member hmember => ih member.2 (depth_member_le h hmember)
      refine ⟨fun {text blanks rest} hspells hblanks _ offset => ?_⟩
      rw [value, valueWith.eq_def, skip_spelled hspells hblanks]
      cases hspells with
      | obj hspells =>
        have hall := gives_members_fuel (readsMembers_anyMember members hmembers []) hspells rest
        exact (gives_inObject hall (offset + blanks.length)).map Json.obj

/-! ### A whole text -/

theorem Blanks.follows {blanks : List Char} (h : Blanks blanks) : Follows blanks := by
  cases blanks with
  | nil => exact follows_nil
  | cons blank blanks => simpa [Follows] using .inl (h blank List.mem_cons_self)

/-- **A text is read if it spells the value**, with nothing but blanks around it. -/
theorem whole_of_reads {α : Type} {reader : Cursor → Read α} {value : Json} {x : α}
    (h : Reads reader value x) {text before after : List Char} (hspells : Spells value text)
    (hbefore : Blanks before) (hafter : Blanks after) :
    whole reader (String.ofList (before ++ (text ++ after))) = .ok x := by
  obtain ⟨behind, hread⟩ := h.gives hspells hbefore hafter.follows 0
  have hend : (after ++ []).dropWhile Cursor.isBlank = [] := List.dropWhile_append_of_pos hafter
  have hstart : Cursor.start (String.ofList (before ++ (text ++ after))) =
      ⟨before ++ (text ++ after), 0⟩ := by
    simp [Cursor.start]
  rw [List.append_nil] at hend
  rw [whole, hstart, hread]
  simp [Cursor.skip, hend]

end LineCut.Json
