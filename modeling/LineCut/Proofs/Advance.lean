/-
Readers only go forward.

The walks through arrays and objects spend fuel, and what they give as fuel is the text that is
left.  For a text that spells a value there is enough of it because the spelling has more characters
than items.  An arbitrary text that happens to be read is not known to spell anything, so the reason
has to be another one: where a reader has stopped, what is left is an end of what was left where it
began, and every item but the first costs a comma.

With that the fuel can be forgotten.  `Items` and `Entries` say what it is to read items and members
one after the other until none follows, as relations without a bound, and the walks do just that.
-/
import LineCut.Json.Reader

namespace LineCut

/-- An outcome that is changed is there if it was. -/
theorem map_eq_ok_iff {ε α β : Type} {f : α → β} {outcome : Except ε α} {y : β} :
    outcome.map f = .ok y ↔ ∃ x, outcome = .ok x ∧ f x = y := by
  cases outcome <;> simp [Except.map]

namespace Json

/-- What is left at the one cursor is an end of what is left at the other. -/
def Cursor.Reaches (c behind : Cursor) : Prop :=
  behind.rest <:+ c.rest

/-- Behind the blanks stands this character. -/
def Cursor.Faces (c : Cursor) (char : Char) : Prop :=
  ∃ rest, c.skip.rest = char :: rest

/-- Where the reader stops, it has not gone back. -/
structure Advances {α : Type} (reader : Cursor → Read α) : Prop where
  reaches : ∀ {c : Cursor} {x : α} {behind : Cursor}, reader c = .ok (x, behind) → c.Reaches behind

variable {c behind : Cursor}

theorem Cursor.Reaches.refl (c : Cursor) : c.Reaches c :=
  List.suffix_refl c.rest

theorem Cursor.Reaches.trans {a b c : Cursor} (hab : a.Reaches b) (hbc : b.Reaches c) :
    a.Reaches c :=
  List.IsSuffix.trans hbc hab

theorem Cursor.Reaches.length_le (h : c.Reaches behind) : behind.rest.length ≤ c.rest.length :=
  List.IsSuffix.length_le h

theorem Cursor.reaches_next (c : Cursor) : c.Reaches c.next := by
  obtain ⟨rest, offset⟩ := c
  cases rest with
  | nil => exact .refl _
  | cons char rest => exact List.suffix_cons char rest

theorem Cursor.reaches_skip (c : Cursor) : c.Reaches c.skip :=
  List.dropWhile_suffix _

theorem Cursor.length_next_lt {c : Cursor} {char : Char} {rest : List Char}
    (h : c.rest = char :: rest) :
    c.next.rest.length < c.rest.length := by
  obtain ⟨_, offset⟩ := c
  subst h
  exact Nat.lt_succ_self rest.length

theorem cursor_eq_of_ok {α : Type} {x y : α} (h : (.ok (x, c) : Read α) = .ok (y, behind)) :
    c = behind := by
  cases h
  rfl

/-! ### Words -/

theorem reaches_word {letters : List Char} (h : word letters c = .ok behind) :
    c.Reaches behind := by
  induction letters generalizing c with
  | nil =>
    cases h
    exact .refl _
  | cons letter letters ih =>
    unfold word at h
    split at h
    · cases h
    · split at h
      · exact c.reaches_next.trans (ih h)
      · cases h

/-! ### Numbers

That a number is read as a number is said along with it, since it takes the same cases.
-/

/-- The value is a number. -/
def IsNumber : Json → Prop
  | .int _ | .real _ => True
  | _ => False

theorem reaches_digits {ds : List Nat} (h : digits c = (ds, behind)) : c.Reaches behind := by
  cases h
  exact List.drop_suffix _ _

theorem isNumber_integer (negative : Bool) (n : Nat) : (integer negative n).IsNumber := by
  unfold integer
  split
  · split <;> trivial
  · trivial

section Numbers

variable {value : Json} {negative : Bool} {kept : Nat}

theorem scaled_ok {exponent : Int} (h : scaled negative kept exponent c = .ok (value, behind)) :
    c.Reaches behind ∧ value.IsNumber := by
  unfold scaled at h
  split at h
  · cases h
  · cases h
    exact ⟨.refl _, trivial⟩

/-- Behind the letter of an exponent there may be a sign. -/
theorem reaches_exponentSign : c.Reaches (match c.next.look with
    | some '+' => (false, c.next.next)
    | some '-' => (true, c.next.next)
    | _ => (false, c.next)).2 := by
  split
  · exact c.reaches_next.trans c.next.reaches_next
  · exact c.reaches_next.trans c.next.reaches_next
  · exact c.reaches_next

theorem exponentPart_ok {before : Int}
    (h : exponentPart negative kept before c = .ok (value, behind)) :
    c.Reaches behind ∧ value.IsNumber := by
  unfold exponentPart at h
  simp only at h
  split at h
  · split at h <;> cases h
  · next hdigits =>
    have hbehind := reaches_exponentSign.trans (reaches_digits hdigits)
    split at h
    · have hscaled := scaled_ok h
      exact ⟨hbehind.trans hscaled.1, hscaled.2⟩
    · -- a number too large is refused, and one too small is zero
      generalize (kept != 0 && !_) = refused at h
      cases refused with
      | true => cases h
      | false =>
        simp only [Bool.false_eq_true, if_false, Except.ok.injEq, Prod.mk.injEq] at h
        obtain ⟨rfl, rfl⟩ := h
        exact ⟨hbehind, trivial⟩

theorem fractionPart_ok {dropped : Nat}
    (h : fractionPart negative kept dropped c = .ok (value, behind)) :
    c.Reaches behind ∧ value.IsNumber := by
  unfold fractionPart at h
  split at h
  · split at h <;> cases h
  · next hdigits =>
    have hbehind := c.reaches_next.trans (reaches_digits hdigits)
    simp only at h
    split at h
    · have hexponent := exponentPart_ok h
      exact ⟨hbehind.trans hexponent.1, hexponent.2⟩
    · have hscaled := scaled_ok h
      exact ⟨hbehind.trans hscaled.1, hscaled.2⟩

theorem wholePart_ok {dropped : Nat}
    (h : wholePart negative kept dropped c = .ok (value, behind)) :
    c.Reaches behind ∧ value.IsNumber := by
  unfold wholePart at h
  split at h
  · exact fractionPart_ok h
  · split at h
    · exact exponentPart_ok h
    · split at h
      · cases h
        exact ⟨.refl _, isNumber_integer _ _⟩
      · exact scaled_ok h

theorem unsigned_ok (h : unsigned negative c = .ok (value, behind)) :
    c.Reaches behind ∧ value.IsNumber := by
  unfold unsigned at h
  split at h
  · split at h <;> cases h
  · next hdigits =>
    split at h
    · have hwhole := wholePart_ok h
      exact ⟨(reaches_digits hdigits).trans hwhole.1, hwhole.2⟩
    · cases h
  · next hdigits =>
    have hwhole := wholePart_ok h
    exact ⟨(reaches_digits hdigits).trans hwhole.1, hwhole.2⟩

theorem number_ok (h : number c = .ok (value, behind)) :
    c.Reaches behind ∧ value.IsNumber := by
  unfold number at h
  split at h
  · have hunsigned := unsigned_ok h
    exact ⟨c.reaches_next.trans hunsigned.1, hunsigned.2⟩
  · exact unsigned_ok h

end Numbers

/-! ### Texts -/

theorem advances_codeUnit : Advances codeUnit := by
  refine ⟨fun {c code behind} h => ?_⟩
  unfold codeUnit at h
  split at h
  · cases h
    exact List.drop_suffix _ _
  · split at h <;> cases h

theorem advances_lowSurrogate (high : Nat) : Advances (lowSurrogate high) := by
  refine ⟨fun {c char behind} h => ?_⟩
  unfold lowSurrogate at h
  split at h
  · cases h
  · cases h
  · split at h
    · cases h
    · next hcode =>
      split at h
      · have hstart := c.reaches_next.trans c.next.reaches_next
        exact cursor_eq_of_ok h ▸ hstart.trans (advances_codeUnit.reaches hcode)
      · cases h
  · cases h
  · cases h

theorem advances_escape : Advances escape := by
  refine ⟨fun {c char behind} h => ?_⟩
  unfold escape at h
  split at h
  case h_10 =>
    split at h
    · cases h
    · next hcode =>
      have hbehind := c.reaches_next.trans (advances_codeUnit.reaches hcode)
      split at h
      · cases h
      · split at h
        · exact hbehind.trans ((advances_lowSurrogate _).reaches h)
        · cases h
          exact hbehind
  all_goals cases h
  all_goals exact c.reaches_next

/-- The fuel of a text is spent on characters, each of which is behind the one before it. -/
theorem reaches_textChars {fuel taken : List Char} {text : String}
    (h : textChars fuel taken c = .ok (text, behind)) : c.Reaches behind := by
  induction fuel generalizing taken c with
  | nil => cases h
  | cons mark fuel ih =>
    unfold textChars at h
    split at h
    · cases h
    · split at h
      · cases h
        exact c.reaches_next
      · split at h
        · split at h
          · cases h
          · next hescape =>
            exact (c.reaches_next.trans (advances_escape.reaches hescape)).trans (ih h)
        · split at h
          · cases h
          · exact c.reaches_next.trans (ih h)

theorem advances_textBody : Advances textBody where
  reaches h := reaches_textChars h

/-- A value without items stops where it began or further on. -/
theorem reaches_scalar {value : Json} (h : scalar? c = some (.ok (value, behind))) :
    c.Reaches behind := by
  unfold scalar? at h
  have hword : ∀ {letters : List Char} {x : Json},
      (word letters c.next).map (fun d => (x, d)) = .ok (value, behind) → c.Reaches behind := by
    intro letters x hmap
    obtain ⟨d, hread, heq⟩ := map_eq_ok_iff.mp hmap
    cases heq
    exact c.reaches_next.trans (reaches_word hread)
  split at h
  · exact hword (Option.some.inj h)
  · exact hword (Option.some.inj h)
  · exact hword (Option.some.inj h)
  · obtain ⟨⟨text, d⟩, hread, heq⟩ := map_eq_ok_iff.mp (Option.some.inj h)
    cases heq
    exact c.reaches_next.trans (advances_textBody.reaches hread)
  · split at h
    · exact (number_ok (Option.some.inj h)).1
    · cases h
  · cases h

/-! ### Arrays -/

theorem reaches_nextItem {first more : Bool} (h : nextItem first c = .ok (more, behind)) :
    c.Reaches behind := by
  unfold nextItem at h
  simp only at h
  have hcomma := (c.reaches_skip.trans c.skip.reaches_next).trans c.skip.next.reaches_skip
  split at h
  · cases h
  · cases h
    exact c.reaches_skip
  · split at h
    · cases h
      exact c.reaches_skip
    · split at h <;> cases h
      exact hcomma
  · split at h <;> cases h
    exact c.reaches_skip

theorem nextItem_of_nil {first more : Bool} (h : c.rest = []) :
    nextItem first c ≠ .ok (more, behind) := by
  simp [nextItem, Cursor.skip, h]

/-- Every item but the first costs its comma. -/
theorem length_lt_of_nextItem (h : nextItem false c = .ok (true, behind)) :
    behind.rest.length < c.rest.length := by
  unfold nextItem at h
  simp only at h
  split at h
  · cases h
  · cases h
  · next hlook =>
    have hcomma := Cursor.length_next_lt hlook
    have hskip := c.reaches_skip.length_le
    have hnext := c.skip.next.reaches_skip.length_le
    split at h
    · contradiction
    · split at h <;> cases h
      omega
  · split at h
    · contradiction
    · cases h

theorem reaches_closeArray (h : closeArray c = .ok behind) : c.Reaches behind := by
  unfold closeArray at h
  simp only at h
  split at h
  · cases h
  · cases h
    exact c.reaches_skip.trans c.skip.reaches_next
  · split at h <;> cases h
  · cases h

/-- Items one after the other, the last of which no other follows. -/
inductive Items {α : Type} (item : Cursor → Read α) : Bool → Cursor → List α → Cursor → Prop
  | nil {first : Bool} {c behind : Cursor} (hnext : nextItem first c = .ok (false, behind)) :
      Items item first c [] behind
  | cons {first : Bool} {c start middle behind : Cursor} {x : α} {xs : List α}
      (hnext : nextItem first c = .ok (true, start)) (hitem : item start = .ok (x, middle))
      (hrest : Items item false middle xs behind) : Items item first c (x :: xs) behind

theorem Items.reaches {α : Type} {item : Cursor → Read α} (hitem : Advances item) {first : Bool}
    {xs : List α} (h : Items item first c xs behind) : c.Reaches behind := by
  induction h with
  | nil hnext => exact reaches_nextItem hnext
  | cons hnext hread _ ih => exact ((reaches_nextItem hnext).trans (hitem.reaches hread)).trans ih

/-- **The walk through an array reads its items**, given fuel for the text that is left, and for one
item more if the first needs no comma. -/
theorem items_eq_ok_iff {α : Type} {item : Cursor → Read α} (hitem : Advances item)
    {fuel : List Char} {first : Bool} {xs : List α}
    (hfuel : c.rest.length < fuel.length + (if first then 0 else 1)) :
    items item fuel first c = .ok (xs, behind) ↔ Items item first c xs behind := by
  induction fuel generalizing first c xs with
  | nil =>
    have hrest : c.rest = [] := by
      cases first <;> simp at hfuel
      exact hfuel
    constructor
    · intro h
      cases h
    · intro h
      cases h with
      | nil hnext => exact absurd hnext (nextItem_of_nil hrest)
      | cons hnext _ _ => exact absurd hnext (nextItem_of_nil hrest)
  | cons mark fuel ih =>
    unfold items
    have hless : ∀ {start middle : Cursor} {x : α}, nextItem first c = .ok (true, start) →
        item start = .ok (x, middle) → middle.rest.length < fuel.length + 1 := by
      intro start middle x hnext hread
      have hmiddle := (hitem.reaches hread).length_le
      simp only [List.length_cons] at hfuel
      cases first with
      | true =>
        have hstart := (reaches_nextItem hnext).length_le
        simp only [if_true] at hfuel
        omega
      | false =>
        have hstart := length_lt_of_nextItem hnext
        simp only [Bool.false_eq_true, if_false] at hfuel
        omega
    constructor
    · intro h
      split at h
      · cases h
      · next hnext =>
        cases h
        exact .nil hnext
      · next start hnext =>
        split at h
        · cases h
        · next x middle hread =>
          split at h
          · cases h
          · next rest _ hrest =>
            cases h
            exact .cons hnext hread ((ih (hless hnext hread)).mp hrest)
    · intro h
      cases h with
      | nil hnext => simp only [hnext]
      | cons hnext hread hrest =>
        simp only [hnext, hread, (ih (hless hnext hread)).mpr hrest]

/-- The text itself is fuel enough, whether or not a comma comes first. -/
theorem items_fuel_iff {α : Type} {item : Cursor → Read α} (hitem : Advances item) {first : Bool}
    {xs : List α} :
    items item c.fuel first c = .ok (xs, behind) ↔ Items item first c xs behind :=
  items_eq_ok_iff hitem (Nat.lt_of_lt_of_le (Nat.lt_succ_self _) (Nat.le_add_right _ _))

theorem advances_items {α : Type} {item : Cursor → Read α} (hitem : Advances item) :
    Advances fun c => items item c.fuel true c where
  reaches h := ((items_fuel_iff hitem).mp h).reaches hitem

theorem Advances.inArray {α : Type} {inside : Cursor → Read α} (hinside : Advances inside) :
    Advances (inArray inside) := by
  refine ⟨fun {c x behind} h => ?_⟩
  unfold Json.inArray at h
  split at h
  · cases h
  · next hread =>
    obtain ⟨d, hclose, heq⟩ := map_eq_ok_iff.mp h
    cases heq
    exact (c.reaches_next.trans (hinside.reaches hread)).trans (reaches_closeArray hclose)

/-! ### Objects -/

/-- No key follows exactly where a brace comes next. -/
theorem nextKey_none_iff {first : Bool} :
    nextKey first c = .ok (none, behind) ↔ c.Faces '\x7d' ∧ c.skip = behind := by
  unfold nextKey
  extract_lets start key
  have hkey : ∀ start, key start ≠ .ok (none, behind) := by
    intro start hstart
    simp only [key] at hstart
    split at hstart
    · cases hstart
    · obtain ⟨_, -, heq⟩ := map_eq_ok_iff.mp hstart
      cases heq
    · cases hstart
    · cases hstart
  constructor
  · intro h
    split at h
    · cases h
    · next hlook => exact ⟨⟨_, hlook⟩, cursor_eq_of_ok h⟩
    · split at h
      · exact absurd h (hkey _)
      · exact absurd h (hkey _)
    · split at h
      · exact absurd h (hkey _)
      · cases h
  · rintro ⟨⟨rest, hrest⟩, rfl⟩
    simp only [start, hrest]

/-- A key that follows is a text, which may stand behind a comma. -/
theorem nextKey_some {first : Bool} {key : String}
    (h : nextKey first c = .ok (some key, behind)) :
    ∃ start rest, c.Reaches start ∧ start.rest = '"' :: rest ∧
      textBody start.next = .ok (key, behind) := by
  unfold nextKey at h
  extract_lets start read at h
  have hread : ∀ start, c.Reaches start → read start = .ok (some key, behind) →
      ∃ start rest, c.Reaches start ∧ start.rest = '"' :: rest ∧
        textBody start.next = .ok (key, behind) := by
    intro start hreaches hstart
    simp only [read] at hstart
    split at hstart
    · cases hstart
    · next hlook =>
      obtain ⟨_, htext, heq⟩ := map_eq_ok_iff.mp hstart
      cases heq
      exact ⟨start, _, hreaches, hlook, htext⟩
    · cases hstart
    · cases hstart
  have hskip : c.Reaches start := c.reaches_skip
  split at h
  · cases h
  · cases h
  · split at h
    · exact hread _ hskip h
    · exact hread _ ((hskip.trans start.reaches_next).trans start.next.reaches_skip) h
  · split at h
    · exact hread _ hskip h
    · cases h

theorem reaches_nextKey {first : Bool} {key : String}
    (h : nextKey first c = .ok (some key, behind)) : c.Reaches behind := by
  obtain ⟨start, _, hstart, -, htext⟩ := nextKey_some h
  exact (hstart.trans start.reaches_next).trans (advances_textBody.reaches htext)

/-- Every member costs the quotes of its key. -/
theorem length_lt_of_nextKey {first : Bool} {key : String}
    (h : nextKey first c = .ok (some key, behind)) : behind.rest.length < c.rest.length := by
  obtain ⟨start, rest, hreaches, hlook, htext⟩ := nextKey_some h
  have hstart := hreaches.length_le
  have hnext := Cursor.length_next_lt hlook
  have hbehind := (advances_textBody.reaches htext).length_le
  omega

theorem reaches_colon (h : colon c = .ok behind) : c.Reaches behind := by
  unfold colon at h
  simp only at h
  split at h
  · cases h
  · cases h
    exact c.reaches_skip.trans c.skip.reaches_next
  · cases h

theorem reaches_closeObject (h : closeObject c = .ok behind) : c.Reaches behind := by
  unfold closeObject at h
  simp only at h
  split at h
  · cases h
  · cases h
    exact c.reaches_skip.trans c.skip.reaches_next
  · cases h
  · cases h

/-- Members one after the other, of which no more follow behind the last. -/
inductive Entries (value : Cursor → Read Json) :
    Bool → Cursor → List (String × Json) → Cursor → Prop
  | nil {first : Bool} {c behind : Cursor} (hnext : nextKey first c = .ok (none, behind)) :
      Entries value first c [] behind
  | cons {first : Bool} {c mark start middle behind : Cursor} {key : String} {v : Json}
      {rest : List (String × Json)} (hnext : nextKey first c = .ok (some key, mark))
      (hcolon : colon mark = .ok start) (hvalue : value start = .ok (v, middle))
      (hrest : Entries value false middle rest behind) :
      Entries value first c ((key, v) :: rest) behind

theorem Entries.reaches {value : Cursor → Read Json} (hvalue : Advances value) {first : Bool}
    {entries : List (String × Json)} (h : Entries value first c entries behind) :
    c.Reaches behind := by
  induction h with
  | nil hnext => exact (nextKey_none_iff.mp hnext).2 ▸ Cursor.reaches_skip _
  | cons hnext hcolon hread _ ih =>
    have hkey := reaches_nextKey hnext
    exact ((hkey.trans (reaches_colon hcolon)).trans (hvalue.reaches hread)).trans ih

/-- Members are taken one after the other, from the one state to the other. -/
inductive Steps {σ : Type} (step : σ → String × Json → σ → Prop) :
    σ → List (String × Json) → σ → Prop
  | nil (state : σ) : Steps step state [] state
  | cons {state next after : σ} {entry : String × Json} {rest : List (String × Json)}
      (hstep : step state entry next) (hrest : Steps step next rest after) :
      Steps step state (entry :: rest) after

/-- The reader of a member reads its colon and its value, and takes the one state to the other as
the key and the value ask for. -/
structure Takes {σ : Type} (member : σ → String → Cursor → Read σ) (value : Cursor → Read Json)
    (step : σ → String × Json → σ → Prop) : Prop where
  iff : ∀ {state : σ} {key : String} {c : Cursor} {after : σ} {behind : Cursor},
    member state key c = .ok (after, behind) ↔
      ∃ start v, colon c = .ok start ∧ value start = .ok (v, behind) ∧ step state (key, v) after

/-- **The walk through an object takes its members**, given fuel for the text that is left. -/
theorem members_eq_ok_iff {σ : Type} {member : σ → String → Cursor → Read σ}
    {value : Cursor → Read Json} {step : σ → String × Json → σ → Prop}
    (hvalue : Advances value) (hmember : Takes member value step) {fuel : List Char}
    {first : Bool} {state after : σ} (hfuel : c.rest.length < fuel.length) :
    members member fuel first state c = .ok (after, behind) ↔
      ∃ entries, Entries value first c entries behind ∧ Steps step state entries after := by
  induction fuel generalizing first state c with
  | nil => exact absurd hfuel (Nat.not_lt_zero _)
  | cons mark fuel ih =>
    have hless : ∀ {mark start middle : Cursor} {key : String} {v : Json},
        nextKey first c = .ok (some key, mark) → colon mark = .ok start →
        value start = .ok (v, middle) → middle.rest.length < fuel.length := by
      intro mark start middle key v hnext hcolon hread
      have hmark := length_lt_of_nextKey hnext
      have hmiddle := ((reaches_colon hcolon).trans (hvalue.reaches hread)).length_le
      simp only [List.length_cons] at hfuel
      omega
    unfold members
    constructor
    · intro h
      split at h
      · cases h
      · next hnext =>
        cases h
        exact ⟨[], .nil hnext, .nil _⟩
      · next key mark hnext =>
        split at h
        · cases h
        · next next middle hread =>
          obtain ⟨start, v, hcolon, hv, hstep⟩ := hmember.iff.mp hread
          obtain ⟨entries, hentries, hsteps⟩ := (ih (hless hnext hcolon hv)).mp h
          exact ⟨(key, v) :: entries, .cons hnext hcolon hv hentries, .cons hstep hsteps⟩
    · rintro ⟨entries, hentries, hsteps⟩
      cases hentries with
      | nil hnext =>
        cases hsteps
        simp only [hnext]
      | cons hnext hcolon hv hrest =>
        cases hsteps with
        | cons hstep hsteps =>
          have hread := hmember.iff.mpr ⟨_, _, hcolon, hv, hstep⟩
          simp only [hnext, hread]
          exact (ih (hless hnext hcolon hv)).mpr ⟨_, hrest, hsteps⟩

/-- Members of which nothing is known are kept. -/
theorem takes_anyMember (value : Cursor → Read Json) :
    Takes (anyMember value) value fun before entry after => after = before ++ [entry] := by
  refine ⟨fun {state key c after behind} => ?_⟩
  unfold anyMember
  cases hcolon : colon c with
  | error failure => simp
  | ok start =>
    simp only [map_eq_ok_iff]
    constructor
    · rintro ⟨⟨v, d⟩, hread, heq⟩
      cases heq
      exact ⟨start, v, rfl, hread, rfl⟩
    · rintro ⟨_, v, heq, hread, rfl⟩
      cases heq
      exact ⟨(v, behind), hread, rfl⟩

theorem steps_append_iff {before entries after : List (String × Json)} :
    Steps (fun before entry after => after = before ++ [entry]) before entries after ↔
      after = before ++ entries := by
  induction entries generalizing before with
  | nil =>
    rw [List.append_nil]
    exact ⟨fun h => by cases h; rfl, fun h => h ▸ .nil _⟩
  | cons entry entries ih =>
    constructor
    · intro h
      cases h with
      | cons hstep hrest =>
        rw [ih.mp hrest, hstep, List.append_assoc, List.singleton_append]
    · intro h
      refine .cons rfl (ih.mpr ?_)
      rw [h, List.append_assoc, List.singleton_append]

theorem members_anyMember_iff {value : Cursor → Read Json} (hvalue : Advances value)
    {all : List (String × Json)} :
    members (anyMember value) c.fuel true [] c = .ok (all, behind) ↔
      Entries value true c all behind := by
  rw [members_eq_ok_iff hvalue (takes_anyMember value) (Nat.lt_succ_self _)]
  constructor
  · rintro ⟨entries, hentries, hsteps⟩
    rw [steps_append_iff.mp hsteps]
    exact hentries
  · intro h
    exact ⟨all, h, steps_append_iff.mpr rfl⟩

theorem advances_members {value : Cursor → Read Json} (hvalue : Advances value) :
    Advances fun c => members (anyMember value) c.fuel true [] c where
  reaches h := ((members_anyMember_iff hvalue).mp h).reaches hvalue

theorem Advances.inObject {α : Type} {inside : Cursor → Read α} (hinside : Advances inside) :
    Advances (inObject inside) := by
  refine ⟨fun {c x behind} h => ?_⟩
  unfold Json.inObject at h
  split at h
  · cases h
  · next hread =>
    obtain ⟨d, hclose, heq⟩ := map_eq_ok_iff.mp h
    cases heq
    exact (c.reaches_next.trans (hinside.reaches hread)).trans (reaches_closeObject hclose)

/-! ### Any value -/

theorem advances_valueWith {nested : Option (Cursor → Read Json)}
    (hnested : ∀ value, nested = some value → Advances value) : Advances (valueWith nested) := by
  refine ⟨fun {c v behind} h => ?_⟩
  unfold valueWith at h
  simp only at h
  split at h
  · next hscalar =>
    subst h
    exact c.reaches_skip.trans (reaches_scalar hscalar)
  · split at h
    · cases h
    · cases nested with
      | none => cases h
      | some value =>
        have hvalue := hnested value rfl
        obtain ⟨⟨vs, d⟩, hread, heq⟩ := map_eq_ok_iff.mp h
        cases heq
        exact c.reaches_skip.trans ((advances_items hvalue).inArray.reaches hread)
    · cases nested with
      | none => cases h
      | some value =>
        have hvalue := hnested value rfl
        obtain ⟨⟨ms, d⟩, hread, heq⟩ := map_eq_ok_iff.mp h
        cases heq
        exact c.reaches_skip.trans ((advances_members hvalue).inObject.reaches hread)
    · cases h

/-- **Reading any value goes forward.** -/
theorem advances_value (limit : Nat) : Advances (value limit) := by
  induction limit with
  | zero => exact advances_valueWith fun _ h => nomatch h
  | succ limit ih =>
    refine advances_valueWith fun nested h => ?_
    rw [← Option.some.inj h]
    exact ih

end Json

end LineCut
