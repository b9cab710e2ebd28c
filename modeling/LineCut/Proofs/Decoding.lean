/-
Readers of a shape and the reader of values.

A reader that wants a shape reads it straight from the text and never builds a value.  It ought to
make no difference: read the text as a value first, and then ask what the value means.  `Decodes`
says that it makes none, for one reader and one meaning, and about success alone.  Of failures it is
not true, since a text is left at the first fault that is met, and a reader that wants a shape meets
other ones.

`Shaped` says what it is to read a value, with a case for each kind.  Which case it is can be told
from the first character, and that is all that a reader of one shape has to agree on.
-/
import Mathlib.Data.List.DropRight
import Mathlib.Data.List.Forall2
import LineCut.Proofs.Advance
import LineCut.Proofs.Values

namespace LineCut.Json

variable {c behind : Cursor}

/-! ### What a value begins with -/

/-- Blanks are skipped once. -/
theorem skip_skip (c : Cursor) : c.skip.skip = c.skip := by
  have hrest : (c.rest.dropWhile Cursor.isBlank).dropWhile Cursor.isBlank =
      c.rest.dropWhile Cursor.isBlank := List.dropWhile_idempotent _ _
  have htaken : (c.rest.dropWhile Cursor.isBlank).takeWhile Cursor.isBlank = [] :=
    List.takeWhile_eq_nil_iff.mpr fun h => List.dropWhile_get_zero_not _ _ h
  simp only [Cursor.skip, hrest, htaken, List.length_nil, Nat.add_zero]

theorem faces_skip_iff {char : Char} : c.skip.Faces char ↔ c.Faces char := by
  unfold Cursor.Faces
  rw [skip_skip]

/-- A text stands behind the blanks, and ends in front of the cursor. -/
structure TextAt (c : Cursor) (text : String) (behind : Cursor) : Prop where
  faces : c.Faces '"'
  body : textBody c.skip.next = .ok (text, behind)

theorem textAt_skip_iff {text : String} : TextAt c.skip text behind ↔ TextAt c text behind := by
  constructor
  · rintro ⟨hfaces, hbody⟩
    rw [skip_skip] at hbody
    exact ⟨faces_skip_iff.mp hfaces, hbody⟩
  · rintro ⟨hfaces, hbody⟩
    exact ⟨faces_skip_iff.mpr hfaces, by rw [skip_skip]; exact hbody⟩

/-- What is read as a value within a bound on nesting, kind by kind. -/
inductive Shaped : Nat → Cursor → Json → Cursor → Prop
  | null {limit : Nat} {c behind : Cursor} (hfaces : c.Faces 'n')
      (hword : word ['u', 'l', 'l'] c.skip.next = .ok behind) : Shaped limit c .null behind
  | yes {limit : Nat} {c behind : Cursor} (hfaces : c.Faces 't')
      (hword : word ['r', 'u', 'e'] c.skip.next = .ok behind) : Shaped limit c (.bool true) behind
  | no {limit : Nat} {c behind : Cursor} (hfaces : c.Faces 'f')
      (hword : word ['a', 'l', 's', 'e'] c.skip.next = .ok behind) :
      Shaped limit c (.bool false) behind
  | int {limit : Nat} {c behind : Cursor} {char : Char} {n : Int} (hfaces : c.Faces char)
      (hchar : char = '-' ∨ char.isDigit = true) (hread : number c.skip = .ok (.int n, behind)) :
      Shaped limit c (.int n) behind
  | real {limit : Nat} {c behind : Cursor} {char : Char} {shown : String} (hfaces : c.Faces char)
      (hchar : char = '-' ∨ char.isDigit = true)
      (hread : number c.skip = .ok (.real shown, behind)) : Shaped limit c (.real shown) behind
  | str {limit : Nat} {c behind : Cursor} {text : String} (htext : TextAt c text behind) :
      Shaped limit c (.str text) behind
  | arr {limit : Nat} {c middle behind : Cursor} {items : List Json} (hfaces : c.Faces '[')
      (hitems : Items (value limit) true c.skip.next items middle)
      (hclose : closeArray middle = .ok behind) : Shaped (limit + 1) c (.arr items) behind
  | obj {limit : Nat} {c middle behind : Cursor} {members : List (String × Json)}
      (hfaces : c.Faces '\x7b') (hmembers : Entries (value limit) true c.skip.next members middle)
      (hclose : closeObject middle = .ok behind) : Shaped (limit + 1) c (.obj members) behind

theorem inArray_eq_ok_iff {α : Type} {inside : Cursor → Read α} {x : α} :
    inArray inside c = .ok (x, behind) ↔
      ∃ middle, inside c.next = .ok (x, middle) ∧ closeArray middle = .ok behind := by
  unfold inArray
  cases hinside : inside c.next with
  | error failure => simp
  | ok read =>
    obtain ⟨y, middle⟩ := read
    simp only [map_eq_ok_iff, Prod.mk.injEq, Except.ok.injEq]
    constructor
    · rintro ⟨d, hclose, rfl, rfl⟩
      exact ⟨middle, ⟨rfl, rfl⟩, hclose⟩
    · rintro ⟨_, ⟨rfl, rfl⟩, hclose⟩
      exact ⟨behind, hclose, rfl, rfl⟩

theorem inObject_eq_ok_iff {α : Type} {inside : Cursor → Read α} {x : α} :
    inObject inside c = .ok (x, behind) ↔
      ∃ middle, inside c.next = .ok (x, middle) ∧ closeObject middle = .ok behind := by
  unfold inObject
  cases hinside : inside c.next with
  | error failure => simp
  | ok read =>
    obtain ⟨y, middle⟩ := read
    simp only [map_eq_ok_iff, Prod.mk.injEq, Except.ok.injEq]
    constructor
    · rintro ⟨d, hclose, rfl, rfl⟩
      exact ⟨middle, ⟨rfl, rfl⟩, hclose⟩
    · rintro ⟨_, ⟨rfl, rfl⟩, hclose⟩
      exact ⟨behind, hclose, rfl, rfl⟩

theorem shaped_of_scalar {limit : Nat} {v : Json}
    (h : scalar? c.skip = some (.ok (v, behind))) : Shaped limit c v behind := by
  unfold scalar? at h
  split at h
  · next hlook =>
    obtain ⟨d, hword, heq⟩ := map_eq_ok_iff.mp (Option.some.inj h)
    cases heq
    exact .null ⟨_, hlook⟩ hword
  · next hlook =>
    obtain ⟨d, hword, heq⟩ := map_eq_ok_iff.mp (Option.some.inj h)
    cases heq
    exact .yes ⟨_, hlook⟩ hword
  · next hlook =>
    obtain ⟨d, hword, heq⟩ := map_eq_ok_iff.mp (Option.some.inj h)
    cases heq
    exact .no ⟨_, hlook⟩ hword
  · next hlook =>
    obtain ⟨⟨text, d⟩, htext, heq⟩ := map_eq_ok_iff.mp (Option.some.inj h)
    cases heq
    exact .str ⟨⟨_, hlook⟩, htext⟩
  · next hlook =>
    split at h
    · next hchar =>
      have hread := Option.some.inj h
      have hnumber := (number_ok hread).2
      have hchar := by simpa using hchar
      cases v with
      | int n => exact .int ⟨_, hlook⟩ hchar hread
      | real shown => exact .real ⟨_, hlook⟩ hchar hread
      | _ => exact hnumber.elim
    · cases h
  · cases h

theorem value_of_scalar {limit : Nat} {outcome : Read Json} (h : scalar? c.skip = some outcome) :
    value limit c = outcome := by
  cases limit <;> simp [value, valueWith, h]

/-- A sign or a digit opens a number. -/
theorem scalar?_of_number {char : Char} (hfaces : c.Faces char)
    (hchar : char = '-' ∨ char.isDigit = true) : scalar? c.skip = some (number c.skip) := by
  obtain ⟨rest, hrest⟩ := hfaces
  have hskip : c.skip = ⟨char :: rest, c.skip.offset⟩ := by rw [← hrest]
  rw [hskip]
  rcases hchar with rfl | hdigit
  · rfl
  · exact scalar?_of_isDigit hdigit rest _

/-- An array or an object may be read if a bracket may be opened, and is read one bracket less deep
inside. -/
theorem shaped_of_valueWith {limit : Nat} {nested : Option (Cursor → Read Json)} {v : Json}
    (hnested : ∀ inner, nested = some inner → ∃ n, limit = n + 1 ∧ inner = value n)
    (h : valueWith nested c = .ok (v, behind)) : Shaped limit c v behind := by
  unfold valueWith at h
  simp only at h
  split at h
  · next hscalar => exact shaped_of_scalar (h ▸ hscalar)
  · split at h
    · cases h
    · next hlook =>
      split at h
      · cases h
      · next inner =>
        obtain ⟨n, rfl, rfl⟩ := hnested inner rfl
        obtain ⟨⟨items, d⟩, hread, heq⟩ := map_eq_ok_iff.mp h
        cases heq
        obtain ⟨middle, hitems, hclose⟩ := inArray_eq_ok_iff.mp hread
        have hall := (items_fuel_iff (advances_value n)).mp hitems
        exact .arr ⟨_, hlook⟩ hall hclose
    · next hlook =>
      split at h
      · cases h
      · next inner =>
        obtain ⟨n, rfl, rfl⟩ := hnested inner rfl
        obtain ⟨⟨all, d⟩, hread, heq⟩ := map_eq_ok_iff.mp h
        cases heq
        obtain ⟨middle, hmembers, hclose⟩ := inObject_eq_ok_iff.mp hread
        exact .obj ⟨_, hlook⟩ ((members_anyMember_iff (advances_value n)).mp hmembers) hclose
    · cases h

/-- **What is read as a value has one of the shapes.** -/
theorem value_eq_ok_iff {limit : Nat} {v : Json} :
    value limit c = .ok (v, behind) ↔ Shaped limit c v behind := by
  constructor
  · intro h
    cases limit with
    | zero =>
      refine shaped_of_valueWith ?_ h
      intro inner hnone
      cases hnone
    | succ limit =>
      exact shaped_of_valueWith (fun _ hsome => ⟨limit, rfl, (Option.some.inj hsome).symm⟩) h
  · intro h
    cases h with
    | null hfaces hword =>
      obtain ⟨rest, hrest⟩ := hfaces
      have hscalar : scalar? c.skip = some (.ok (.null, behind)) := by
        simp [scalar?, hrest, hword, Except.map]
      exact value_of_scalar hscalar
    | yes hfaces hword =>
      obtain ⟨rest, hrest⟩ := hfaces
      have hscalar : scalar? c.skip = some (.ok (.bool true, behind)) := by
        simp [scalar?, hrest, hword, Except.map]
      exact value_of_scalar hscalar
    | no hfaces hword =>
      obtain ⟨rest, hrest⟩ := hfaces
      have hscalar : scalar? c.skip = some (.ok (.bool false, behind)) := by
        simp [scalar?, hrest, hword, Except.map]
      exact value_of_scalar hscalar
    | int hfaces hchar hread => rw [value_of_scalar (scalar?_of_number hfaces hchar), hread]
    | real hfaces hchar hread => rw [value_of_scalar (scalar?_of_number hfaces hchar), hread]
    | @str _ _ _ text htext =>
      obtain ⟨⟨rest, hrest⟩, hbody⟩ := htext
      have hscalar : scalar? c.skip = some (.ok (.str text, behind)) := by
        simp [scalar?, hrest, hbody, Except.map]
      exact value_of_scalar hscalar
    | @arr limit _ middle _ items hfaces hitems hclose =>
      obtain ⟨rest, hrest⟩ := hfaces
      have hread : inArray (fun c => Json.items (value limit) c.fuel true c) c.skip =
          .ok (items, behind) :=
        inArray_eq_ok_iff.mpr ⟨middle, (items_fuel_iff (advances_value limit)).mpr hitems, hclose⟩
      have hscalar : scalar? c.skip = none := by
        simp [scalar?, hrest, Char.isDigit]
      simp [value, valueWith, hscalar, hrest, hread, Except.map]
    | @obj limit _ middle _ all hfaces hmembers hclose =>
      obtain ⟨rest, hrest⟩ := hfaces
      have hread : inObject (fun c => members (anyMember (value limit)) c.fuel true [] c) c.skip =
          .ok (all, behind) :=
        inObject_eq_ok_iff.mpr
          ⟨middle, (members_anyMember_iff (advances_value limit)).mpr hmembers, hclose⟩
      have hscalar : scalar? c.skip = none := by
        simp [scalar?, hrest, Char.isDigit]
      simp [value, valueWith, hscalar, hrest, hread, Except.map]

/-- The blanks in front of a value do not matter. -/
theorem value_skip (limit : Nat) (c : Cursor) : value limit c.skip = value limit c := by
  cases limit <;> simp [value, valueWith, skip_skip]

theorem nextItem_false_iff {first : Bool} :
    nextItem first c = .ok (false, behind) ↔ c.Faces ']' ∧ c.skip = behind := by
  unfold nextItem
  simp only
  constructor
  · intro h
    split at h
    · cases h
    · next hlook =>
      cases h
      exact ⟨⟨_, hlook⟩, rfl⟩
    · split at h
      · cases h
      · split at h <;> cases h
    · split at h <;> cases h
  · rintro ⟨⟨rest, hrest⟩, rfl⟩
    simp [hrest]

theorem closeArray_iff : closeArray c = .ok behind ↔ c.Faces ']' ∧ c.skip.next = behind := by
  unfold closeArray
  simp only
  constructor
  · intro h
    split at h
    · cases h
    · next hlook =>
      cases h
      exact ⟨⟨_, hlook⟩, rfl⟩
    · split at h <;> cases h
    · cases h
  · rintro ⟨⟨rest, hrest⟩, rfl⟩
    simp [hrest]

/-! ### Readers that decode -/

/-- What the reader reads is what is read as a value that means it, and it stops where reading the
value stops. -/
structure Decodes {α : Type} (reader : Cursor → Read α) (value : Cursor → Read Json)
    (means : Json → α → Prop) : Prop where
  iff : ∀ {c : Cursor} {x : α} {behind : Cursor},
    reader c = .ok (x, behind) ↔ ∃ v, value c = .ok (v, behind) ∧ means v x

section Decodes

variable {α β : Type} {reader : Cursor → Read α} {value : Cursor → Read Json}
  {means : Json → α → Prop}

theorem Decodes.advances (h : Decodes reader value means) (hvalue : Advances value) :
    Advances reader := by
  refine ⟨fun {c x behind} hread => ?_⟩
  obtain ⟨v, hv, -⟩ := h.iff.mp hread
  exact hvalue.reaches hv

/-- Any value is what it is. -/
theorem decodes_value (limit : Nat) : Decodes (Json.value limit) (Json.value limit) Eq := by
  refine ⟨fun {c v behind} => ?_⟩
  simp

theorem Decodes.congr (h : Decodes reader value means) {other : Json → α → Prop}
    (hmeans : ∀ v x, means v x ↔ other v x) : Decodes reader value other := by
  refine ⟨fun {c x behind} => h.iff.trans ?_⟩
  simp only [hmeans]

theorem Decodes.map (h : Decodes reader value means) (f : α → β) :
    Decodes (fun c => (reader c).map fun (x, c) => (f x, c)) value
      (fun v y => ∃ x, means v x ∧ f x = y) := by
  refine ⟨fun {c y behind} => ?_⟩
  simp only [map_eq_ok_iff]
  constructor
  · rintro ⟨⟨x, d⟩, hread, heq⟩
    cases heq
    obtain ⟨v, hv, hmeans⟩ := h.iff.mp hread
    exact ⟨v, hv, x, hmeans, rfl⟩
  · rintro ⟨v, hv, x, hmeans, rfl⟩
    exact ⟨(x, behind), h.iff.mpr ⟨v, hv, hmeans⟩, rfl⟩

/-- A member is read behind its colon.  What it is kept as is up to the object it stands in. -/
theorem Decodes.member_iff {σ : Type} {outcome : Read σ} (h : Decodes reader value means)
    (keep : α → σ)
    (hok : ∀ start, colon c = .ok start → outcome = (reader start).map fun (x, c) => (keep x, c))
    (herror : ∀ failure, colon c = .error failure → outcome = .error failure) {after : σ} :
    outcome = .ok (after, behind) ↔ ∃ start v, colon c = .ok start ∧
      value start = .ok (v, behind) ∧ ∃ x, means v x ∧ keep x = after := by
  cases hcolon : colon c with
  | error failure => simp [herror failure hcolon]
  | ok start =>
    rw [hok start hcolon]
    refine (h.map keep).iff.trans ⟨?_, ?_⟩
    · rintro ⟨v, hv, hkept⟩
      exact ⟨start, v, rfl, hv, hkept⟩
    · rintro ⟨_, v, heq, hv, hkept⟩
      cases heq
      exact ⟨v, hv, hkept⟩

/-- Items decode one by one. -/
theorem Decodes.items_iff (h : Decodes reader value means) {first : Bool} {xs : List α} :
    Items reader first c xs behind ↔
      ∃ vs, Items value first c vs behind ∧ List.Forall₂ means vs xs := by
  constructor
  · intro hitems
    induction hitems with
    | nil hnext => exact ⟨[], .nil hnext, .nil⟩
    | cons hnext hitem _ ih =>
      obtain ⟨v, hv, hmeans⟩ := h.iff.mp hitem
      obtain ⟨vs, hvs, hall⟩ := ih
      exact ⟨v :: vs, .cons hnext hv hvs, .cons hmeans hall⟩
  · rintro ⟨vs, hvs, hall⟩
    induction hvs generalizing xs with
    | nil hnext =>
      cases hall
      exact .nil hnext
    | cons hnext hv _ ih =>
      cases hall with
      | cons hmeans hall => exact .cons hnext (h.iff.mpr ⟨_, hv, hmeans⟩) (ih hall)

end Decodes

/-- A text is told from other values by its quote. -/
theorem readText_eq_ok_iff {wanted text : String} :
    readText wanted c = .ok (text, behind) ↔ TextAt c text behind := by
  unfold readText
  simp only
  constructor
  · intro h
    split at h
    · cases h
    · next hlook => exact ⟨⟨_, hlook⟩, h⟩
    · cases h
  · rintro ⟨⟨rest, hrest⟩, hbody⟩
    simp [hrest, hbody]

theorem decodes_readText (wanted : String) (limit : Nat) :
    Decodes (readText wanted) (value limit) fun v text => v = .str text := by
  refine ⟨fun {c text behind} => ?_⟩
  rw [readText_eq_ok_iff]
  simp only [value_eq_ok_iff]
  constructor
  · intro h
    exact ⟨.str text, .str h, rfl⟩
  · rintro ⟨_, hshaped, rfl⟩
    cases hshaped with
    | str htext => exact htext

theorem decodes_readBool (limit : Nat) :
    Decodes readBool (value limit) fun v b => v = .bool b := by
  refine ⟨fun {c b behind} => ?_⟩
  simp only [value_eq_ok_iff]
  unfold readBool
  simp only
  constructor
  · intro h
    split at h
    · cases h
    · next hlook =>
      obtain ⟨d, hword, heq⟩ := map_eq_ok_iff.mp h
      cases heq
      exact ⟨_, .yes ⟨_, hlook⟩ hword, rfl⟩
    · next hlook =>
      obtain ⟨d, hword, heq⟩ := map_eq_ok_iff.mp h
      cases heq
      exact ⟨_, .no ⟨_, hlook⟩ hword, rfl⟩
    · cases h
  · rintro ⟨_, hshaped, rfl⟩
    cases hshaped with
    | yes hfaces hword =>
      obtain ⟨rest, hrest⟩ := hfaces
      simp [hrest, hword, Except.map]
    | no hfaces hword =>
      obtain ⟨rest, hrest⟩ := hfaces
      simp [hrest, hword, Except.map]

/-- **An array decodes if its items do**, one bracket further in. -/
theorem decodes_readList {α : Type} {item : Cursor → Read α} {limit : Nat}
    {means : Json → α → Prop} (h : Decodes item (value limit) means) :
    Decodes (readList (some item)) (value (limit + 1))
      fun v xs => ∃ vs, v = .arr vs ∧ List.Forall₂ means vs xs := by
  refine ⟨fun {c xs behind} => ?_⟩
  simp only [value_eq_ok_iff]
  unfold readList
  simp only
  have hitems : ∀ {middle}, items item c.skip.next.fuel true c.skip.next = .ok (xs, middle) ↔
      ∃ vs, Items (value limit) true c.skip.next vs middle ∧ List.Forall₂ means vs xs :=
    (items_fuel_iff (h.advances (advances_value limit))).trans h.items_iff
  constructor
  · intro hread
    split at hread
    · cases hread
    · next hlook =>
      obtain ⟨middle, hinside, hclose⟩ := inArray_eq_ok_iff.mp hread
      obtain ⟨vs, hvs, hall⟩ := hitems.mp hinside
      exact ⟨.arr vs, .arr ⟨_, hlook⟩ hvs hclose, vs, rfl, hall⟩
    · cases hread
  · rintro ⟨_, hshaped, vs, rfl, hall⟩
    cases hshaped with
    | arr hfaces hvs hclose =>
      obtain ⟨rest, hrest⟩ := hfaces
      simp only [hrest]
      exact inArray_eq_ok_iff.mpr ⟨_, hitems.mpr ⟨vs, hvs, hall⟩, hclose⟩

/-- No array is read where no bracket may be opened. -/
theorem decodes_readList_none {α : Type} {means : List Json → List α → Prop} :
    Decodes (readList (none : Option (Cursor → Read α))) (value 0)
      fun v xs => ∃ vs, v = .arr vs ∧ means vs xs := by
  refine ⟨fun {c xs behind} => ?_⟩
  simp only [value_eq_ok_iff]
  unfold readList
  simp only
  constructor
  · intro hread
    split at hread <;> cases hread
  · rintro ⟨_, hshaped, vs, rfl, -⟩
    cases hshaped

/-! ### Objects -/

/-- The first key of an object is a text that stands there. -/
theorem nextKey_first_iff {key : String} :
    nextKey true c = .ok (some key, behind) ↔ TextAt c key behind := by
  unfold nextKey
  extract_lets start read
  have hread : read start = .ok (some key, behind) ↔ TextAt c key behind := by
    simp only [read, start]
    constructor
    · intro h
      split at h
      · cases h
      · next hlook =>
        obtain ⟨⟨text, d⟩, htext, heq⟩ := map_eq_ok_iff.mp h
        cases heq
        exact ⟨⟨_, hlook⟩, htext⟩
      · cases h
      · cases h
    · rintro ⟨⟨rest, hrest⟩, hbody⟩
      simp [hrest, hbody, Except.map]
  have hnot : ∀ char more, start.rest = char :: more → char ≠ '"' → ¬ TextAt c key behind := by
    rintro char more hlook hchar ⟨⟨rest, hrest⟩, -⟩
    exact hchar (List.cons.inj (hlook.symm.trans hrest)).1
  split
  · next hlook =>
    simp only [reduceCtorEq, false_iff]
    rintro ⟨⟨rest, hrest⟩, -⟩
    exact List.cons_ne_nil _ _ (hrest.symm.trans hlook)
  · next hlook =>
    simp only [Except.ok.injEq, Prod.mk.injEq, reduceCtorEq, false_and, false_iff]
    exact hnot _ _ hlook (by decide)
  · exact hread
  · exact hread

theorem closeObject_iff :
    closeObject c = .ok behind ↔ c.Faces '\x7d' ∧ c.skip.next = behind := by
  unfold closeObject
  simp only
  constructor
  · intro h
    split at h
    · cases h
    · next hlook =>
      cases h
      exact ⟨⟨_, hlook⟩, rfl⟩
    · cases h
    · cases h
  · rintro ⟨⟨rest, hrest⟩, rfl⟩
    simp [hrest]

/-- **An object decodes if its members do**, taken one after the other from what there is before the
first of them. -/
theorem members_fuel_iff {σ : Type} {member : σ → String → Cursor → Read σ} {limit : Nat}
    {step : σ → String × Json → σ → Prop} (h : Takes member (value limit) step) {state after : σ} :
    members member c.fuel true state c = .ok (after, behind) ↔
      ∃ entries, Entries (value limit) true c entries behind ∧ Steps step state entries after :=
  members_eq_ok_iff (advances_value limit) h (Nat.lt_succ_self _)

/-! ### A whole text -/

/-- The text, blanks aside, is the value. -/
def Says (text : String) (v : Json) : Prop :=
  whole (value nestingLimit) text = .ok v

theorem whole_eq_ok_iff {α : Type} {reader : Cursor → Read α} {text : String} {x : α} :
    whole reader text = .ok x ↔
      ∃ c, reader (.start text) = .ok (x, c) ∧ c.skip.rest = [] := by
  unfold whole
  constructor
  · intro h
    split at h
    · cases h
    · next c hread =>
      simp only at h
      split at h
      · next hend =>
        cases h
        exact ⟨c, hread, List.isEmpty_iff.mp hend⟩
      · cases h
  · rintro ⟨c, hread, hend⟩
    simp [hread, hend]

/-- What is printed says what was printed. -/
theorem says_print {v : Json} (hplain : Plain v) (hdepth : v.depth ≤ nestingLimit) :
    Says v.print v := by
  have hwhole := whole_of_reads (reads_value nestingLimit v hdepth) (spells_chars hplain)
    blanks_nil blanks_nil
  simpa [Says, print] using hwhole

/-- A whole text decodes if its reader does. -/
theorem Decodes.whole_iff {α : Type} {reader : Cursor → Read α} {means : Json → α → Prop}
    (h : Decodes reader (value nestingLimit) means) {text : String} {x : α} :
    whole reader text = .ok x ↔ ∃ v, Says text v ∧ means v x := by
  simp only [Says, whole_eq_ok_iff, h.iff]
  constructor
  · rintro ⟨c, ⟨v, hv, hmeans⟩, hend⟩
    exact ⟨v, ⟨c, hv, hend⟩, hmeans⟩
  · rintro ⟨v, ⟨c, hv, hend⟩, hmeans⟩
    exact ⟨c, ⟨v, hv, hmeans⟩, hend⟩

end LineCut.Json
