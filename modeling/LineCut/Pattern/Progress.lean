/-
How far a line has got in an expression.

A line is read once, from its first character to its last.  At each place, the steps across the
character just read are marked.  The marks say all there is to know about what was read: where a
part of the expression ends, the part that follows it begins.  So the work for a character is one
visit to each part, however deeply repetitions are nested, and however many ways there are.

Inside a repetition it counts in which round a step was made.  For that a mark is not yes or no,
but a set of lanes.  Outside of all repetitions there is one lane.  The body of a repetition has
for each round as many lanes as there are around the repetition: with `width` lanes around,
round `i` on lane `j` is lane `i * width + j` of the body.  As a set of lanes is a number whose
binary digits say which lanes are in it, going on to the next round is a shift by `width` digits,
and no part is ever copied, whatever the counts are.

Rounds are told apart only as far as it matters.  When there is no upper limit, that is up to the
lower one: the last round told apart then stands for all later ones.
-/
import LineCut.Pattern.Expr

namespace LineCut.Pattern

/-! ### Lanes -/

/-- A set of lanes; lane `i` is in it if binary digit `i` is one. -/
abbrev Lanes := Nat

namespace Lanes

/-- How often a number has to be halved, rounding up, until it is one. -/
def halvings (count : Nat) : Nat :=
  if count ≤ 1 then 0 else (count - 1).log2 + 1

/-- The lanes of each round also in the next `2 ^ doublings - 1` rounds. -/
def held (width : Nat) : (doublings : Nat) → Lanes → Lanes
  | 0, lanes => lanes
  | doublings + 1, lanes =>
    let lanes := held width doublings lanes
    lanes ||| (lanes <<< (width <<< doublings))

/-- The lanes of `2 ^ doublings` rounds, without the round. -/
def merged (width : Nat) : (doublings : Nat) → Lanes → Lanes
  | 0, lanes => lanes
  | doublings + 1, lanes =>
    let half := width <<< doublings
    let late := lanes >>> half
    merged width doublings (late ||| (lanes ^^^ (late <<< half)))

end Lanes

/-! ### Standing -/

/-- How a part of an expression stands at a place: whether it can be passed without taking a
character, on which lanes its end has been reached by the character just read, and whether nothing
in it depends on the place, since no step in it is marked and nothing is asked. -/
structure Standing where
  passable : Bool
  arrived : Lanes
  still : Bool
  deriving Repr

namespace Standing

/-- The lanes on which the end is reached if the part is entered on the given ones. -/
def through (s : Standing) (entry : Lanes) : Lanes :=
  if s.passable then s.arrived ||| entry else s.arrived

/-- One part followed by another. -/
def followed (s t : Standing) : Standing :=
  ⟨s.passable && t.passable, t.through s.arrived, s.still && t.still⟩

/-- One part or another. -/
def either (s t : Standing) : Standing :=
  ⟨s.passable || t.passable, s.arrived ||| t.arrived, s.still && t.still⟩

end Standing

/-! ### Rounds -/

/-- The rounds of a repetition: how many there have to be, how many are told apart, and whether
there may be more than that. -/
structure Rounds where
  low : Nat
  apart : Nat
  endless : Bool
  deriving DecidableEq, Repr

namespace Rounds

/-- From `low` to `high` rounds. -/
def between (low : Nat) : (high : Option Nat) → Rounds
  | some high => ⟨low, high, false⟩
  | none => ⟨low, max low 1, true⟩

/-- The lanes, by the number of rounds that are over, if the repetition is entered on the given
ones and its body stands as it does.  A body that can be passed makes further rounds free. -/
def finished (rounds : Rounds) (width : Nat) (body : Standing) (entry : Lanes) : Lanes :=
  let lanes := entry ||| (body.arrived <<< width)
  if body.passable && lanes != 0 then
    let counts := rounds.apart + 1
    lanes.held width (Lanes.halvings counts) % (1 <<< (counts * width))
  else lanes

/-- The lanes on which enough rounds are over. -/
def exits (rounds : Rounds) (width : Nat) (finished : Lanes) : Lanes :=
  (finished >>> (rounds.low * width)).merged width
    (Lanes.halvings (rounds.apart + 1 - rounds.low))

/-- The lanes of the body on which a round begins. -/
def entries (rounds : Rounds) (width : Nat) (finished : Lanes) : Lanes :=
  let last := finished >>> (rounds.apart * width)
  let others := finished ^^^ (last <<< (rounds.apart * width))
  if rounds.endless then others ||| (last <<< ((rounds.apart - 1) * width)) else others

/-- How a repetition stands if its body stands as it does. -/
def standing (rounds : Rounds) (width : Nat) (body : Standing) : Standing :=
  ⟨rounds.low == 0 || body.passable, rounds.exits width (rounds.finished width body 0), body.still⟩

end Rounds

/-! ### Progress -/

/-- An expression with the steps marked that have just been made, and with the answers to what it
asks of the place that has been reached. -/
inductive Progress where
  | stay
  | across (set : Unicode.CharSet) (lanes : Lanes)
  | at (look : Look) (holds : Bool)
  | seq (standing : Standing) (first second : Progress)
  | alt (standing : Standing) (left right : Progress)
  | rep (standing : Standing) (rounds : Rounds) (body : Progress)
  deriving Repr

namespace Progress

/-- How the expression stands. -/
def standing : Progress → Standing
  | stay => ⟨true, 0, true⟩
  | across _ lanes => ⟨false, lanes, lanes == 0⟩
  | .at _ holds => ⟨holds, 0, false⟩
  | seq s _ _ | alt s _ _ | rep s _ _ => s

/-- One expression followed by another. -/
def followed (x y : Progress) : Progress :=
  seq (x.standing.followed y.standing) x y

/-- One expression or another. -/
def either (x y : Progress) : Progress :=
  alt (x.standing.either y.standing) x y

/-- An expression in rounds. -/
def repeated (rounds : Rounds) (width : Nat) (x : Progress) : Progress :=
  rep (rounds.standing width x.standing) rounds x

/-- Nothing has been read; `after` is the first character. -/
def start (after : Option Char) : Expr Step → Progress
  | .stay => stay
  | .step (.across set) => across set 0
  | .step (.at look) => .at look (look.holds none after)
  | .seq x y => (start after x).followed (start after y)
  | .alt x y => (start after x).either (start after y)
  | .rep low high x => (start after x).repeated (.between low high) 1

/-- Read the character `c`, with `after` behind it, where the expression is entered on the given
lanes in front of `c`. -/
def advance (c : Char) (after : Option Char) (width : Nat) (entry : Lanes)
    (progress : Progress) : Progress :=
  if entry == 0 && progress.standing.still then progress
  else
    match progress with
    | stay => stay
    | across set _ => across set (if entry != 0 && set.contains c then entry else 0)
    | .at look _ => .at look (look.holds (some c) after)
    | seq _ x y =>
      (x.advance c after width entry).followed
        (y.advance c after width (x.standing.through entry))
    | alt _ x y =>
      (x.advance c after width entry).either (y.advance c after width entry)
    | rep _ rounds x =>
      let begun := rounds.entries width (rounds.finished width x.standing entry)
      (x.advance c after (rounds.apart * width) begun).repeated rounds width

/-- Whether a way ends at the place that has been reached. -/
def found (progress : Progress) : Bool :=
  progress.standing.through 1 != 0

/-- Whether a way ends at this place or a later one.  A way may begin at every place. -/
def search (progress : Progress) : List Char → Bool
  | [] => progress.found
  | c :: rest =>
    if progress.found then true else (progress.advance c rest.head? 1 1).search rest

end Progress

/-- Whether some way leads from some place of a line to another one. -/
def Expr.matches (expr : Expr Step) (line : List Char) : Bool :=
  (Progress.start line.head? expr).search line

end LineCut.Pattern
