import SignOn.Pattern.Basic
/-!
# Matching

`Pattern.isMatch` asks whether some part of a text matches a pattern.
It follows all ways through the pattern at once: a set of places in the
text where a part may start is mapped to the set of places where it may
end. A set of places is a number, whose bit `i` stands for the place
after the first `i` characters, so a step over the whole text is one
operation on numbers.
-/

namespace SignOn

/-- A set of places in a text, as bits of a number. -/
abbrev Places := Nat

/-- The places of a text at which a condition on what is before and what
is after holds. What is before is given last character first. -/
def placesWhere (holds : List Char → List Char → Bool) (before : List Char) :
    List Char → Places
  | [] => (holds before []).toNat
  | c :: rest => (holds before (c :: rest)).toNat + 2 * placesWhere holds (c :: before) rest

/-- A pattern laid over one text: sets of characters and anchors have
become the places at which they match. -/
inductive Overlay where
  | empty
  | one (here : Places)
  | anchor (here : Places)
  | seq (p q : Overlay)
  | alt (p q : Overlay)
  | rep (p : Overlay) (min : Nat) (max : Option Nat)

/-- Lays a pattern over a text. -/
def Pattern.overlay (text : List Char) : Pattern → Overlay
  | .empty => .empty
  | .one s => .one (placesWhere (fun _ after => (after.head?.map s.contains).getD false) [] text)
  | .anchor a => .anchor (placesWhere (fun before after => a.holds before after) [] text)
  | .seq p q => .seq (p.overlay text) (q.overlay text)
  | .alt p q => .alt (p.overlay text) (q.overlay text)
  | .rep p min max => .rep (p.overlay text) min max

/-- Applies a step `n` times, or until it changes nothing. -/
def iterate (step : Places → Places) : Nat → Places → Places
  | 0, s => s
  | n + 1, s =>
    let t := step s
    if t = s then s else iterate step n t

/-- The places where a part may end, from those where it may start, in a
text with `places` places. -/
def Overlay.ends (places : Nat) : Overlay → Places → Places
  | .empty, s => s
  | .one here, s => (s &&& here) <<< 1
  | .anchor here, s => s &&& here
  | .seq p q, s => q.ends places (p.ends places s)
  | .alt p q, s => p.ends places s ||| q.ends places s
  | .rep p min max, s =>
    let once := p.ends places
    let start := iterate once min s
    -- without a limit, as many steps as there are places reach all that can be reached
    let more := match max with
      | some max => max - min
      | none => places
    iterate (fun t => t ||| once t) more start

/-- Whether some part of a text matches. -/
def Pattern.isMatch (p : Pattern) (text : String) : Bool :=
  let cs := text.toList
  let places := cs.length + 1
  (p.overlay cs).ends places (1 <<< places - 1) != 0

end SignOn
