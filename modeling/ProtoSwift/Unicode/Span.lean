/-
**Spans of code points, the shape in which character classes and case maps are written down.**

A class is a list of spans, a case map a list of shifts. A span may step over every other code point,
because scripts with two cases often alternate them.

* `Span.contains` — membership of a code point in a span;
* `Shift.target?` — the code point a shift sends another one to, if the shift covers it.
-/

namespace ProtoSwift.Unicode

/-- The code points `first`, `first + step`, … up to `last`. -/
structure Span where
  first : Nat
  last : Nat
  step : Nat
  deriving DecidableEq, Repr

/-- Whether a code point lies in the span. -/
def Span.contains (span : Span) (point : Nat) : Bool :=
  span.first ≤ point && point ≤ span.last && (point - span.first) % span.step == 0

/-- A span whose code points all move by the same distance. -/
structure Shift where
  first : Nat
  last : Nat
  step : Nat
  distance : Int
  deriving DecidableEq, Repr

/-- The code points a shift covers. -/
def Shift.domain (shift : Shift) : Span :=
  ⟨shift.first, shift.last, shift.step⟩

/-- Where a shift sends a code point, if it covers it. -/
def Shift.target? (shift : Shift) (point : Nat) : Option Nat :=
  if shift.domain.contains point then some (point + shift.distance).toNat else none

/-- Where the first covering shift sends a code point; a point that none covers stays. -/
def shiftBy (shifts : List Shift) (point : Nat) : Nat :=
  (shifts.findSome? (·.target? point)).getD point

end ProtoSwift.Unicode
