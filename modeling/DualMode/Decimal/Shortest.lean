import DualMode.Decimal.Digits

/-! The fewest decimal digits that identify a double among all doubles. Everything is
computed on natural numbers over a common unit. -/

namespace DualMode
namespace Decimal

inductive Tie
  | up | even
  deriving DecidableEq

/-- The number `coefficient · 10 ^ exponent`. -/
structure Scientific where
  coefficient : Nat
  exponent : Int
  deriving DecidableEq

def power (b : Nat) (k : Int) : Nat × Nat :=
  if 0 ≤ k then (Nat.pow b k.toNat, 1) else (1, Nat.pow b (-k).toNat)

/-- The reals that round to one double, as numerators over a common unit. -/
structure Interval where
  low : Nat
  center : Nat
  high : Nat
  unit : Nat
  /-- The ends round to the double as well. -/
  closed : Bool

namespace Interval

/-- The interval of the double `m · 2 ^ e`. Below a power of two the gap is half as wide. -/
def ofDouble (m : Nat) (e : Int) : Interval :=
  let (scale, unit) := power 2 (e - 2)
  let below := if m = Nat.pow 2 52 ∧ -1074 < e then 1 else 2
  { low := (4 * m - below) * scale, center := 4 * m * scale, high := (4 * m + 2) * scale,
    unit := unit, closed := m % 2 == 0 }

/-- The place of the leading digit of the double. -/
def magnitude (i : Interval) : Int :=
  if i.unit ≤ i.center then (digits (i.center / i.unit)).length - 1
  else
    let places := (digits (i.unit / i.center)).length
    if i.center * Nat.pow 10 (places - 1) = i.unit then 1 - (places : Int) else -places

/-- The multiple of `10 ^ k` in the interval that is nearest to the double. -/
def nearest? (i : Interval) (tie : Tie) (k : Int) : Option Nat :=
  let (up, down) := power 10 k
  let step := i.unit * up
  let center := i.center * down
  let floor := center / step
  let below := i.low * down < floor * step || (i.closed && i.low * down == floor * step)
  let above := (floor + 1) * step < i.high * down || (i.closed && (floor + 1) * step == i.high * down)
  let toFloor := center - floor * step
  let toNext := (floor + 1) * step - center
  match below, above with
  | false, false => none
  | true, false => some floor
  | false, true => some (floor + 1)
  | true, true =>
    if toFloor < toNext then some floor
    else if toNext < toFloor then some (floor + 1)
    else match tie with
      | .up => some (floor + 1)
      | .even => some (if floor % 2 = 0 then floor else floor + 1)

end Interval

def trim : Nat → Scientific → Scientific
  | 0, s => s
  | fuel + 1, s =>
    if s.coefficient ≠ 0 ∧ s.coefficient % 10 = 0 then
      trim fuel ⟨s.coefficient / 10, s.exponent + 1⟩
    else s

/-- The shortest decimal that rounds to `m · 2 ^ e`, and the nearest one of that length.
Seventeen digits always suffice. -/
def shortest (tie : Tie) (m : Nat) (e : Int) : Scientific :=
  let i := Interval.ofDouble m e
  let top := i.magnitude
  let found := (List.range 17).findSome? fun (n : Nat) =>
    (i.nearest? tie (top - n)).map (⟨·, top - n⟩ : Nat → Scientific)
  trim 17 (found.getD ⟨0, 0⟩)

end Decimal
end DualMode
