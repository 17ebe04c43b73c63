import DualMode.Binary64
import DualMode.Decimal.Shortest

/-! How a double is written: its shortest digits, laid out with or without an exponent. -/

namespace DualMode
namespace Decimal

structure Layout where
  tie : Tie
  /-- The leading places written without an exponent; all of them if absent. -/
  positional : Option (Int × Int)
  /-- A whole number ends in `.0`. -/
  pointZero : Bool
  /-- An exponent that is not negative carries a plus sign. -/
  plus : Bool

namespace Layout

def places (l : Layout) (d : Scientific) : List Char :=
  let s := digits d.coefficient
  let leading := d.exponent + s.length - 1
  if 0 ≤ d.exponent then
    s ++ List.replicate d.exponent.toNat '0' ++ (if l.pointZero then ['.', '0'] else [])
  else if 0 ≤ leading then
    s.take (leading.toNat + 1) ++ '.' :: s.drop (leading.toNat + 1)
  else '0' :: '.' :: (List.replicate (-leading - 1).toNat '0' ++ s)

def scientific (l : Layout) (d : Scientific) : List Char :=
  let s := digits d.coefficient
  let leading := d.exponent + s.length - 1
  let fraction := s.drop 1
  let sign := if leading < 0 then ['-'] else if l.plus then ['+'] else []
  s.take 1 ++ (if fraction.isEmpty then [] else '.' :: fraction) ++ 'e' :: sign ++
    digits leading.natAbs

def magnitude (l : Layout) (m : Nat) (e : Int) : List Char :=
  if m = 0 then l.places ⟨0, 0⟩
  else
    let d := shortest l.tie m e
    let leading := d.exponent + (digits d.coefficient).length - 1
    match l.positional with
    | none => l.places d
    | some (least, greatest) =>
      if least ≤ leading ∧ leading ≤ greatest then l.places d else l.scientific d

def write (l : Layout) (x : Float) : String :=
  match Binary64.ofFloat x with
  | .nan => "NaN"
  | .infinite negative => if negative then "-inf" else "inf"
  | .finite negative m e =>
    String.ofList (if negative then '-' :: l.magnitude m e else l.magnitude m e)

end Layout
end Decimal
end DualMode
