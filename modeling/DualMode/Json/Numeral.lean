import DualMode.Json.Basic
import DualMode.Decimal.Reading

/-! Numerals of JSON. A whole number below `2 ^ 64` stays exact; any other numeral becomes
a double from the leading digits that fit in 64 bits, scaled by a power of ten. -/

namespace DualMode
namespace Json

def digitLimit : Nat := UInt64.size - 1

/-- Appends digits to a significand as long as it stays below the limit; returns it with
the number of digits taken. -/
def absorb (significand : Nat) : List Char → Nat × Nat
  | [] => (significand, 0)
  | c :: rest =>
    let next := 10 * significand + Decimal.digitValue c
    if next ≤ digitLimit then
      let (all, taken) := absorb next rest
      (all, taken + 1)
    else (significand, 0)

def powerOfTen (k : Nat) : Float := Float.ofScientific 1 false k

/-- Scales in one step within `10 ^ ±308`, and below that in several. -/
def scaleDouble : Nat → Float → Int → Option Float
  | 0, x, _ => some x
  | fuel + 1, x, e =>
    if e.natAbs ≤ 308 then
      if 0 ≤ e then
        let y := x * powerOfTen e.natAbs
        if y.isInf then none else some y
      else some (x / powerOfTen e.natAbs)
    else if x == 0.0 then some x
    else if 0 ≤ e then none
    else scaleDouble fuel (x / powerOfTen 308) (e + 308)

def ofParts (negative : Bool) (significand : Nat) (e : Int) : Option Json :=
  (scaleDouble 4 (Float.ofNat significand) e).map fun x => .float (if negative then -x else x)

/-- A numeral without fraction and exponent. Minus zero is a double. -/
def ofWhole (negative : Bool) (n : Nat) : Json :=
  if negative then
    if n = 0 ∨ Nat.pow 2 63 < n then .float (-(Float.ofNat n)) else .int (-(n : Int))
  else .int n

def exponentLimit : Nat := Nat.pow 2 31 - 1

def readExponent (negative : Bool) (significand : Nat) (scale : Int) (s : List Char) :
    Option (Json × List Char) :=
  let (down, s) := Decimal.splitSign s
  let ds := s.takeWhile Char.isDigit
  if ds.isEmpty then none
  else
    let e := Decimal.value ds
    let number :=
      if exponentLimit < e then
        if significand ≠ 0 ∧ down = false then none
        else some (.float (if negative then -0.0 else 0.0))
      else ofParts negative significand (if down then scale - e else scale + e)
    number.map (·, s.dropWhile Char.isDigit)

def isExponentMark (c : Char) : Bool := c == 'e' || c == 'E'

def readFraction (negative : Bool) (significand : Nat) (scale : Int) (s : List Char) :
    Option (Json × List Char) :=
  let ds := s.takeWhile Char.isDigit
  if ds.isEmpty then none
  else
    let (all, taken) := absorb significand ds
    match s.dropWhile Char.isDigit with
    | c :: rest =>
      if isExponentMark c then readExponent negative all (scale - taken) rest
      else (ofParts negative all (scale - taken)).map (·, c :: rest)
    | [] => (ofParts negative all (scale - taken)).map (·, [])

def readUnsigned (negative : Bool) (s : List Char) : Option (Json × List Char) :=
  let ds := s.takeWhile Char.isDigit
  let rest := s.dropWhile Char.isDigit
  if ds.isEmpty || (ds.head? == some '0' && 1 < ds.length) then none
  else
    let (significand, taken) := absorb 0 ds
    let dropped := ds.length - taken
    match rest with
    | '.' :: fraction => readFraction negative significand dropped fraction
    | c :: after =>
      if isExponentMark c then readExponent negative significand dropped after
      else if dropped = 0 then some (ofWhole negative significand, rest)
      else (ofParts negative significand dropped).map (·, rest)
    | [] =>
      if dropped = 0 then some (ofWhole negative significand, rest)
      else (ofParts negative significand dropped).map (·, rest)

def readNumeral : List Char → Option (Json × List Char)
  | '-' :: rest => readUnsigned true rest
  | s => readUnsigned false s

end Json
end DualMode
