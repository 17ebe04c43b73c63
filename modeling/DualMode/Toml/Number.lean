import DualMode.Decimal.Reading
import DualMode.Json.Reader

/-! Numbers of TOML. An underscore may stand between two digits, and a decimal number has no
leading zeros. -/

namespace DualMode
namespace Toml

/-- Digits up to the first other character; an underscore needs a digit on both sides. -/
def readDigits? (isDigit : Char → Bool) : List Char → Option (List Char × List Char)
  | [] => none
  | c :: rest =>
    if !isDigit c then none
    else match rest with
      | '_' :: next => (readDigits? isDigit next).map fun (ds, rest) => (c :: ds, rest)
      | d :: next =>
        if isDigit d then (readDigits? isDigit (d :: next)).map fun (ds, rest) => (c :: ds, rest)
        else some ([c], d :: next)
      | [] => some ([c], [])

/-- Decimal digits; a zero in front stands alone. -/
def readWhole? : List Char → Option (List Char × List Char)
  | '0' :: rest => some (['0'], rest)
  | s => readDigits? Char.isDigit s

def fit? (n : Int) : Option Int64 :=
  if Int64.minValue.toInt ≤ n ∧ n ≤ Int64.maxValue.toInt then some (Int64.ofInt n) else none

def hasDigit (base : Nat) (c : Char) : Bool := (Json.hexValue? c).any (· < base)

def readBased? (base : Nat) (s : List Char) : Option (Int64 × List Char) := do
  let (ds, rest) ← readDigits? (hasDigit base) s
  let n := ds.foldl (fun n c => base * n + (Json.hexValue? c).getD 0) 0
  return (← fit? n, rest)

def readInt? : List Char → Option (Int64 × List Char)
  | '0' :: 'x' :: rest => readBased? 16 rest
  | '0' :: 'o' :: rest => readBased? 8 rest
  | '0' :: 'b' :: rest => readBased? 2 rest
  | s => do
    let (negative, s) := Decimal.splitSign s
    let (ds, rest) ← readWhole? s
    return (← fit? (if negative then -(Decimal.value ds : Int) else Decimal.value ds), rest)

def readExponent? (s : List Char) : Option (Int × List Char) := do
  let (negative, s) := Decimal.splitSign s
  let (ds, rest) ← readDigits? Char.isDigit s
  return (if negative then -(Decimal.value ds : Int) else Decimal.value ds, rest)

def readScaled? (s : List Char) : Option (Float × List Char) := do
  let (whole, rest) ← readWhole? s
  let (fraction, rest) ← match rest with
    | '.' :: rest => readDigits? Char.isDigit rest
    | rest => some ([], rest)
  match rest with
  | c :: after =>
    if c = 'e' ∨ c = 'E' then
      let (e, rest) ← readExponent? after
      return (Decimal.nearestDouble (Decimal.value (whole ++ fraction)) (e - fraction.length), rest)
    else if fraction.isEmpty then none
    else return (Decimal.nearestDouble (Decimal.value (whole ++ fraction)) (-fraction.length), c :: after)
  | [] =>
    if fraction.isEmpty then none
    else return (Decimal.nearestDouble (Decimal.value (whole ++ fraction)) (-fraction.length), [])

/-- A double, or the name of infinity or of the undefined result. A number above all doubles
is refused, but not one below all of them. -/
def readFloat? (s : List Char) : Option (Float × List Char) := do
  let (negative, s) := Decimal.splitSign s
  let signed := fun (x : Float) => if negative then -x else x
  match s with
  | 'i' :: 'n' :: 'f' :: rest => return (signed (1.0 / 0.0), rest)
  | 'n' :: 'a' :: 'n' :: rest => return (signed (0.0 / 0.0), rest)
  | s =>
    let (x, rest) ← readScaled? s
    if x.isInf && !negative then none else return (signed x, rest)

end Toml
end DualMode
