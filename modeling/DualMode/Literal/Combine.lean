import DualMode.Binary64
import DualMode.Literal.Basic
import DualMode.Literal.Pattern
import DualMode.Operator

/-! Binary operators on two plain values. An operation without a result in memory gives
nothing: numbers that leave their range, a division by zero, values of different types. -/

namespace DualMode
namespace Literal

def ofInt? (n : Int) : Option Literal :=
  if Int64.minValue.toInt ≤ n ∧ n ≤ Int64.maxValue.toInt then some (int (Int64.ofInt n)) else none

def ofVerdict? (op : BinaryOp) (o : Ordering) : Option Literal := (op.verdict? o).map bool

/-- Exact arithmetic; quotients are truncated toward zero. -/
def combineInts (op : BinaryOp) (a b : Int) : Option Literal :=
  match op with
  | .add => ofInt? (a + b)
  | .sub => ofInt? (a - b)
  | .mul => ofInt? (a * b)
  | .div => if b = 0 then none else ofInt? (a.tdiv b)
  | .mod => if b = 0 ∨ (a = Int64.minValue.toInt ∧ b = -1) then none else ofInt? (a.tmod b)
  | _ => ofVerdict? op (compare a b)

/-- The order of two doubles, unless one is undefined. -/
def compareFloats? (a b : Float) : Option Ordering :=
  if a < b then some .lt else if b < a then some .gt else if a == b then some .eq else none

def combineFloats (op : BinaryOp) (a b : Float) : Option Literal :=
  match op with
  | .add => some (float (a + b))
  | .sub => some (float (a - b))
  | .mul => some (float (a * b))
  | .div => if b == 0.0 then none else some (float (a / b))
  | .mod => if b == 0.0 then none else some (float (Binary64.remainder a b))
  | _ => (compareFloats? a b).bind (ofVerdict? op)

def isLike (text pattern : String) : Bool := Pattern.isMatch pattern.toList text.toList

def combineTexts (op : BinaryOp) (a b : String) : Option Literal :=
  match op with
  | .add => some (text (a ++ b))
  | .concat => some (text (a ++ b))
  | .like => some (bool (isLike a b))
  | .notLike => some (bool (!isLike a b))
  | _ => ofVerdict? op (compare a b)

def combineBools (op : BinaryOp) (a b : Bool) : Option Literal :=
  match op with
  | .and => some (bool (a && b))
  | .or => some (bool (a || b))
  | .eq => some (bool (a == b))
  | .ne => some (bool (a != b))
  | _ => none

/-- With null on a side, equality compares plainly and every other operator gives null. -/
def combineNull (op : BinaryOp) (l r : Literal) : Literal :=
  match op with
  | .eq => bool (l.isNull && r.isNull)
  | .ne => bool (l.isNull != r.isNull)
  | _ => null

def combine (l : Literal) (op : BinaryOp) (r : Literal) : Option Literal :=
  match l, r with
  | null, _ => some (combineNull op l r)
  | _, null => some (combineNull op l r)
  | int a, int b => combineInts op a.toInt b.toInt
  | int a, float b => combineFloats op a.toFloat b
  | float a, int b => combineFloats op a b.toFloat
  | float a, float b => combineFloats op a b
  | text a, text b => combineTexts op a b
  | bool a, bool b => combineBools op a b
  | _, _ => none

@[simp] theorem combine_null_left (op : BinaryOp) (r : Literal) :
    combine null op r = some (combineNull op null r) := rfl

@[simp] theorem combine_null_right (op : BinaryOp) (l : Literal) :
    combine l op null = some (combineNull op l null) := by cases l <;> rfl

end Literal
end DualMode
