import DualMode.Decimal.Layout
import DualMode.Text.Quoted

/-! Plain values: what a field of a record holds. -/

namespace DualMode

inductive Literal
  | null | bool (b : Bool) | int (i : Int64) | float (x : Float) | text (s : String)

namespace Literal

def typeName : Literal → String
  | null => "null"
  | bool _ => "bool"
  | int _ => "int"
  | float _ => "float"
  | text _ => "text"

def isNull : Literal → Bool
  | null => true
  | _ => false

def asBool? : Literal → Option Bool
  | bool b => some b
  | _ => none

def asInt? : Literal → Option Int64
  | int i => some i
  | _ => none

/-- Whole numbers count as doubles too. -/
def asFloat? : Literal → Option Float
  | int i => some i.toFloat
  | float x => some x
  | _ => none

def asText? : Literal → Option String
  | text s => some s
  | _ => none

/-- Values of one type that are equal; an undefined double equals nothing, and zero equals
minus zero. -/
def same : Literal → Literal → Bool
  | null, null => true
  | bool a, bool b => a == b
  | int a, int b => a == b
  | float a, float b => a == b
  | text a, text b => a == b
  | _, _ => false

/-- Every digit is written out, and a whole double has no point. -/
def plainLayout : Decimal.Layout :=
  { tie := .up, positional := none, pointZero := false, plus := false }

/-- As in program text: whole doubles end in `.0`, exponents outside `-4 … 15` are written. -/
def sourceLayout : Decimal.Layout :=
  { tie := .up, positional := some (-4, 15), pointZero := true, plus := false }

def inspect : Literal → String
  | null => "Null"
  | bool b => "Bool(" ++ (if b then "true" else "false") ++ ")"
  | int i => "Int(" ++ Decimal.intText i.toInt ++ ")"
  | float x => "Float(" ++ sourceLayout.write x ++ ")"
  | text s => "Text(" ++ Text.quoted s ++ ")"

end Literal
end DualMode
