import DualMode.Json.Reader
import DualMode.Literal.Basic

/-! Plain values as untagged JSON: the shape of the text alone tells the type. -/

namespace DualMode
namespace Literal

def toJson : Literal → Json
  | null => .null
  | bool b => .bool b
  | int i => .int i.toInt
  | float x => .float x
  | text s => .text s

/-- Whole numbers beyond 64 bits are read as doubles; lists and objects are no values. -/
def ofJson? : Json → Option Literal
  | .null => some null
  | .bool b => some (bool b)
  | .int n =>
    if Int64.minValue.toInt ≤ n ∧ n ≤ Int64.maxValue.toInt then some (int (Int64.ofInt n))
    else some (float (if n < 0 then -(Float.ofNat n.natAbs) else Float.ofNat n.natAbs))
  | .float x => some (float x)
  | .text s => some (text s)
  | _ => none

def jsonText (l : Literal) : String := l.toJson.render

inductive ReadFault
  | syntaxError | noVariant
  deriving DecidableEq

def ReadFault.message : ReadFault → String
  | syntaxError => "not JSON"
  | noVariant => "data did not match any variant of untagged enum Literal"

/-- What follows the value is looked at only after the value was found to be a plain one. -/
def ofJsonText (text : String) : Except ReadFault Literal :=
  match Json.readStart? Json.depthLimit text with
  | none => .error .syntaxError
  | some (j, rest) => match ofJson? j with
    | none => .error .noVariant
    | some l => if rest.isEmpty then .ok l else .error .syntaxError

end Literal
end DualMode
