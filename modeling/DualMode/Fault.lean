import DualMode.Decimal.Digits

/-! The ways in which declaring or using a computed attribute goes wrong. -/

namespace DualMode

inductive Fault
  | unsettable (name : String)
  | undeletable (name : String)
  /-- A builder gave something that is not an expression. -/
  | notExpression (found : String)
  /-- A bulk assignment has no single column to go to and no other rule. -/
  | ambiguousTarget (name : String)
  | operandCount (operator : String) (expected found : Nat)
  | unknownColumn (entity column : String)
  | settings (detail : String)
  deriving DecidableEq

namespace Fault

def message : Fault → String
  | unsettable name => "can't set attribute '" ++ name ++ "': hybrid has no setter"
  | undeletable name =>
    "can't delete attribute '" ++ name ++ "': hybrid has no deleter"
  | notExpression found => "expected a SQL expression element, got " ++ found
  | ambiguousTarget name =>
    "cannot bulk-update hybrid '" ++ name ++
      "': its expression is not a single mapped column and no update expression is defined"
  | operandCount operator expected found =>
    "operator " ++ operator ++ " takes " ++ Decimal.natText expected ++ " operand(s), got " ++
      Decimal.natText found
  | unknownColumn entity column => entity ++ " has no mapped column '" ++ column ++ "'"
  | settings detail => "Hybrid configuration error: " ++ detail

end Fault
end DualMode
