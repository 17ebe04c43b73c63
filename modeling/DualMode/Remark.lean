import DualMode.Entity.Field

/-! What is remarked in the log while attributes are evaluated, resolved and assigned. -/

namespace DualMode

inductive Level
  | warn | debug | trace
  deriving DecidableEq

def Level.text : Level → String
  | warn => "WARN"
  | debug => "DEBUG"
  | trace => "TRACE"

inductive Remark
  | lostValue (l : Literal) (op : BinaryOp) (r : Literal)
  | unmappedField (entity field : String)
  | cached (hybrid entity : String)
  | unregistered (hybrid entity : String)
  | resolved (hybrid entity key : String)
  | methodCalled (method entity : String)
  | reassigned (c : Column)

namespace Remark

def level : Remark → Level
  | lostValue _ _ _ | cached _ _ | methodCalled _ _ => .trace
  | unmappedField _ _ | unregistered _ _ => .warn
  | resolved _ _ _ | reassigned _ => .debug

def message : Remark → String
  | lostValue l op r =>
    l.inspect ++ " " ++ op.symbol ++ " " ++ r.inspect ++ " has no in-memory result; yielding NULL"
  | unmappedField entity field =>
    entity ++ " has no mapped column '" ++ field ++ "'; using an unqualified reference"
  | cached hybrid entity => "hybrid '" ++ hybrid ++ "' on " ++ entity ++ ": cached"
  | unregistered hybrid entity =>
    "hybrid '" ++ hybrid ++ "' is not registered on " ++ entity ++ " or its ancestors"
  | resolved hybrid entity key =>
    "hybrid '" ++ hybrid ++ "' resolved on " ++ entity ++ " as '" ++ key ++ "'"
  | methodCalled method entity => "hybrid method '" ++ method ++ "' called on " ++ entity
  | reassigned c =>
    "column " ++ c.table ++ "." ++ c.name ++
      " assigned twice in bulk update; keeping the later value"

def line (r : Remark) : String := r.level.text ++ " " ++ r.message

end Remark
end DualMode
