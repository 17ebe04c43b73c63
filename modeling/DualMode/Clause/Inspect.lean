import DualMode.Clause.Basic
import DualMode.Node.Inspect

/-! Clauses in constructor form, as error texts show them. -/

namespace DualMode

variable {υ : Type}

def Clause.inspect : Clause υ → String
  | node e => "Node(" ++ e.inspect ++ ")"
  | literal l => "Literal(" ++ l.inspect ++ ")"
  | column c => "Column(" ++ c.inspect ++ ")"
  | attr a => "Attribute(" ++ a.path ++ ")"
  | extract s => "Extract(" ++ s.label ++ ")"

end DualMode
