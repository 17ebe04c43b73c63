import DualMode.Literal.Combine
import DualMode.Node.Basic

/-! What a getter reads from its receiver: a plain value of a record, or a column or an
expression of its entity. Operators on two plain values are evaluated at once; any other
operands build an expression. -/

namespace DualMode

inductive Operand
  | literal (l : Literal) | column (c : Column) | node (e : Node)

namespace Operand

def toNode : Operand → Node
  | literal l => l.node
  | column c => c.node
  | node e => e

def literal? : Operand → Option Literal
  | literal l => some l
  | _ => none

/-- Two plain values never build an expression: where there is no result in memory, the
value is null. -/
def binary (op : BinaryOp) : Operand → Operand → Operand
  | literal l, literal r => literal ((l.combine op r).getD .null)
  | l, r => node (op.apply l.toNode r.toNode)

def lost? (op : BinaryOp) : Operand → Operand → Option (Literal × Literal)
  | literal l, literal r => if (l.combine op r).isNone then some (l, r) else none
  | _, _ => none

@[simp] theorem binary_literal (op : BinaryOp) (l r : Literal) :
    binary op (literal l) (literal r) = literal ((l.combine op r).getD .null) := rfl

end Operand
end DualMode
