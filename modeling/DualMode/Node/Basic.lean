import DualMode.Column
import DualMode.Fault
import DualMode.Literal.Basic
import DualMode.Operator

/-! Expression trees of SQL, and how operators build them. -/

namespace DualMode

inductive Connective
  | op (o : BinaryOp)
  | is | isNot | isIn | notIn | between | notBetween
  deriving DecidableEq

inductive Node
  | column (table : Option String) (name : String)
  | bool (b : Bool) | int (i : Int64) | float (x : Float) | text (s : String)
  /-- Text that stands in the statement as it is. -/
  | raw (sql : String)
  | null
  | tuple (items : List Node)
  | not (e : Node) | lower (e : Node)
  | join (c : Connective) (l r : Node)

def Column.node (c : Column) : Node := .column (some c.table) c.name

@[simp] theorem Column.node_inj {c d : Column} : c.node = d.node ↔ c = d := by
  cases c; cases d; simp [node]

def Literal.node : Literal → Node
  | .null => .raw "NULL"
  | .bool b => .bool b
  | .int i => .int i
  | .float x => .float x
  | .text s => .text s

namespace Node

def isColumn (c : Column) : Node → Bool
  | .column (some table) name => table == c.table && name == c.name
  | _ => false

theorem isColumn_iff (c : Column) (e : Node) : e.isColumn c = true ↔ e = c.node := by
  constructor
  · intro h
    unfold isColumn at h
    split at h
    · simp only [Bool.and_eq_true, beq_iff_eq] at h
      simp [Column.node, h]
    · simp at h
  · rintro rfl
    simp [isColumn, Column.node]

@[simp] theorem isColumn_node (c d : Column) : d.node.isColumn c = true ↔ d = c := by
  cases c; cases d; simp [isColumn, Column.node]

end Node

def BinaryOp.apply (op : BinaryOp) (l r : Node) : Node := .join (.op op) l r

namespace Operator

/-- Applies the operator to a left side and right-hand operands. Membership in an empty
list is refused like a wrong number of operands. -/
def apply : Operator → Node → List Node → Except Fault Node
  | binary op, l, [r] => .ok (op.apply l r)
  | not, l, [] => .ok (.not l)
  | isNull, l, [] => .ok (.join .is l .null)
  | isNotNull, l, [] => .ok (.join .isNot l .null)
  | between, l, [low, high] => .ok (.join .between l (.join (.op .and) low high))
  | notBetween, l, [low, high] => .ok (.join .notBetween l (.join (.op .and) low high))
  | isIn, l, r :: rs => .ok (.join .isIn l (.tuple (r :: rs)))
  | notIn, l, r :: rs => .ok (.join .notIn l (.tuple (r :: rs)))
  | o, _, rs => .error (.operandCount o.text o.arity rs.length)

end Operator
end DualMode
