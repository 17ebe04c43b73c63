import DualMode.Operand

/-! Trees of binary operators over leaves of any kind, evaluated on operands and on plain
values, and the meaning of an expression once its columns have values. Evaluating on operands
folds plain subtrees and keeps the rest symbolic; the meaning does not see the difference. -/

namespace DualMode

inductive Formula (α : Type)
  | leaf (a : α) | join (op : BinaryOp) (l r : Formula α)

namespace Formula

variable {α β : Type}

def map (f : α → β) : Formula α → Formula β
  | leaf a => leaf (f a)
  | join op l r => join op (l.map f) (r.map f)

def operand : Formula Operand → Operand
  | leaf o => o
  | join op l r => Operand.binary op l.operand r.operand

/-- The same on plain values, where a lost value is null. -/
def result : Formula Literal → Literal
  | leaf l => l
  | join op l r => (l.result.combine op r.result).getD .null

/-- Plain values never leave memory. -/
theorem operand_literal (f : Formula α) (value : α → Literal) :
    (f.map fun a => Operand.literal (value a)).operand = .literal (f.map value).result := by
  induction f with
  | leaf a => rfl
  | join op l r ihl ihr => simp [map, operand, result, ihl, ihr]

end Formula

namespace Node

/-- The value of an expression when each column has the value of its name, with or without a
table. Operators without a result give null; other nodes than those that operators build from
columns and plain values mean nothing here. -/
def meaning (value : String → Literal) : Node → Option Literal
  | column _ name => some (value name)
  | bool b => some (.bool b)
  | int i => some (.int i)
  | float x => some (.float x)
  | text s => some (.text s)
  | raw sql => if sql = "NULL" then some .null else none
  | join (.op op) l r =>
    match l.meaning value, r.meaning value with
    | some a, some b => some ((a.combine op b).getD .null)
    | _, _ => none
  | _ => none

/-- A bound value means itself, and so does the text of null. -/
@[simp] theorem meaning_literal (value : String → Literal) (l : Literal) :
    l.node.meaning value = some l := by
  cases l <;> simp [Literal.node, meaning]

@[simp] theorem meaning_column (value : String → Literal) (c : Column) :
    c.node.meaning value = some (value c.name) := by
  simp [Column.node, meaning]

theorem meaning_apply {value : String → Literal} {l r : Node} {a b : Literal}
    (hl : l.meaning value = some a) (hr : r.meaning value = some b) (op : BinaryOp) :
    (op.apply l r).meaning value = some ((a.combine op b).getD .null) := by
  simp [BinaryOp.apply, meaning, hl, hr]

end Node

/-- Folding in memory and building a node mean the same. -/
theorem Operand.meaning_binary {value : String → Literal} {x y : Operand} {a b : Literal}
    (hx : x.toNode.meaning value = some a) (hy : y.toNode.meaning value = some b)
    (op : BinaryOp) :
    (binary op x y).toNode.meaning value = some ((a.combine op b).getD .null) := by
  cases x with
  | column c => exact Node.meaning_apply hx hy op
  | node e => exact Node.meaning_apply hx hy op
  | literal l =>
    cases y with
    | column c => exact Node.meaning_apply hx hy op
    | node e => exact Node.meaning_apply hx hy op
    | literal r =>
      -- only here is the operator carried out at once
      have hl : l = a := by simpa [toNode] using hx
      have hr : r = b := by simpa [toNode] using hy
      subst hl hr
      simp [toNode]

theorem Formula.meaning_operand {α : Type} {value : String → Literal} {read : α → Operand}
    {plain : α → Literal} (h : ∀ a, (read a).toNode.meaning value = some (plain a))
    (f : Formula α) : (f.map read).operand.toNode.meaning value = some (f.map plain).result := by
  induction f with
  | leaf a => exact h a
  | join op l r ihl ihr => exact Operand.meaning_binary ihl ihr op

end DualMode
