import DualMode.Clause.Adapt

/-! Operators on attributes. A mapped column and the published attribute of a hybrid answer
to the same calls. -/

namespace DualMode

variable {υ : Type}

namespace Comparator

/-- How operators are applied once both sides are expressions. -/
def applies : Comparator υ → Operator → Node → List Node → Except Fault Node
  | builtin _ _ _ _ => Operator.apply
  | custom _ o => o.apply

def appliesRight : Comparator υ → Operator → Node → Node → Except Fault Node
  | builtin _ _ _ _ => fun op l r => op.apply l [r]
  | custom _ o => o.applyRight

/-- The expression on the left. Its own fault comes before those of the operands, and theirs
before a wrong number of them. -/
def operate (limit : Nat) (c : Comparator υ) (op : Operator) (others : List (Clause υ)) :
    Except Fault Node :=
  match c.clauseElement limit with
  | .error f => .error f
  | .ok l =>
    match Clause.adaptAll limit others with
    | .error f => .error f
    | .ok rs => c.applies op l rs

def reverse (limit : Nat) (c : Comparator υ) (op : Operator) (other : Clause υ) :
    Except Fault Node :=
  match other.adapt limit with
  | .error f => .error f
  | .ok l =>
    match c.clauseElement limit with
    | .error f => .error f
    | .ok r => c.appliesRight op l r

end Comparator

/-- What filters, projections and assignments are written against. -/
inductive Queryable (υ : Type)
  | column (c : Column) | attr (a : Attribute υ)

namespace Queryable

def key : Queryable υ → String
  | column c => c.name
  | attr a => a.key

def clause : Queryable υ → Clause υ
  | column c => .column c
  | attr a => .attr a

def clauseElement (limit : Nat) : Queryable υ → Except Fault Node
  | column c => .ok c.node
  | attr a => a.clauseElement limit

def operate (limit : Nat) (q : Queryable υ) (op : Operator) (others : List (Clause υ)) :
    Except Fault Node :=
  match q with
  | column c =>
    match Clause.adaptAll limit others with
    | .error f => .error f
    | .ok rs => op.apply c.node rs
  | attr a => a.comparator.operate limit op others

def reverse (limit : Nat) (q : Queryable υ) (op : Operator) (other : Clause υ) :
    Except Fault Node :=
  match q with
  | column c =>
    match other.adapt limit with
    | .error f => .error f
    | .ok l => op.apply l [c.node]
  | attr a => a.comparator.reverse limit op other

end Queryable
end DualMode
