import DualMode.Store

/-! A small language in which callbacks are written. Terms give operands, node terms give
expressions, and clause terms give clauses. They are read against a receiver and arguments,
and refer to hybrids and attributes by handle. -/

namespace DualMode
namespace Script

mutual

inductive Term
  | literal (l : Literal) | column (c : Column) | field (name : String) | argument (i : Nat)
  | binary (op : BinaryOp) (l r : Term)
  /-- The right operand is evaluated first. -/
  | binaryFromRight (op : BinaryOp) (l r : Term)
  /-- Starts from one term and applies the operator to the other so many times. -/
  | repeated (op : BinaryOp) (start other : Term) (times : Nat)
  | byMode (onRecord onEntity : Term)
  | hybrid (handle : String) | node (n : NodeTerm)

inductive NodeTerm
  | raw (sql : String) | lower (n : NodeTerm) | operand (t : Term) | clause (c : ClauseTerm)
  | apply (op : Operator) (left : NodeTerm) (right : List NodeTerm)
  | compare (handle : String) (op : Operator) (others : List ClauseTerm)

inductive ClauseTerm
  | operand (t : Term) | literal (l : Literal) | node (n : NodeTerm) | column (c : Column)
  | attr (handle : String) | hybrid (handle : String)
  | extract (label : String) (c : ClauseTerm) | nest (n : Nat) (c : ClauseTerm)
  | cycle (label : String)
  /-- Resolves the hybrid on the same entity, then gives the outer clause; evaluated again in
  the meantime, it gives the inner one. -/
  | reenter (handle : String) (inner outer : ClauseTerm)

end

/-- Terms joined from the left: `((t₀ op t₁) op t₂) …`. -/
def Term.foldLeft (op : BinaryOp) (first : Term) (rest : List Term) : Term :=
  rest.foldl (.binary op) first

/-- Terms joined from the right, evaluated from the right. -/
def Term.foldRight (op : BinaryOp) (init : List Term) (last : Term) : Term :=
  init.foldr (.binaryFromRight op) last

/-- A callback: the name of the hybrid that it was attached to, an identity of its own, and
what it does. -/
structure Callback (α : Type) where
  name : String
  token : Nat
  script : α

structure ComparatorTerm where
  clause : ClauseTerm
  /-- Operators compare in lower case. -/
  lower : Bool := false
  /-- On an alias, the column of this name takes the place of the expression. -/
  rehome : Option String := none
  /-- That column stands there as a node. -/
  asNode : Bool := false
  doc : Option String := none
  /-- Nothing but the expression is custom. -/
  bare : Bool := false

inductive Target
  | named (name : String) | column (c : Column)

structure Memory where
  /-- The calls of callbacks, newest first. -/
  events : List String := []
  /-- Where a clause is being evaluated that reads differently when it is met again. -/
  entered : List (List Nat) := []

def scripted : Callbacks where
  Value := Operand
  Args := List Operand
  Getter := Callback Term
  Setter := Callback (List (String × Term))
  Deleter := Callback (List (String × Term))
  Expression := Callback ClauseTerm
  Comparator := Callback ComparatorTerm
  Update := Callback (List (Target × Term))
  Body := Callback Term
  CallExpression := Callback ClauseTerm
  Memory := Memory

abbrev Rule := scripted.Update

/-- Why a script has no value: a fault of the library, or a script that makes no sense. -/
inductive Problem
  | fault (f : Fault) | malformed (detail : String)

/-- A computation that may fail and keeps what it did to the store until then. -/
abbrev Eval := ExceptT Problem (Run scripted)

def lift {α : Type} (x : Run scripted α) : Eval α := ExceptT.lift x

def ofExcept {α : Type} : Except Fault α → Eval α
  | .ok a => pure a
  | .error f => throw (.fault f)

def malformed {α : Type} (detail : String) : Eval α := throw (.malformed detail)

def event (text : String) : Run scripted Unit :=
  modify fun (s : Store scripted) =>
    let memory : Memory := s.memory
    { s with memory := { memory with events := text :: memory.events } }

end Script
end DualMode
