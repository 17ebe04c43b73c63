import DualMode.Entity.Field
import DualMode.Json.Basic

/-! What can stand on a side of an operator, and the attributes that hybrids publish. The
four types hold one another: an attribute has a comparator, a comparator wraps a clause, a
clause may be an attribute or a source that yields a further clause.

The parameter is the type of update rules, which are carried along and never inspected. -/

namespace DualMode

/-- What an attribute keeps of the hybrid that published it. -/
structure Meta where
  id : MemberId
  name : String
  doc : Option String := none
  info : List (String × Json) := []

abbrev Assignment := Column × Operand

abbrev Assigned := Except Fault (List Assignment)

/-- What a custom comparator changes. Operators act on sides that are already expressions. -/
structure Overrides where
  /-- What stands for the expression that the wrapped clause adapts to. -/
  element : Option (Except Fault Node) := none
  apply : Operator → Node → List Node → Except Fault Node := Operator.apply
  /-- With the expression on the right. -/
  applyRight : Operator → Node → Node → Except Fault Node := fun op l r => op.apply l [r]
  /-- What a value assigned to the attribute becomes. -/
  assign : Option (Operand → Assigned) := none
  /-- The wrapped expression on an aliased entity, if the comparator follows aliases. -/
  rehome : Aliased → Option Operand := fun _ => none
  doc : Option String := none

mutual

inductive Clause (υ : Type)
  | node (e : Node) | literal (l : Literal) | column (c : Column)
  | attr (a : Attribute υ) | extract (s : Source υ)

/-- A value that stands in for an expression and yields its clause on request. -/
inductive Source (υ : Type)
  | yields (label : String) (clause : Clause υ)
  /-- Yields another endless source for ever; the label of each tells how many are before it. -/
  | endless (label : Nat → String)

/-- How a hybrid behaves as an expression of one entity. -/
inductive Comparator (υ : Type)
  | builtin (owner : Entity) (expression : Clause υ) (hybrid : Meta) (update : Option υ)
  | custom (expression : Clause υ) (overrides : Overrides)

/-- A hybrid accessed through an entity, under its published key. -/
inductive Attribute (υ : Type)
  | mk (id : AttributeId) (owner : Entity) (aliasName : Option String) (key : String)
      (hybrid : Meta) (comparator : Comparator υ)

end

variable {υ : Type}

namespace Clause

def ofOperand : Operand → Clause υ
  | .literal l => literal l
  | .column c => column c
  | .node e => node e

def literal? : Clause υ → Option Literal
  | literal l => some l
  | _ => none

end Clause

namespace Source

def label : Source υ → String
  | yields label _ => label
  | endless label => label 0

def next : Source υ → Clause υ
  | yields _ c => c
  | endless label => .extract (endless fun n => label (n + 1))

/-- A clause behind `n` sources, the innermost labelled `w0`. -/
def nest (clause : Clause υ) : Nat → Clause υ
  | 0 => clause
  | n + 1 => .extract (yields ("w" ++ Decimal.natText n) (nest clause n))

end Source

namespace Comparator

def expression : Comparator υ → Clause υ
  | builtin _ e _ _ => e
  | custom e _ => e

def doc : Comparator υ → Option String
  | builtin _ _ _ _ => none
  | custom _ o => o.doc

/-- The comparator on an aliased entity; none if it stays as it is. -/
def rehome? (a : Aliased) : Comparator υ → Option (Comparator υ)
  | builtin _ _ _ _ => none
  | custom _ o => (o.rehome a).map fun e => custom (.ofOperand e) o

end Comparator

namespace Attribute

def id : Attribute υ → AttributeId
  | mk id _ _ _ _ _ => id

def owner : Attribute υ → Entity
  | mk _ owner _ _ _ _ => owner

def aliasName : Attribute υ → Option String
  | mk _ _ aliasName _ _ _ => aliasName

def key : Attribute υ → String
  | mk _ _ _ key _ _ => key

def hybrid : Attribute υ → Meta
  | mk _ _ _ _ hybrid _ => hybrid

def comparator : Attribute υ → Comparator υ
  | mk _ _ _ _ _ comparator => comparator

def expression (a : Attribute υ) : Clause υ := a.comparator.expression

def doc (a : Attribute υ) : Option String := a.comparator.doc <|> a.hybrid.doc

/-- The same attribute against an aliased entity, as a new attribute of the given identity;
none if its comparator stays as it is. -/
def rehome? (a : Attribute υ) (id : AttributeId) (on : Aliased) : Option (Attribute υ) :=
  (a.comparator.rehome? on).map fun c => mk id on.entity (some on.name) a.key a.hybrid c

/-- The columns that the attribute can be assigned to, under its alias if it has one. -/
def columns (a : Attribute υ) : List Column :=
  match a.aliasName with
  | none => a.owner.columns
  | some name => a.owner.columns.map (·.requalified name)

def inspect (a : Attribute υ) : String :=
  let aliasText := match a.aliasName with
    | none => "None"
    | some name => "Some(" ++ Text.quoted name ++ ")"
  "InstrumentedAttribute \x7b class: " ++ Text.quoted a.owner.name ++ ", alias: " ++ aliasText ++
    ", key: " ++ Text.quoted a.key ++ ", hybrid: " ++ Text.quoted a.hybrid.name ++ " \x7d"

def path (a : Attribute υ) : String := a.owner.name ++ "." ++ a.key

end Attribute
end DualMode
