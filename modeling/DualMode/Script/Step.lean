import DualMode.BulkUpdate
import DualMode.Script.Names
import DualMode.Script.Tables

/-! The steps of a session, and what each of them answers. -/

namespace DualMode
namespace Script

inductive Rebinding
  | clone
  | getter (t : Term)
  | setter (fields : List (String × Term))
  | deleter (fields : List (String × Term))
  | expression (c : ClauseTerm)
  | comparator (c : ComparatorTerm)
  | update (targets : List (Target × Term))
  | doc (text : String)
  | info (fields : List (String × Json))

inductive MethodRebinding
  | clone | doc (text : String) | expression (c : ClauseTerm)

inductive ComparatorCall
  | expression | inspect | clauseElement | doc
  | operate (op : Operator) (others : List ClauseTerm)
  | reverse (op : Operator) (other : ClauseTerm)
  | assign (value : Term)
  | adapts (entity aliasName : String)

/-- What a step is applied to; handles stand for what they name at that time. -/
inductive Subject
  | nowhere | record (handle : String) | entity (handle : String)
  | aliased (handle aliasName : String)

inductive Wanted
  | value | expression | descriptor

inductive Step
  | entity (as name : String) (table parent : Option String) (columns : List String)
      (members : List (String × String))
  | entityInfo (entity : String) | sameEntity (a b : String) | inherits (entity ancestor : String)
  | lookUp (entity column : String) | aliasOf (entity aliasName column : String)
  | member (entity name : String) | memberKey (entity handle : String)
  | column (as table name : String) | entityColumn (as entity name : String)
  | requalify (as attr table : String)
  | attr (attr : String) | identical (a b : String)
  | operate (attr : String) (op : Operator) (others : List ClauseTerm)
  | reverse (attr : String) (op : Operator) (other : ClauseTerm)
  | assign (attr : String) (value : Term)
  | comparator (attr : String) (call : ComparatorCall)
  | rehome (as attr entity aliasName : String)
  | hybrid (as name : String) (getter : Term) | describe (handle : String)
  | rebind (as base : String) (change : Rebinding)
  | record (as : String) (fields : List (String × Literal))
  | value (handle record : String) | set (handle record : String) (value : Term)
  | delete (handle record : String)
  | access (handle : String) (subject : Subject) (wanted : Wanted) (as : Option String)
  | resolve (as handle entity : String) | race (handle entity : String)
  | method (as name : String) (body : Term)
  | rebindMethod (as base : String) (change : MethodRebinding)
  | call (method record : String) (args : List Term)
  | callOn (method entity : String) (args : List Term)
  | adapt (c : ClauseTerm) | adaptAll (cs : List ClauseTerm) | clause (c : ClauseTerm)
  | node (n : NodeTerm) | evaluate (t : Term) (subject : Subject) (args : List Term)
  | update (entity : String) (sets : List (String × Term)) (filters : List NodeTerm)

inductive Extra
  | nothing | published (entities : Nat) | unchanged (b : Bool)

inductive Answer
  | entity (e : Entity) (members : List (String × List String))
  | truth (b : Bool) | text (s : String) | optionalText (s : Option String) | nothing
  | lookUp (column : Option Column) (required : Except Fault Column) (field : Operand)
  | aliased (a : Aliased) (column : Option Column) (field : Operand)
  | handles (hs : Option (List String))
  | attr (q : Queryable Rule) (sameAs : List String) (element : Except Fault Node) (extra : Extra)
  | node (e : Node) | nodes (es : List Node) | assigned (as : List Assignment)
  | clause (c : Clause Rule) | inspected (c : Clause Rule)
  | hybrid (h : Hybrid scripted) (published : Nat) (sameAs : List String)
  | method (m : Method scripted) (sameAs : List String)
  | record (r : Record) | operand (o : Operand) | evaluated (o : Operand)
  | race (same : Bool) (published : Nat)
  | update (stages : List Assigned) (statement : String)

end Script
end DualMode
