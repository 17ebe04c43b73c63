import DualMode.Entity.Declare
import DualMode.Script.Step

/-! Carrying out the steps of a session. -/

namespace DualMode
namespace Script

/-- The settings and the handles that a step starts from. -/
structure Setting where
  settings : Settings
  tables : Tables

namespace Setting

def world (s : Setting) : World := Script.world s.settings s.tables (s.tables.callDepth + 1)

def behaviour (s : Setting) : Behaviour scripted :=
  behaviourIn (Script.world s.settings s.tables s.tables.callDepth)

def limit (s : Setting) : Nat := s.settings.adaptLimit

def entity (s : Setting) (handle : String) : Eval Entity := find s.tables.entities "entity" handle

def hybrid (s : Setting) (handle : String) : Eval (Hybrid scripted) :=
  find s.tables.hybrids "hybrid" handle

def method (s : Setting) (handle : String) : Eval (Method scripted) :=
  find s.tables.methods "method" handle

def record (s : Setting) (handle : String) : Eval Record := find s.tables.records "record" handle

def published (s : Setting) (handle : String) : Eval (Attribute Rule) := do
  match ← s.world.lookUp handle with
  | .attr a => return a
  | .column _ => malformed "a mapped column has no comparator"

def place (s : Setting) : Subject → Eval Place
  | .nowhere => pure .nowhere
  | .record r => do return .record (← s.record r)
  | .entity e => do return .entity (← s.entity e)
  | .aliased e name => do return .aliased ⟨← s.entity e, name⟩

def term (s : Setting) (t : Term) : Eval Operand := t.eval s.world {}

def terms (s : Setting) (ts : List Term) : Eval (List Operand) := ts.mapM s.term

def clause (s : Setting) (c : ClauseTerm) : Eval (Clause Rule) := c.eval s.world {}

def clauses (s : Setting) (cs : List ClauseTerm) : Eval (List (Clause Rule)) :=
  ClauseTerm.evalAll s.world {} cs

def describeEntity (s : Setting) (e : Entity) : Answer :=
  .entity e (e.own.members.map fun m => (m.1, s.tables.handlesOf m.2))

def describeAttribute (s : Setting) (q : Queryable Rule) (extra : Extra) : Answer :=
  let sameAs := match q with
    | .column _ => []
    | .attr a => s.tables.handlesOf a.hybrid.id
  .attr q sameAs (q.clauseElement s.limit) extra

def describeHybrid (s : Setting) (h : Hybrid scripted) : Eval Answer := do
  return .hybrid h (← lift h.published) (s.tables.handlesOf h.about.id)

def describeMethod (s : Setting) (m : Method scripted) : Answer :=
  .method m (s.tables.handlesOf m.about.id)

def keepAttribute (s : Setting) (handle : String) (q : Queryable Rule) (extra : Extra) :
    Answer × Tables :=
  let tables := { s.tables with attributes := Script.assign s.tables.attributes handle q }
  (describeAttribute { s with tables } q extra, tables)

def keepHybrid (s : Setting) (handle : String) (h : Hybrid scripted) : Eval (Answer × Tables) := do
  let tables := { s.tables with hybrids := Script.assign s.tables.hybrids handle h }
  return (← describeHybrid { s with tables } h, tables)

def keepMethod (s : Setting) (handle : String) (m : Method scripted) : Answer × Tables :=
  let tables := { s.tables with methods := Script.assign s.tables.methods handle m }
  (describeMethod { s with tables } m, tables)

def keepRecord (s : Setting) (handle : String) (r : Record) : Answer × Tables :=
  (.record r, { s.tables with records := Script.assign s.tables.records handle r })

def callback {α : Type} (name : String) (script : α) : Eval (Callback α) := do
  return { name := name, token := ← lift mint, script := script }

def rebind (h : Hybrid scripted) : Rebinding → Eval (Hybrid scripted)
  | .clone => pure h
  | .getter t => do lift (h.rebind (.getter (← callback h.name t)))
  | .setter fs => do lift (h.rebind (.setter (← callback h.name fs)))
  | .deleter fs => do lift (h.rebind (.deleter (← callback h.name fs)))
  | .expression c => do lift (h.rebind (.expression (← callback h.name c)))
  | .comparator c => do lift (h.rebind (.comparator (← callback h.name c)))
  | .update ts => do lift (h.rebind (.update (← callback h.name ts)))
  | .doc text => lift (h.rebind (.doc text))
  | .info fields => lift (h.rebind (.info fields))

def rebindMethod (m : Method scripted) : MethodRebinding → Eval (Method scripted)
  | .clone => pure m
  | .doc text => lift (m.withDoc text)
  | .expression c => do lift (m.withExpression (← callback m.name c))

def callComparator (s : Setting) (a : Attribute Rule) : ComparatorCall → Eval Answer
  | .expression => pure (.clause a.expression)
  | .inspect => pure (.text a.expression.inspect)
  | .clauseElement => do return .node (← ofExcept (a.comparator.clauseElement s.limit))
  | .doc => pure (.optionalText a.comparator.doc)
  | .operate op others => do
    let cs ← s.clauses others
    return .node (← ofExcept (a.comparator.operate s.limit op cs))
  | .reverse op other => do
    let c ← s.clause other
    return .node (← ofExcept (a.comparator.reverse s.limit op c))
  | .assign value => do
    let x ← s.term value
    let assigned ← lift (a.comparator.assign s.limit s.behaviour.update x)
    return .assigned (← ofExcept assigned)
  | .adapts entity name => do
    let e ← s.entity entity
    return .truth (a.comparator.rehome? ⟨e, name⟩).isSome

/-- Sets attributes one after the other; an assignment that fails is left out. -/
def setAll (s : Setting) (scope : Scope) :
    List (String × Term) → BulkUpdate → Eval (List Assigned × BulkUpdate)
  | [], u => pure ([], u)
  | (handle, t) :: rest, u => do
    let q ← s.world.lookUp handle
    let x ← t.eval s.world scope
    match ← lift (u.set s.settings s.behaviour q x) with
    | .error f =>
      let (stages, last) ← setAll s scope rest u
      return (.error f :: stages, last)
    | .ok next =>
      let (stages, last) ← setAll s scope rest next
      return (.ok next.assignments :: stages, last)

def update (s : Setting) (entity : String) (sets : List (String × Term))
    (filters : List NodeTerm) : Eval Answer := do
  let e ← s.entity entity
  let scope : Scope := { place := .entity e }
  let (stages, u) ← s.setAll scope sets { entity := e }
  let conditions ← NodeTerm.evalAll s.world scope filters
  return .update stages (conditions.foldl BulkUpdate.filter u).statement

def declare (s : Setting) (as name : String) (table parent : Option String)
    (columns : List String) (members : List (String × String)) : Eval (Answer × Tables) := do
  let above ← parent.mapM s.entity
  let registered ← members.mapM fun m => do return (m.1, ← s.tables.member m.2)
  let blueprint : Blueprint :=
    { name := name, table := table, parent := above, columns := columns, members := registered }
  let e := blueprint.declare ⟨← lift mint⟩
  let tables := { s.tables with entities := Script.assign s.tables.entities as e }
  return (describeEntity { s with tables } e, tables)

def access (s : Setting) (handle : String) (subject : Subject) (wanted : Wanted)
    (as : Option String) : Eval (Answer × Tables) := do
  let h ← s.hybrid handle
  let reached ← match subject with
    | .record r => do pure (Access.record (← s.record r))
    | .entity e => do pure (Access.entity (← s.entity e))
    | .aliased e _ => do pure (Access.entity (← s.entity e))
    | .nowhere => pure Access.unbound
  let resolved ← ofExcept (← lift (h.access s.settings s.behaviour reached))
  match wanted, resolved with
  | .value, .value o => return (.operand o, s.tables)
  | .expression, .expression a =>
    match as with
    | some handle => return s.keepAttribute handle (.attr a) .nothing
    | none => return (s.describeAttribute (.attr a) .nothing, s.tables)
  | .descriptor, .descriptor h =>
    match as with
    | some handle => s.keepHybrid handle h
    | none => return (← s.describeHybrid h, s.tables)
  | _, _ => return (.nothing, s.tables)

/-- How many accesses run at once before a last one. -/
def racers : Nat := 8

def resolveTimes {α : Type} (resolve : Run scripted α) : Nat → Run scripted (List α)
  | 0 => pure []
  | n + 1 => do
    let a ← resolve
    return a :: (← resolveTimes resolve n)

def isSame (a : Attribute Rule) : Except Fault (Attribute Rule) → Bool
  | .ok b => b.id == a.id
  | .error _ => false

/-- The answer to a step, and the handles after it. -/
def perform (s : Setting) : Step → Eval (Answer × Tables)
  | .entity as name table parent columns members =>
    s.declare as name table parent columns members
  | .entityInfo e => do return (s.describeEntity (← s.entity e), s.tables)
  | .sameEntity a b => do return (.truth ((← s.entity a).same (← s.entity b)), s.tables)
  | .inherits e f => do return (.truth ((← s.entity e).inherits (← s.entity f)), s.tables)
  | .lookUp e column => do
    let e ← s.entity e
    let field ← s.world.entityField e column
    return (.lookUp (e.column? column) (e.requireColumn column) field, s.tables)
  | .aliasOf e name column => do
    let a : Aliased := ⟨← s.entity e, name⟩
    let field ← s.world.field (.aliased a) column
    return (.aliased a (a.column? column) field, s.tables)
  | .member e name => do
    return (.handles (((← s.entity e).member? name).map s.tables.handlesOf), s.tables)
  | .memberKey e handle => do
    let e ← s.entity e
    return (.optionalText (e.memberKey? (← s.tables.member handle)), s.tables)
  | .column as table name => pure (s.keepAttribute as (.column ⟨table, name⟩) .nothing)
  | .entityColumn as e name => do
    let c ← ofExcept ((← s.entity e).requireColumn name)
    return s.keepAttribute as (.column c) .nothing
  | .requalify as handle table => do
    match ← s.world.lookUp handle with
    | .column c => return s.keepAttribute as (.column (c.requalified table)) .nothing
    | .attr _ => malformed "only a mapped column is requalified"
  | .attr handle => do return (s.describeAttribute (← s.world.lookUp handle) .nothing, s.tables)
  | .identical a b => do
    let a ← s.published a
    let b ← s.published b
    return (.truth (a.id == b.id), s.tables)
  | .operate handle op others => do
    let q ← s.world.lookUp handle
    let cs ← s.clauses others
    return (.node (← ofExcept (q.operate s.limit op cs)), s.tables)
  | .reverse handle op other => do
    let q ← s.world.lookUp handle
    let c ← s.clause other
    return (.node (← ofExcept (q.reverse s.limit op c)), s.tables)
  | .assign handle value => do
    let q ← s.world.lookUp handle
    let x ← s.term value
    let assigned ← lift (q.assign s.limit s.behaviour.update x)
    return (.assigned (← ofExcept assigned), s.tables)
  | .comparator handle call => do
    return (← s.callComparator (← s.published handle) call, s.tables)
  | .rehome as handle e name => do
    let a ← s.published handle
    let on : Aliased := ⟨← s.entity e, name⟩
    let id ← lift mint
    match a.rehome? ⟨id⟩ on with
    | some b => return s.keepAttribute as (.attr b) (.unchanged false)
    | none => return s.keepAttribute as (.attr a) (.unchanged true)
  | .hybrid as name getter => do
    s.keepHybrid as (← lift (Hybrid.create name (← callback name getter)))
  | .describe handle => do return (← s.describeHybrid (← s.hybrid handle), s.tables)
  | .rebind as base change => do s.keepHybrid as (← rebind (← s.hybrid base) change)
  | .record as fields => pure (s.keepRecord as ⟨fields⟩)
  | .value handle r => do
    let h ← s.hybrid handle
    return (.operand (← lift (h.value s.behaviour (← s.record r))), s.tables)
  | .set handle r value => do
    let h ← s.hybrid handle
    let before ← s.record r
    let x ← s.term value
    return s.keepRecord r (← ofExcept (← lift (h.set s.behaviour before x)))
  | .delete handle r => do
    let h ← s.hybrid handle
    let before ← s.record r
    return s.keepRecord r (← ofExcept (← lift (h.delete s.behaviour before)))
  | .access handle subject wanted as => s.access handle subject wanted as
  | .resolve as handle e => do
    let h ← s.hybrid handle
    let a ← ofExcept (← lift (h.resolve s.settings s.behaviour (← s.entity e)))
    return s.keepAttribute as (.attr a) (.published (← lift h.published))
  | .race handle e => do
    let h ← s.hybrid handle
    let e ← s.entity e
    let reached ← lift (resolveTimes (h.resolve s.settings s.behaviour e) racers)
    let a ← ofExcept (← lift (h.resolve s.settings s.behaviour e))
    return (.race (reached.all (isSame a)) (← lift h.published), s.tables)
  | .method as name body => do
    return s.keepMethod as (← lift (Method.create name (← callback name body)))
  | .rebindMethod as base change => do
    return s.keepMethod as (← rebindMethod (← s.method base) change)
  | .call m r args => do
    let m ← s.method m
    let r ← s.record r
    let xs ← s.terms args
    return (.operand (← lift (m.call s.behaviour r xs)), s.tables)
  | .callOn m e args => do
    let m ← s.method m
    let e ← s.entity e
    let xs ← s.terms args
    return (.node (← ofExcept (← lift (m.callOn s.settings s.behaviour e xs))), s.tables)
  | .adapt c => do return (.node (← ofExcept ((← s.clause c).adapt s.limit)), s.tables)
  | .adaptAll cs => do
    return (.nodes (← ofExcept (Clause.adaptAll s.limit (← s.clauses cs))), s.tables)
  | .clause c => do return (.inspected (← s.clause c), s.tables)
  | .node n => do return (.node (← n.eval s.world {}), s.tables)
  | .evaluate t subject args => do
    let place ← s.place subject
    let xs ← s.terms args
    return (.evaluated (← t.eval s.world { place := place, args := xs }), s.tables)
  | .update e sets filters => do return (← s.update e sets filters, s.tables)

end Setting
end Script
end DualMode
