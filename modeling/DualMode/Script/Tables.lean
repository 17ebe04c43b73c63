import DualMode.Hybrid.Access
import DualMode.Method
import DualMode.Script.Eval

/-! Handles, and the callbacks that are looked up through them when they run. -/

namespace DualMode
namespace Script

/-- What the handles of a session stand for. -/
structure Tables where
  entities : List (String × Entity) := []
  hybrids : List (String × Hybrid scripted) := []
  methods : List (String × Method scripted) := []
  records : List (String × Record) := []
  attributes : List (String × Queryable Rule) := []

def assign {α : Type} (table : List (String × α)) (handle : String) (x : α) : List (String × α) :=
  if table.any (·.1 == handle) then table.map fun e => if e.1 == handle then (handle, x) else e
  else table ++ [(handle, x)]

def find {α : Type} (table : List (String × α)) (kind handle : String) : Eval α :=
  match table.lookup handle with
  | some x => pure x
  | none => malformed ("no " ++ kind ++ " " ++ handle)

namespace Tables

def sorted (handles : List String) : List String := handles.mergeSort fun a b => !(decide (b < a))

/-- The handles of hybrids, then of methods, that have the identity. -/
def handlesOf (t : Tables) (id : MemberId) : List String :=
  sorted ((t.hybrids.filter (·.2.about.id == id)).map (·.1)) ++
    sorted ((t.methods.filter (·.2.about.id == id)).map (·.1))

/-- The member with a handle; hybrids come before methods. -/
def member (t : Tables) (handle : String) : Eval MemberId :=
  match t.hybrids.lookup handle, t.methods.lookup handle with
  | some h, _ => pure h.about.id
  | none, some m => pure m.about.id
  | none, none => malformed ("no member " ++ handle)

/-- More calls within calls than any callbacks make that come to an end. -/
def callDepth (t : Tables) : Nat := (t.hybrids.length + 2) * (t.hybrids.length + 2)

end Tables

/-- What the expression of a failed callback is. -/
def failed : Node := .raw "ERROR"

def operandOr (x : Eval Operand) : Run scripted Operand := do
  match ← x.run with
  | .ok o => return o
  | .error _ => return .node failed

def clauseOr (x : Eval (Clause Rule)) : Run scripted (Clause Rule) := do
  match ← x.run with
  | .ok c => return c
  | .error _ => return .node failed

/-- Stores each value in turn that is a plain one, on the record as changed so far. -/
def runAssignments (w : World) (args : List Operand) (token : Nat) :
    List (String × Term) → Record → Run scripted Record
  | [], r => pure r
  | (name, t) :: rest, r => do
    let x ← operandOr (t.eval w { place := .record r, args := args, spot := [token] })
    match x with
    | .literal l => runAssignments w args token rest (r.put name l)
    | _ => runAssignments w args token rest r

/-- The assignments of an update rule; a column that the entity does not have ends it. -/
def runRule (w : World) (e : Entity) (value : Operand) (token : Nat) :
    List (Target × Term) → Run scripted Assigned
  | [] => pure (.ok [])
  | (target, t) :: rest => do
    let column : Except Fault Column := match target with
      | .named name => e.requireColumn name
      | .column c => .ok c
    match column with
    | .error f => return .error f
    | .ok c =>
      let x ← operandOr (t.eval w { place := .entity e, args := [value], spot := [token] })
      match ← runRule w e value token rest with
      | .error f => return .error f
      | .ok more => return .ok ((c, x) :: more)

def lowerCase (op : Operator) (l : Node) (rs : List Node) : Except Fault Node :=
  op.apply (.lower l) (rs.map .lower)

def ComparatorTerm.overrides (t : ComparatorTerm) : Overrides :=
  if t.bare then {}
  else
    { apply := if t.lower then lowerCase else Operator.apply
      rehome := fun a => do
        let name ← t.rehome
        let c ← a.column? name
        return if t.asNode then .node c.node else .column c
      doc := t.doc }

def receiverName : Receiver → String
  | .record _ => "instance"
  | .entity e => e.name

def behaviourIn (w : World) : Behaviour scripted where
  clause := .ofOperand
  get cb receiver := do
    let cb : Callback Term := cb
    event ("get " ++ cb.name ++ " " ++ receiverName receiver)
    operandOr (cb.script.eval w { place := .ofReceiver receiver, spot := [cb.token] })
  set cb r value := do
    let cb : Callback (List (String × Term)) := cb
    event ("set " ++ cb.name)
    runAssignments w [value] cb.token cb.script r
  delete cb r := do
    let cb : Callback (List (String × Term)) := cb
    event ("delete " ++ cb.name)
    runAssignments w [] cb.token cb.script r
  express cb e := do
    let cb : Callback ClauseTerm := cb
    event ("expression " ++ cb.name ++ " " ++ e.name)
    clauseOr (cb.script.eval w { place := .entity e, spot := [cb.token] })
  compare cb e := do
    let cb : Callback ComparatorTerm := cb
    event ("comparator " ++ cb.name ++ " " ++ e.name)
    match ← (cb.script.clause.eval w { place := .entity e, spot := [cb.token] }).run with
    | .ok c => return .custom c cb.script.overrides
    | .error _ => return .custom (.node failed) {}
  update cb e value := do
    let cb : Callback (List (Target × Term)) := cb
    event ("update " ++ cb.name ++ " " ++ e.name)
    runRule w e value cb.token cb.script
  call cb receiver args := do
    let cb : Callback Term := cb
    event ("call " ++ cb.name ++ " " ++ receiverName receiver)
    operandOr (cb.script.eval w { place := .ofReceiver receiver, args := args, spot := [cb.token] })
  callExpress cb e args := do
    let cb : Callback ClauseTerm := cb
    event ("method expression " ++ cb.name ++ " " ++ e.name)
    clauseOr (cb.script.eval w { place := .entity e, args := args, spot := [cb.token] })

/-- The world that handles make up, given what callbacks within callbacks do. -/
def worldOf (settings : Settings) (t : Tables) (inner : Behaviour scripted) : World where
  settings := settings
  attribute? handle := t.attributes.lookup handle
  resolve handle e := do
    let h ← find t.hybrids "hybrid" handle
    let r ← lift (h.resolve settings inner e)
    ofExcept r
  value handle r := do
    let h ← find t.hybrids "hybrid" handle
    lift (h.value inner r)

/-- A world in which callbacks call each other to the given depth, and never end beyond it. -/
def world (settings : Settings) (t : Tables) : Nat → World
  | 0 =>
    { settings := settings
      attribute? := fun handle => t.attributes.lookup handle
      resolve := fun _ _ => ExceptT.lift (StateT.lift none)
      value := fun _ _ => ExceptT.lift (StateT.lift none) }
  | n + 1 => worldOf settings t (behaviourIn (world settings t n))

end Script
end DualMode
