import DualMode.Script.Basic

/-! The meaning of terms. Operands are evaluated from left to right. -/

namespace DualMode
namespace Script

inductive Place
  | nowhere | record (r : Record) | entity (e : Entity) | aliased (a : Aliased)

namespace Place

def entity? : Place → Option Entity
  | entity e => some e
  | aliased a => some a.entity
  | _ => none

def ofReceiver : Receiver → Place
  | .record r => record r
  | .entity e => entity e

end Place

structure Scope where
  place : Place := .nowhere
  args : List Operand := []
  /-- Where in which callback the script stands. -/
  spot : List Nat := []

/-- What scripts see of the world around them. -/
structure World where
  settings : Settings
  attribute? : String → Option (Queryable Rule)
  /-- The published attribute of the hybrid with a handle. -/
  resolve : String → Entity → Eval (Attribute Rule)
  /-- The value on a record of the hybrid with a handle. -/
  value : String → Record → Eval Operand

namespace World

def lookUp (w : World) (handle : String) : Eval (Queryable Rule) :=
  match w.attribute? handle with
  | some q => pure q
  | none => malformed ("no attribute " ++ handle)

/-- A field of an entity; the log tells when no column is mapped under the name. -/
def entityField (w : World) (e : Entity) (name : String) : Eval Operand := do
  if (e.column? name).isNone && w.settings.warnUnknownField then
    lift (remark (.unmappedField e.name name))
  return e.field name

def field (w : World) (place : Place) (name : String) : Eval Operand :=
  match place with
  | .nowhere => malformed "a field needs a receiver"
  | .record r => pure (r.field name)
  | .entity e => w.entityField e name
  | .aliased a =>
    match a.column? name with
    | some c => pure (.column c)
    | none => w.entityField a.entity name

end World

/-- Two operands combined; the log tells when a value is lost. -/
def combine (op : BinaryOp) (x y : Operand) : Eval Operand := do
  match Operand.lost? op x y with
  | some (l, r) => lift (remark (.lostValue l op r))
  | none => pure ()
  return Operand.binary op x y

def repeatedly (step : Operand → Eval Operand) : Nat → Operand → Eval Operand
  | 0, x => pure x
  | n + 1, x => do repeatedly step n (← step x)

def resolveHere (w : World) (s : Scope) (handle : String) : Eval (Attribute Rule) :=
  match s.place.entity? with
  | some e => w.resolve handle e
  | none => malformed "a hybrid is resolved on an entity"

def enter (spot : List Nat) : Run scripted Bool :=
  modifyGet fun (s : Store scripted) =>
    let memory : Memory := s.memory
    if memory.entered.contains spot then (true, s)
    else (false, { s with memory := { memory with entered := spot :: memory.entered } })

def leave (spot : List Nat) : Run scripted Unit :=
  modify fun (s : Store scripted) =>
    let memory : Memory := s.memory
    { s with memory := { memory with entered := memory.entered.filter (· != spot) } }

mutual

def Term.eval (w : World) (s : Scope) : Term → Eval Operand
  | .literal l => pure (.literal l)
  | .column c => pure (.column c)
  | .field name => w.field s.place name
  | .argument i =>
    match s.args[i]? with
    | some x => pure x
    | none => malformed "no such argument"
  | .binary op l r => do
    let x ← l.eval w s
    let y ← r.eval w s
    combine op x y
  | .binaryFromRight op l r => do
    let y ← r.eval w s
    let x ← l.eval w s
    combine op x y
  | .repeated op start other times => do
    let x ← start.eval w s
    repeatedly (fun x => do combine op x (← other.eval w s)) times x
  | .byMode onRecord onEntity =>
    match s.place.entity? with
    | none => onRecord.eval w s
    | some _ => onEntity.eval w s
  | .hybrid handle =>
    match s.place with
    | .record r => w.value handle r
    | _ => do
      let a ← resolveHere w s handle
      return .node (← ofExcept (a.clauseElement w.settings.adaptLimit))
  | .node n => do return .node (← n.eval w s)

def NodeTerm.eval (w : World) (s : Scope) : NodeTerm → Eval Node
  | .raw sql => pure (.raw sql)
  | .lower n => do return .lower (← n.eval w s)
  | .operand t => do return (← t.eval w s).toNode
  | .clause c => do ofExcept ((← c.eval w s).adapt w.settings.adaptLimit)
  | .apply op left right => do
    let rs ← NodeTerm.evalAll w s right
    let l ← left.eval w s
    ofExcept (op.apply l rs)
  | .compare handle op others => do
    let q ← w.lookUp handle
    let cs ← ClauseTerm.evalAll w s others
    ofExcept (q.operate w.settings.adaptLimit op cs)

def NodeTerm.evalAll (w : World) (s : Scope) : List NodeTerm → Eval (List Node)
  | [] => pure []
  | n :: rest => do
    let e ← n.eval w s
    let es ← NodeTerm.evalAll w s rest
    return e :: es

def ClauseTerm.eval (w : World) (s : Scope) : ClauseTerm → Eval (Clause Rule)
  | .operand t => do return .ofOperand (← t.eval w s)
  | .literal l => pure (.literal l)
  | .node n => do return .node (← n.eval w s)
  | .column c => pure (.column c)
  | .attr handle => do return (← w.lookUp handle).clause
  | .hybrid handle => do return .attr (← resolveHere w s handle)
  | .extract label c => do return .extract (.yields label (← c.eval w s))
  | .nest n c => do return Source.nest (← c.eval w s) n
  | .cycle label => pure (.extract (.endless fun _ => label))
  | .reenter handle inner outer => do
    if ← lift (enter s.spot) then inner.eval w { s with spot := s.spot ++ [0] }
    else
      let resolved ← lift (resolveHere w s handle).run
      lift (leave s.spot)
      match resolved with
      | .error p => throw p
      | .ok _ => outer.eval w { s with spot := s.spot ++ [1] }

def ClauseTerm.evalAll (w : World) (s : Scope) : List ClauseTerm → Eval (List (Clause Rule))
  | [] => pure []
  | c :: rest => do
    let k ← c.eval w s
    let ks ← ClauseTerm.evalAll w s rest
    return k :: ks

end

end Script
end DualMode
