import DualMode.Hybrid.Basic

/-! Access to a hybrid: on a record its value, on an entity the published attribute, which is
built at the first access and kept. -/

namespace DualMode

variable {C : Callbacks}

namespace Hybrid

def value (b : Behaviour C) (h : Hybrid C) (r : Record) : Run C C.Value :=
  b.get h.getter (.record r)

def set (b : Behaviour C) (h : Hybrid C) (r : Record) (value : C.Value) :
    Run C (Except Fault Record) :=
  match h.setter with
  | some s => do return .ok (← b.set s r value)
  | none => pure (.error (.unsettable h.name))

def delete (b : Behaviour C) (h : Hybrid C) (r : Record) : Run C (Except Fault Record) :=
  match h.deleter with
  | some d => do return .ok (← b.delete d r)
  | none => pure (.error (.undeletable h.name))

/-- A custom comparator replaces the expression; without an expression the getter is asked
with the entity as its receiver. -/
def buildComparator (b : Behaviour C) (h : Hybrid C) (e : Entity) : Run C (Comparator C.Update) :=
  match h.comparator, h.expression with
  | some c, _ => b.compare c e
  | none, some x => do return .builtin e (← b.express x e) h.about h.update
  | none, none => do return .builtin e (b.clause (← b.get h.getter (.entity e))) h.about h.update

def key (s : Settings) (h : Hybrid C) (e : Entity) : String :=
  (e.memberKey? h.about.id).getD s.unknownKey

/-- Builds the attribute anew. An expression that does not adapt fails here and not when it
is first used. -/
def build (s : Settings) (b : Behaviour C) (h : Hybrid C) (e : Entity) :
    Run C (Except Fault (Attribute C.Update)) := do
  let c ← h.buildComparator b e
  match c.clauseElement s.adaptLimit with
  | .error f => return .error f
  | .ok _ =>
    if (e.memberKey? h.about.id).isNone then remark (.unregistered h.name e.name)
    remark (.resolved h.name e.name (h.key s e))
    let id ← mint
    return .ok (.mk ⟨id⟩ e none (h.key s e) h.about c)

def publish (h : Hybrid C) (e : Entity) (a : Attribute C.Update) : Run C (Attribute C.Update) :=
  modifyGet fun s =>
    let (first, views) := s.views.publish h.cache e.id a
    (first, { s with views := views })

/-- The published attribute of an entity. Nothing is held while it is built, so building may
resolve other hybrids, and what is published first stays. -/
def resolve (s : Settings) (b : Behaviour C) (h : Hybrid C) (e : Entity) :
    Run C (Except Fault (Attribute C.Update)) := do
  match (← get).views.get? h.cache e.id with
  | some a =>
    remark (.cached h.name e.name)
    return .ok a
  | none =>
    match ← h.build s b e with
    | .error f => return .error f
    | .ok a => return .ok (← h.publish e a)

def published (h : Hybrid C) : Run C Nat := do return (← get).views.size h.cache

end Hybrid

/-- How a hybrid is reached. -/
inductive Access
  | record (r : Record) | entity (e : Entity) | unbound

inductive Resolved (C : Callbacks)
  | value (v : C.Value) | expression (a : Attribute C.Update) | descriptor (h : Hybrid C)

def Hybrid.access (s : Settings) (b : Behaviour C) (h : Hybrid C) :
    Access → Run C (Except Fault (Resolved C))
  | .record r => do return .ok (.value (← h.value b r))
  | .entity e => do return (← h.resolve s b e).map .expression
  | .unbound => pure (.ok (.descriptor h))

end DualMode
