import DualMode.Proofs.Resolution

/-! Callbacks that note their calls. The notes stand beside what the callbacks remember anyway, and
nobody reads them, so accesses do what they did before; but the notes tell which callbacks an access
called, and how often. -/

namespace DualMode

/-- A callback, with what it is called with. -/
inductive Noted (C : Callbacks)
  | get (g : C.Getter) (this : Receiver)
  | set (s : C.Setter) (r : Record) (value : C.Value)
  | delete (d : C.Deleter) (r : Record)
  | express (x : C.Expression) (e : Entity)
  | compare (c : C.Comparator) (e : Entity)
  | update (u : C.Update) (e : Entity) (value : Operand)
  | call (m : C.Body) (this : Receiver) (args : C.Args)
  | callExpress (x : C.CallExpression) (e : Entity) (args : C.Args)

/-- The same callbacks, with a memory that also holds the calls, newest first. -/
abbrev Callbacks.noting (C : Callbacks) : Callbacks :=
  { C with Memory := List (Noted C) × C.Memory }

variable {C : Callbacks}

namespace Store

def noting (st : Store C) (calls : List (Noted C)) : Store C.noting where
  fresh := st.fresh
  views := st.views
  remarks := st.remarks
  memory := (calls, st.memory)

def unnoted (st : Store C.noting) : Store C where
  fresh := st.fresh
  views := st.views
  remarks := st.remarks
  memory := st.memory.2

end Store

def Run.noting {α : Type} (call : Noted C) (x : Run C α) : Run C.noting α := fun st =>
  (x.run st.unnoted).map fun p => (p.1, p.2.noting (call :: st.memory.1))

theorem map_run_noting {α β : Type} (f : α → β) (call : Noted C) (x : Run C α) (st : Store C)
    (calls : List (Noted C)) :
    (fun p => (f p.1, p.2)) <$> (Run.noting call x).run (st.noting calls) =
      ((fun p => (f p.1, p.2)) <$> x.run st).map fun p => (p.1, p.2.noting (call :: calls)) := by
  have noted : (Run.noting call x).run (st.noting calls) =
      (x.run st).map fun p => (p.1, p.2.noting (call :: calls)) := rfl
  rw [noted]
  cases x.run st with
  | none => rfl
  | some p => rfl

def Behaviour.noting (b : Behaviour C) : Behaviour C.noting where
  clause := b.clause
  get g this := Run.noting (.get g this) (b.get g this)
  set s r value := Run.noting (.set s r value) (b.set s r value)
  delete d r := Run.noting (.delete d r) (b.delete d r)
  express x e := Run.noting (.express x e) (b.express x e)
  compare c e := Run.noting (.compare c e) (b.compare c e)
  update u e value := Run.noting (.update u e value) (b.update u e value)
  call m this args := Run.noting (.call m this args) (b.call m this args)
  callExpress x e args := Run.noting (.callExpress x e args) (b.callExpress x e args)

namespace Hybrid

def noting (h : Hybrid C) : Hybrid C.noting where
  about := h.about
  getter := h.getter
  setter := h.setter
  deleter := h.deleter
  expression := h.expression
  comparator := h.comparator
  update := h.update
  cache := h.cache

/-- The one callback that tells what the hybrid is on an entity: the comparator if there is one,
else the expression if there is one, else the getter, with the entity as its receiver. -/
def classCall (h : Hybrid C) (e : Entity) : Noted C :=
  match h.comparator, h.expression with
  | some c, _ => .compare c e
  | none, some x => .express x e
  | none, none => .get h.getter (.entity e)

variable (s : Settings) (b : Behaviour C) (h : Hybrid C) (e : Entity) (st : Store C)
  (calls : List (Noted C))

theorem run_answer_noting :
    (h.noting.asked.answer b.noting e).run (st.noting calls) =
      ((h.asked.answer b e).run st).map fun p => (p.1, p.2.noting (h.classCall e :: calls)) := by
  unfold asked classCall
  cases comparator : h.comparator with
  | some c =>
    simp only [noting, comparator, Asked.answer, StateT.run_map]
    exact map_run_noting Given.comparator _ (b.compare c e) st calls
  | none =>
    cases expression : h.expression with
    | some x =>
      simp only [noting, comparator, expression, Asked.answer, StateT.run_map]
      exact map_run_noting Given.clause _ (b.express x e) st calls
    | none =>
      simp only [noting, comparator, expression, Asked.answer, StateT.run_map]
      exact map_run_noting (fun v => Given.clause (b.clause v)) _
        (b.get h.getter (.entity e)) st calls

theorem settled_finish_noting (p : Given C.Update × Store C) :
    h.noting.settled e (h.noting.finish s e (p.1, p.2.noting calls)) =
      ((h.settled e (h.finish s e p)).1, (h.settled e (h.finish s e p)).2.noting calls) := by
  obtain ⟨g, u⟩ := p
  have wrapped : h.noting.wrap e g = h.wrap e g := by cases g <;> rfl
  have made : h.noting.make s e ⟨u.fresh⟩ g = h.make s e ⟨u.fresh⟩ g := by
    rw [make, make, wrapped]
    rfl
  unfold finish
  cases element : (h.wrap e g).clauseElement s.adaptLimit with
  | error f =>
    simp only [wrapped, element]
    rfl
  | ok n =>
    simp only [wrapped, element]
    show h.noting.settled e (.ok (h.noting.make s e ⟨u.fresh⟩ g), _) = _
    rw [made]
    rfl

/-- An access calls nothing where an attribute is published, and the one callback otherwise. -/
theorem run_resolve_noting :
    (h.noting.resolve s b.noting e).run (st.noting calls) =
      ((h.resolve s b e).run st).map fun p => (p.1, p.2.noting
        (if (st.views.get? h.cache e.id).isSome then calls else h.classCall e :: calls)) := by
  cases found : st.views.get? h.cache e.id with
  | some a =>
    rw [run_resolve_of_some _ _ _ _ _ found, h.noting.run_resolve_of_some _ _ _ _ found]
    rfl
  | none =>
    rw [run_resolve_of_none _ _ _ _ _ found, h.noting.run_resolve_of_none _ _ _ _ found,
      run_answer_noting, Option.map_map, Option.map_map]
    congr 1
    funext p
    exact settled_finish_noting s h e _ p

end Hybrid
end DualMode
