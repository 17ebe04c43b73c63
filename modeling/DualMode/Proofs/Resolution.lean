import DualMode.Hybrid.Access
import DualMode.Method

/-! What an access to a hybrid does, step by step: one callback is asked, its answer is wrapped
and has to adapt, and the attribute is published unless another was published first. -/

namespace DualMode

/-- The callback that tells what a hybrid is on an entity. -/
inductive Asked (C : Callbacks)
  | comparator (c : C.Comparator) | expression (x : C.Expression) | getter (g : C.Getter)

/-- What such a callback answers. -/
inductive Given (υ : Type)
  | comparator (c : Comparator υ) | clause (k : Clause υ)

variable {C : Callbacks}

def Asked.answer (b : Behaviour C) (e : Entity) : Asked C → Run C (Given C.Update)
  | comparator c => Given.comparator <$> b.compare c e
  | expression x => Given.clause <$> b.express x e
  | getter g => (fun v => Given.clause (b.clause v)) <$> b.get g (.entity e)

namespace Hybrid

/-- A comparator comes before an expression, and an expression before the getter. -/
def asked (h : Hybrid C) : Asked C :=
  match h.comparator, h.expression with
  | some c, _ => .comparator c
  | none, some x => .expression x
  | none, none => .getter h.getter

def wrap (h : Hybrid C) (e : Entity) : Given C.Update → Comparator C.Update
  | .comparator c => c
  | .clause k => .builtin e k h.about h.update

theorem buildComparator_eq (b : Behaviour C) (h : Hybrid C) (e : Entity) :
    h.buildComparator b e = h.wrap e <$> h.asked.answer b e := by
  unfold buildComparator asked
  cases h.comparator with
  | some c => simp only [Asked.answer, Functor.map_map, wrap, id_map']
  | none =>
    cases h.expression with
    | some x => simp only [Asked.answer, Functor.map_map, wrap, bind_pure_comp]
    | none => simp only [Asked.answer, Functor.map_map, wrap, bind_pure_comp]

/-- Only a comparator callback answers with a comparator. -/
theorem clause_of_answer {b : Behaviour C} {h : Hybrid C} {e : Entity} {g : Given C.Update}
    {st st' : Store C} (plain : h.comparator = none)
    (ran : (h.asked.answer b e).run st = some (g, st')) : ∃ k, g = .clause k := by
  unfold asked at ran
  cases found : h.expression with
  | some x =>
    rw [plain, found, Asked.answer, StateT.run_map] at ran
    obtain ⟨p, -, given⟩ := Option.map_eq_some_iff.mp ran
    exact ⟨p.1, (congrArg Prod.fst given).symm⟩
  | none =>
    rw [plain, found, Asked.answer, StateT.run_map] at ran
    obtain ⟨p, -, given⟩ := Option.map_eq_some_iff.mp ran
    exact ⟨b.clause p.1, (congrArg Prod.fst given).symm⟩

def make (s : Settings) (h : Hybrid C) (e : Entity) (id : AttributeId)
    (g : Given C.Update) : Attribute C.Update :=
  .mk id e none (h.key s e) h.about (h.wrap e g)

@[simp] theorem clauseElement_make (limit : Nat) (s : Settings) (h : Hybrid C) (e : Entity)
    (id : AttributeId) (g : Given C.Update) :
    (h.make s e id g).clauseElement limit = (h.wrap e g).clauseElement limit :=
  Attribute.clauseElement_eq limit _

def noted (s : Settings) (h : Hybrid C) (e : Entity) (st : Store C) : Store C :=
  { st with
    fresh := st.fresh + 1
    remarks := .resolved h.name e.name (h.key s e) ::
      if (e.memberKey? h.about.id).isNone then .unregistered h.name e.name :: st.remarks
      else st.remarks }

/-- What is made of an answer: a fault if it does not adapt, else an attribute. -/
def finish (s : Settings) (h : Hybrid C) (e : Entity) (p : Given C.Update × Store C) :
    Except Fault (Attribute C.Update) × Store C :=
  match (h.wrap e p.1).clauseElement s.adaptLimit with
  | .error f => (.error f, p.2)
  | .ok _ => (.ok (h.make s e ⟨p.2.fresh⟩ p.1), h.noted s e p.2)

/-- Only an attribute is published, and the first one stays. -/
def settled (h : Hybrid C) (e : Entity) :
    Except Fault (Attribute C.Update) × Store C → Except Fault (Attribute C.Update) × Store C
  | (.error f, u) => (.error f, u)
  | (.ok a, u) =>
    (.ok (u.views.publish h.cache e.id a).1,
      { u with views := (u.views.publish h.cache e.id a).2 })

variable (s : Settings) (b : Behaviour C) (h : Hybrid C) (e : Entity) (st : Store C)

theorem fresh_le_settled (p : Given C.Update × Store C) :
    p.2.fresh ≤ (h.settled e (h.finish s e p)).2.fresh := by
  unfold finish
  cases (h.wrap e p.1).clauseElement s.adaptLimit with
  | error f => exact Nat.le_refl _
  | ok n => exact Nat.le_succ _

theorem get?_settled {p : Except Fault (Attribute C.Update) × Store C} {a : Attribute C.Update}
    (gives : (h.settled e p).1 = .ok a) :
    (h.settled e p).2.views.get? h.cache e.id = some a := by
  obtain ⟨r, u⟩ := p
  cases r with
  | error f => cases gives
  | ok built =>
    rw [← Except.ok.inj gives]
    exact Views.get?_publish ..

theorem run_build :
    (h.build s b e).run st = ((h.asked.answer b e).run st).map (h.finish s e) := by
  unfold build
  rw [buildComparator_eq]
  cases asked : (h.asked.answer b e).run st with
  | none => simp [StateT.run_bind, asked]
  | some p =>
    obtain ⟨g, u⟩ := p
    cases element : (h.wrap e g).clauseElement s.adaptLimit with
    | error f => simp [StateT.run_bind, asked, element, finish]
    | ok n =>
      simp only [StateT.run_bind, StateT.run_map, asked, element, finish, Option.bind_eq_bind,
        Option.map_eq_map, Option.map_some, Option.bind_some]
      cases unregistered : (e.memberKey? h.about.id).isNone with
      | true => simp [StateT.run_bind, make, noted, unregistered]
      | false => simp [StateT.run_bind, make, noted, unregistered]

theorem run_resolve_of_some {a : Attribute C.Update}
    (kept : st.views.get? h.cache e.id = some a) :
    (h.resolve s b e).run st =
      some (.ok a, { st with remarks := .cached h.name e.name :: st.remarks }) := by
  unfold resolve
  simp [StateT.run_bind, kept]

theorem run_resolve_of_none (missing : st.views.get? h.cache e.id = none) :
    (h.resolve s b e).run st =
      ((h.asked.answer b e).run st).map fun p => h.settled e (h.finish s e p) := by
  unfold resolve
  simp only [StateT.run_bind, StateT.run_get, Option.pure_def, Option.bind_eq_bind,
    Option.bind_some, missing, run_build]
  cases asked : (h.asked.answer b e).run st with
  | none => rfl
  | some p =>
    simp only [Option.map_some, Option.bind_some]
    rcases h.finish s e p with ⟨r, u⟩
    cases r <;> rfl

end Hybrid

namespace Method

/-- What a call on an entity gives before it is reduced. -/
def clauseOn (b : Behaviour C) (m : Method C) (e : Entity) (args : C.Args) :
    Run C (Clause C.Update) :=
  match m.expression with
  | some x => b.callExpress x e args
  | none => b.clause <$> b.call m.body (.entity e) args

/-- A call on an entity asks one callback and notes that it did. -/
theorem run_callOn (s : Settings) (b : Behaviour C) (m : Method C) (e : Entity)
    (args : C.Args) (st : Store C) :
    (m.callOn s b e args).run st = ((m.clauseOn b e args).run st).map fun p =>
      (p.1.adapt s.adaptLimit,
        { p.2 with remarks := .methodCalled m.name e.name :: p.2.remarks }) := by
  unfold callOn clauseOn
  cases m.expression with
  | some x =>
    cases asked : (b.callExpress x e args).run st with
    | none => simp [StateT.run_bind, asked]
    | some p => simp [StateT.run_bind, asked]
  | none =>
    cases asked : (b.call m.body (.entity e) args).run st with
    | none => simp [StateT.run_bind, asked]
    | some p => simp [StateT.run_bind, asked]

end Method

end DualMode
