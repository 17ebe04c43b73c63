import DualMode.Entity.Declare
import DualMode.Proofs.Calls
import Mathlib.Data.List.Dedup

/-! Accesses to one hybrid, one after the other. Each access to an entity calls a callback until one
of them succeeds, and from then on none does: what this one published is given for ever. -/

namespace DualMode

variable {C : Callbacks}

namespace Views

variable {υ : Type}

def published (v : Views υ) (cache : CacheId) : List (EntityId × Attribute υ) :=
  (v.entries.filter (·.1.1 == cache)).map fun x => (x.1.2, x.2)

theorem entities_eq (v : Views υ) (cache : CacheId) :
    v.entities cache = (v.published cache).map (·.1) := by
  simp [entities, published]

theorem get?_eq (v : Views υ) (cache : CacheId) (id : EntityId) :
    v.get? cache id = ((v.published cache).find? (·.1 == id)).map (·.2) := by
  unfold get? published
  rw [List.find?_map, List.find?_filter, Option.map_map]
  congr 1
  refine congrArg (List.find? · v.entries) (funext fun x => ?_)
  rw [Bool.eq_iff_iff]
  simp [Prod.ext_iff]

theorem get?_congr {v w : Views υ} {cache : CacheId} (same : v.published cache = w.published cache)
    (id : EntityId) : v.get? cache id = w.get? cache id := by
  rw [get?_eq, get?_eq, same]

end Views

/-- The accesses that ended, in order: the entity of each, and what the access gave. -/
abbrev Accesses (C : Callbacks) := List (EntityId × Except Fault (Attribute C.Update))

namespace Accesses

def succeeded (past : Accesses C) : List EntityId :=
  past.filterMap fun x =>
    match x.2 with
    | .ok _ => some x.1
    | .error _ => none

theorem mem_succeeded_iff {past : Accesses C} {id : EntityId} :
    id ∈ past.succeeded ↔ ∃ a, (id, .ok a) ∈ past := by
  unfold succeeded
  rw [List.mem_filterMap]
  constructor
  · rintro ⟨⟨id', r⟩, known, gives⟩
    cases r with
    | error f => cases gives
    | ok a =>
      obtain rfl := Option.some.inj gives
      exact ⟨a, known⟩
  · rintro ⟨a, known⟩
    exact ⟨_, known, rfl⟩

end Accesses

namespace Hybrid

/-- The callback that tells what the hybrid is leaves its views alone, whatever else it does and
however it answers. -/
def Aloof (b : Behaviour C) (h : Hybrid C) : Prop :=
  ∀ e st g u, (h.asked.answer b e).run st = some (g, u) →
    u.views.published h.cache = st.views.published h.cache

/-- Accesses to a hybrid and its copies, which are the same hybrid. Between two of them anything
may happen but to the views of this hybrid; so callbacks may come to answer differently. -/
inductive Accessed (s : Settings) (b : Behaviour C) (h : Hybrid C) (st : Store C) :
    Accesses C → Store C → Prop
  | start : Accessed s b h st [] st
  | aside {past : Accesses C} {mid st' : Store C} (before : Accessed s b h st past mid)
      (apart : st'.views.published h.cache = mid.views.published h.cache) :
      Accessed s b h st past st'
  | access {past : Accesses C} {mid st' : Store C} {e : Entity}
      {r : Except Fault (Attribute C.Update)} (before : Accessed s b h st past mid)
      (ran : (h.resolve s b e).run mid = some (r, st')) :
      Accessed s b h st (past ++ [(e.id, r)]) st'

/-- The views are exactly what successful accesses gave. -/
structure Recalls (h : Hybrid C) (past : Accesses C) (st : Store C) : Prop where
  found_iff : ∀ id a, st.views.get? h.cache id = some a ↔ (id, .ok a) ∈ past
  distinct : (st.views.entities h.cache).Nodup

variable {s : Settings} {b : Behaviour C} {h : Hybrid C} {e : Entity} {st st' : Store C}
  {r : Except Fault (Attribute C.Update)} {past : Accesses C}

/-- What an access does: it gives what is published, or it asks the callback, and then it fails or
publishes. -/
theorem resolve_cases (ran : (h.resolve s b e).run st = some (r, st')) :
    (∃ a, st.views.get? h.cache e.id = some a ∧ r = .ok a ∧ st'.views = st.views) ∨
      (st.views.get? h.cache e.id = none ∧ ∃ g u, (h.asked.answer b e).run st = some (g, u) ∧
        ((∃ f, (h.wrap e g).clauseElement s.adaptLimit = .error f ∧ r = .error f ∧ st' = u) ∨
          ∃ n a, (h.wrap e g).clauseElement s.adaptLimit = .ok n ∧
            r = .ok (u.views.publish h.cache e.id a).1 ∧
            st'.views = (u.views.publish h.cache e.id a).2)) := by
  cases found : st.views.get? h.cache e.id with
  | some a =>
    rw [run_resolve_of_some _ _ _ _ _ found] at ran
    obtain ⟨rfl, rfl⟩ := Prod.mk.inj (Option.some.inj ran)
    exact .inl ⟨a, rfl, rfl, rfl⟩
  | none =>
    rw [run_resolve_of_none _ _ _ _ _ found] at ran
    obtain ⟨⟨g, u⟩, answered, settled⟩ := Option.map_eq_some_iff.mp ran
    refine .inr ⟨rfl, g, u, answered, ?_⟩
    unfold finish at settled
    cases element : (h.wrap e g).clauseElement s.adaptLimit with
    | error f =>
      simp only [element] at settled
      obtain ⟨rfl, rfl⟩ := Prod.mk.inj settled
      exact .inl ⟨f, rfl, rfl, rfl⟩
    | ok n =>
      simp only [element] at settled
      obtain ⟨rfl, rfl⟩ := Prod.mk.inj settled
      exact .inr ⟨n, _, rfl, rfl, rfl⟩

namespace Recalls

theorem start (fresh : st.views.size h.cache = 0) : h.Recalls [] st := by
  have none : st.views.entities h.cache = [] := by
    rwa [Views.size_eq_length, List.length_eq_zero_iff] at fresh
  refine ⟨fun id a => ⟨fun found => ?_, nofun⟩, none ▸ List.nodup_nil⟩
  have known := Views.mem_entities_iff.mpr ⟨a, found⟩
  rw [none] at known
  cases known

theorem aside (k : h.Recalls past st)
    (apart : st'.views.published h.cache = st.views.published h.cache) : h.Recalls past st' := by
  refine ⟨fun id a => ?_, ?_⟩
  · rw [Views.get?_congr apart]
    exact k.found_iff id a
  · rw [Views.entities_eq, apart, ← Views.entities_eq]
    exact k.distinct

theorem failed (k : h.Recalls past st) (id : EntityId) (f : Fault) :
    h.Recalls (past ++ [(id, .error f)]) st := by
  refine ⟨fun id' a => ?_, k.distinct⟩
  simp [k.found_iff]

/-- An access that gives what was published before gives nothing new. -/
theorem repeated (k : h.Recalls past st) {id : EntityId} {a : Attribute C.Update}
    (found : st.views.get? h.cache id = some a) : h.Recalls (past ++ [(id, .ok a)]) st := by
  refine ⟨fun id' a' => ?_, k.distinct⟩
  rw [k.found_iff, List.mem_append, List.mem_singleton]
  refine ⟨.inl, ?_⟩
  rintro (known | same)
  · exact known
  · obtain ⟨rfl, rfl⟩ : id' = id ∧ a' = a := by simpa using same
    exact (k.found_iff id' a').mp found

/-- The first success for an entity is remembered, with what it published. -/
theorem published (k : h.Recalls past st) {id : EntityId}
    (missing : st.views.get? h.cache id = none) (a : Attribute C.Update)
    (same : st'.views = (st.views.publish h.cache id a).2) :
    h.Recalls (past ++ [(id, .ok (st.views.publish h.cache id a).1)]) st' := by
  have gives : (st.views.publish h.cache id a).1 = a := by rw [Views.publish_of_none missing]
  refine ⟨fun id' a' => ?_, same ▸ Views.nodup_entities_publish k.distinct ..⟩
  rw [same, gives, List.mem_append, List.mem_singleton]
  constructor
  · intro found
    obtain before | ⟨-, rfl, rfl⟩ := Views.get?_of_publish found
    · exact .inl ((k.found_iff id' a').mp before)
    · exact .inr rfl
  · rintro (known | new)
    · exact Views.get?_publish_of_some ((k.found_iff id' a').mpr known) ..
    · obtain ⟨rfl, rfl⟩ : id' = id ∧ a' = a := by simpa using new
      rw [Views.get?_publish, gives]

theorem access (k : h.Recalls past st) (aloof : h.Aloof b)
    (ran : (h.resolve s b e).run st = some (r, st')) : h.Recalls (past ++ [(e.id, r)]) st' := by
  obtain ⟨a, found, rfl, same⟩ | ⟨missing, g, u, answered, ended⟩ := resolve_cases ran
  · exact (k.repeated found).aside (by rw [same])
  · have apart := aloof e st g u answered
    have asked := k.aside apart
    obtain ⟨f, -, rfl, rfl⟩ | ⟨n, a, -, rfl, same⟩ := ended
    · exact asked.failed e.id f
    · exact asked.published ((Views.get?_congr apart e.id).trans missing) a same

end Recalls

theorem Accessed.recalls (aloof : h.Aloof b) (fresh : st.views.size h.cache = 0)
    (run : Accessed s b h st past st') : h.Recalls past st' := by
  induction run with
  | start => exact .start fresh
  | aside before apart ih => exact ih.aside apart
  | access before ran ih => exact ih.access aloof ran

namespace Recalls

theorem get?_eq_none_iff (k : h.Recalls past st) {id : EntityId} :
    st.views.get? h.cache id = none ↔ id ∉ past.succeeded := by
  rw [Option.eq_none_iff_forall_ne_some, Accesses.mem_succeeded_iff, not_exists]
  exact forall_congr' fun a => not_congr (k.found_iff id a)

theorem size_eq (k : h.Recalls past st) :
    st.views.size h.cache = past.succeeded.dedup.length := by
  rw [Views.size_eq_length]
  refine List.Perm.length_eq ((List.perm_ext_iff_of_nodup k.distinct
    (List.nodup_dedup _)).mpr fun id => ?_)
  rw [List.mem_dedup, Views.mem_entities_iff, Accesses.mem_succeeded_iff]
  exact exists_congr (k.found_iff id)

end Recalls

/-- An access fails just when it asks for an answer and the answer does not adapt. Then nothing
happens after the answer. -/
theorem run_resolve_eq_error_iff {f : Fault} :
    (h.resolve s b e).run st = some (.error f, st') ↔
      st.views.get? h.cache e.id = none ∧ ∃ g, (h.asked.answer b e).run st = some (g, st') ∧
        (h.wrap e g).clauseElement s.adaptLimit = .error f := by
  constructor
  · intro ran
    obtain ⟨a, -, impossible, -⟩ | ⟨missing, g, u, answered, ended⟩ := resolve_cases ran
    · cases impossible
    · obtain ⟨f', element, same, rfl⟩ | ⟨n, a, -, impossible, -⟩ := ended
      · obtain rfl := Except.error.inj same
        exact ⟨missing, g, answered, element⟩
      · cases impossible
  · rintro ⟨missing, g, answered, element⟩
    rw [run_resolve_of_none _ _ _ _ _ missing, answered, Option.map_some]
    simp only [finish, element]
    rfl

/-- In every run of accesses to a hybrid of which nothing was published before, an access to an
entity without a success calls the one callback that tells what the hybrid is, once, and ends if
that does; an access after a success calls none, and gives the attribute of that success; an access
that fails, which is one whose answer does not adapt, leaves the views as they were; and there are
as many views as entities with a success. -/
theorem resolve_until_first_success (aloof : h.Aloof b) (fresh : st.views.size h.cache = 0)
    (run : Accessed s b h st past st') :
    (∀ e, e.id ∉ past.succeeded →
      ((h.resolve s b e).run st').isSome = ((h.asked.answer b e).run st').isSome ∧ ∀ calls,
        (h.noting.resolve s b.noting e).run (st'.noting calls) =
          ((h.resolve s b e).run st').map fun p => (p.1, p.2.noting (h.classCall e :: calls))) ∧
    (∀ e a, (e.id, .ok a) ∈ past → ∃ st'', (h.resolve s b e).run st' = some (.ok a, st'') ∧
      st''.views = st'.views ∧ ∀ calls,
        (h.noting.resolve s b.noting e).run (st'.noting calls) = some (.ok a, st''.noting calls)) ∧
    (∀ e f st'', (h.resolve s b e).run st' = some (.error f, st'') ↔ e.id ∉ past.succeeded ∧
      ∃ g, (h.asked.answer b e).run st' = some (g, st'') ∧
        (h.wrap e g).clauseElement s.adaptLimit = .error f) ∧
    (∀ e f st'', (h.resolve s b e).run st' = some (.error f, st'') →
      st''.views.published h.cache = st'.views.published h.cache) ∧
    h.published.run st' = some (past.succeeded.dedup.length, st') := by
  have k := run.recalls aloof fresh
  refine ⟨fun e unknown => ?_, fun e a known => ?_, fun e f st'' => ?_, fun e f st'' ran => ?_, ?_⟩
  · have missing := k.get?_eq_none_iff.mpr unknown
    refine ⟨?_, fun calls => ?_⟩
    · rw [run_resolve_of_none _ _ _ _ _ missing, Option.isSome_map]
    · simpa [missing] using run_resolve_noting s b h e st' calls
  · have found := (k.found_iff e.id a).mpr known
    refine ⟨_, h.run_resolve_of_some s b e st' found, rfl, fun calls => ?_⟩
    simpa [found, h.run_resolve_of_some s b e st' found] using run_resolve_noting s b h e st' calls
  · rw [run_resolve_eq_error_iff, k.get?_eq_none_iff]
  · obtain ⟨-, g, answered, -⟩ := run_resolve_eq_error_iff.mp ran
    exact aloof e st' g st'' answered
  · rw [← k.size_eq]
    rfl

/-! A callback whose first answer does not adapt, and which answers with a column afterwards. -/

namespace Accessed

abbrev wavering : Callbacks where
  Value := Operand
  Getter := Unit
  Expression := Unit
  Memory := Bool

def total : Hybrid wavering :=
  { about := { id := ⟨0⟩, name := "total" }, getter := (), expression := some (), cache := ⟨1⟩ }

def improving : Behaviour wavering where
  clause := .ofOperand
  get _ _ := pure (.literal .null)
  set c := c.elim
  delete c := c.elim
  express _ e := modifyGet fun st =>
    (if st.memory then .column ⟨e.name, "total"⟩ else .extract (.yields "total" (.literal .null)),
      { st with memory := true })
  compare c := c.elim
  update c := c.elim
  call c := c.elim
  callExpress c := c.elim

theorem total_aloof : total.Aloof improving := by
  intro e st g u answered
  obtain ⟨-, rfl⟩ := Prod.mk.inj (Option.some.inj answered)
  rfl

def invoice : Entity := ({ name := "Invoice", members := [("total", ⟨0⟩)] } : Blueprint).declare ⟨2⟩

def receipt : Entity := ({ name := "Receipt", members := [("total", ⟨0⟩)] } : Blueprint).declare ⟨3⟩

def column (e : Entity) : Given Empty := .clause (.column ⟨e.name, "total"⟩)

def totalOf (e : Entity) (id : AttributeId) : Attribute Empty := total.make {} e id (column e)

/-- The first access fails, and those after it succeed. -/
def totals : Accesses wavering :=
  [(invoice.id, .error (.literalFrom .null "total")), (invoice.id, .ok (totalOf invoice ⟨4⟩)),
    (receipt.id, .ok (totalOf receipt ⟨5⟩))]

def untouched : Store wavering := { fresh := 4, memory := false }

def asked : Store wavering := { untouched with memory := true }

def once : Store wavering :=
  (total.settled invoice (total.finish {} invoice (column invoice, asked))).2

def twice : Store wavering :=
  (total.settled receipt (total.finish {} receipt (column receipt, once))).2

theorem totals_accessed : Accessed {} improving total untouched totals twice := by
  have failed : Accessed {} improving total untouched [(invoice.id, _)] asked :=
    .access (e := invoice) .start rfl
  have gave : Accessed {} improving total untouched [_, (invoice.id, _)] once :=
    .access (e := invoice) failed rfl
  exact .access (e := receipt) gave rfl

/-- The invoice keeps the attribute of the second access, and there is one more attribute. -/
theorem resolve_until_first_success_totals : total.Aloof improving ∧
    untouched.views.size total.cache = 0 ∧ Accessed {} improving total untouched totals twice ∧
    (∃ st, (total.resolve {} improving invoice).run twice =
        some (.ok (totalOf invoice ⟨4⟩), st) ∧
      (total.noting.resolve {} improving.noting invoice).run (twice.noting []) =
        some (.ok (totalOf invoice ⟨4⟩), st.noting [])) ∧
    total.published.run twice = some (2, twice) := by
  have known : (invoice.id, .ok (totalOf invoice ⟨4⟩)) ∈ totals :=
    List.mem_cons_of_mem _ List.mem_cons_self
  obtain ⟨-, kept, -, -, counted⟩ := resolve_until_first_success total_aloof rfl totals_accessed
  obtain ⟨st, ran, -, uncalled⟩ := kept invoice _ known
  exact ⟨total_aloof, rfl, totals_accessed, ⟨st, ran, uncalled []⟩, counted⟩

end Accessed
end Hybrid
end DualMode
