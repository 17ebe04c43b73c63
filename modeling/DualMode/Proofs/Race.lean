import DualMode.Proofs.UpdateRule
import Mathlib.Data.List.Dedup
import Mathlib.Logic.Function.Basic

/-! Accesses that go on at the same time. Looking for a view and publishing one are single steps,
since each of them holds the lock of the views. Nothing is held in between, so that the steps of
all accesses mix in every order, and an access within a build is one more of them. -/

namespace DualMode

variable {C : Callbacks} {ι : Type}

/-- An access to a hybrid. Copies of a hybrid are told apart by nothing that matters here, since
they have one cache. -/
structure Caller (C : Callbacks) where
  hybrid : Hybrid C
  entity : Entity

/-- How far an access got. -/
inductive Phase (υ : Type)
  | waiting | missed
  | built (a : Attribute υ)
  | done (r : Except Fault (Attribute υ))

structure Race (C : Callbacks) (ι : Type) where
  views : Views C.Update := {}
  phase : ι → Phase C.Update := fun _ => .waiting

/-- What one access does next. A build may come to anything. -/
inductive Event (C : Callbacks) (ι : Type)
  | lookUp (i : ι)
  | build (i : ι) (r : Except Fault (Attribute C.Update))
  | publish (i : ι)

def Event.caller : Event C ι → ι
  | lookUp i | build i _ | publish i => i

namespace Race

variable [DecidableEq ι] (callers : ι → Caller C)

def get? (w : Race C ι) (i : ι) : Option (Attribute C.Update) :=
  w.views.get? (callers i).hybrid.cache (callers i).entity.id

def enter (w : Race C ι) (i : ι) (p : Phase C.Update) : Race C ι :=
  { w with phase := Function.update w.phase i p }

/-- The published view ends the access, be it the caller's own or not. -/
def settle (w : Race C ι) (i : ι) (a : Attribute C.Update) : Race C ι :=
  let (first, views) := w.views.publish (callers i).hybrid.cache (callers i).entity.id a
  { views := views, phase := Function.update w.phase i (.done (.ok first)) }

@[simp] theorem phase_enter (w : Race C ι) (i : ι) (p : Phase C.Update) :
    (w.enter i p).phase i = p := Function.update_self ..

@[simp] theorem phase_settle (w : Race C ι) (i : ι) (a : Attribute C.Update) :
    (w.settle callers i a).phase i =
      .done (.ok (w.views.publish (callers i).hybrid.cache (callers i).entity.id a).1) :=
  Function.update_self ..

inductive Step : Race C ι → Event C ι → Race C ι → Prop
  | hit {w : Race C ι} {i : ι} {a : Attribute C.Update} (idle : w.phase i = .waiting)
      (found : w.get? callers i = some a) : Step w (.lookUp i) (w.enter i (.done (.ok a)))
  | miss {w : Race C ι} {i : ι} (idle : w.phase i = .waiting)
      (missing : w.get? callers i = none) : Step w (.lookUp i) (w.enter i .missed)
  | built {w : Race C ι} {i : ι} {a : Attribute C.Update} (missed : w.phase i = .missed) :
      Step w (.build i (.ok a)) (w.enter i (.built a))
  | failed {w : Race C ι} {i : ι} {f : Fault} (missed : w.phase i = .missed) :
      Step w (.build i (.error f)) (w.enter i (.done (.error f)))
  | publish {w : Race C ι} {i : ι} {a : Attribute C.Update} (built : w.phase i = .built a) :
      Step w (.publish i) (w.settle callers i a)

inductive Steps : Race C ι → List (Event C ι) → Race C ι → Prop
  | refl (w : Race C ι) : Steps w [] w
  | tail {w v u : Race C ι} {es : List (Event C ι)} {e : Event C ι} (steps : Steps w es v)
      (step : Step callers v e u) : Steps w (es ++ [e]) u

variable {callers}

/-- What the caller does once it has missed and its build has come to something. -/
def finishing (i : ι) : Except Fault (Attribute C.Update) → List (Event C ι)
  | .ok a => [.build i (.ok a), .publish i]
  | .error f => [.build i (.error f)]

/-- An access is one caller's steps: it looks, and if it finds nothing it builds and publishes,
whatever became of the views in between. -/
theorem resolve_steps {s : Settings} {b : Behaviour C} {w : Race C ι} {i : ι} {st st' : Store C}
    {r : Except Fault (Attribute C.Update)} (idle : w.phase i = .waiting)
    (same : w.views = st.views)
    (ran : ((callers i).hybrid.resolve s b (callers i).entity).run st = some (r, st')) :
    ∃ v, Step callers w (.lookUp i) v ∧
      ((v.phase i = .done r ∧ v.views = st'.views) ∨
        (v.phase i = .missed ∧ ∃ outcome mid,
          ((callers i).hybrid.build s b (callers i).entity).run st = some (outcome, mid) ∧
            ∀ u, u.phase i = .missed → u.views = mid.views →
              ∃ z, Steps callers u (finishing i outcome) z ∧
                z.phase i = .done r ∧ z.views = st'.views)) := by
  cases kept : w.get? callers i with
  | some a =>
    refine ⟨w.enter i (.done (.ok a)), .hit idle kept, .inl ?_⟩
    rw [get?, same] at kept
    rw [Hybrid.run_resolve_of_some _ _ _ _ _ kept] at ran
    obtain ⟨rfl, rfl⟩ := Prod.mk.inj (Option.some.inj ran)
    exact ⟨phase_enter .., same⟩
  | none =>
    refine ⟨w.enter i .missed, .miss idle kept, .inr ⟨phase_enter .., ?_⟩⟩
    rw [get?, same] at kept
    rw [Hybrid.run_resolve_of_none _ _ _ _ _ kept] at ran
    obtain ⟨p, answered, settled⟩ := Option.map_eq_some_iff.mp ran
    rw [Hybrid.run_build, answered, Option.map_some]
    rcases finished : (callers i).hybrid.finish s (callers i).entity p with ⟨outcome, mid⟩
    refine ⟨outcome, mid, rfl, fun u missed views => ?_⟩
    rw [finished] at settled
    cases outcome with
    | error f =>
      obtain ⟨rfl, rfl⟩ := Prod.mk.inj settled
      exact ⟨u.enter i (.done (.error f)), .tail (.refl u) (.failed missed),
        phase_enter .., views⟩
    | ok a =>
      obtain ⟨rfl, rfl⟩ := Prod.mk.inj settled
      have built : (u.enter i (.built a)).phase i = .built a := phase_enter ..
      refine ⟨(u.enter i (.built a)).settle callers i a,
        .tail (.tail (.refl u) (.built missed)) (.publish built), ?_, ?_⟩
      · rw [← views]
        exact phase_settle ..
      · rw [← views]
        rfl

/-- Only the caller whose step it is gets any further. -/
theorem Step.phase_of_ne {w v : Race C ι} {e : Event C ι} (step : Step callers w e v) {j : ι}
    (other : j ≠ e.caller) : v.phase j = w.phase j := by
  cases step with
  | hit idle found => exact Function.update_of_ne other ..
  | miss idle missing => exact Function.update_of_ne other ..
  | built missed => exact Function.update_of_ne other ..
  | failed missed => exact Function.update_of_ne other ..
  | publish built => exact Function.update_of_ne other ..

/-- Nothing but publishing a built attribute touches the views. -/
theorem Step.views_cases {w v : Race C ι} {e : Event C ι} (step : Step callers w e v) :
    v.views = w.views ∨ ∃ i a, e = .publish i ∧ w.phase i = .built a ∧
      v.views = (w.views.publish (callers i).hybrid.cache (callers i).entity.id a).2 := by
  cases step with
  | hit idle found => exact .inl rfl
  | miss idle missing => exact .inl rfl
  | built missed => exact .inl rfl
  | failed missed => exact .inl rfl
  | @publish i a built => exact .inr ⟨i, a, rfl, built, rfl⟩

theorem Step.get?_eq_some {w v : Race C ι} {e : Event C ι} (step : Step callers w e v)
    {cache : CacheId} {id : EntityId} {a : Attribute C.Update}
    (kept : w.views.get? cache id = some a) : v.views.get? cache id = some a := by
  obtain same | ⟨i, b, -, -, published⟩ := step.views_cases
  · rw [same]
    exact kept
  · rw [published]
    exact Views.get?_publish_of_some kept ..

theorem Steps.get?_eq_some {w v : Race C ι} {es : List (Event C ι)} (steps : Steps callers w es v)
    {cache : CacheId} {id : EntityId} {a : Attribute C.Update}
    (kept : w.views.get? cache id = some a) : v.views.get? cache id = some a := by
  induction steps with
  | refl => exact kept
  | tail steps step ih => exact step.get?_eq_some ih

/-- A new view is one that a caller for its entity built. -/
theorem Step.origin {w v : Race C ι} {e : Event C ι} (step : Step callers w e v)
    {cache : CacheId} {id : EntityId} {a : Attribute C.Update}
    (found : v.views.get? cache id = some a) : w.views.get? cache id = some a ∨
      ∃ i, (callers i).hybrid.cache = cache ∧ (callers i).entity.id = id ∧
        w.phase i = .built a ∧ e = .publish i := by
  obtain same | ⟨i, b, rfl, built, published⟩ := step.views_cases
  · rw [same] at found
    exact .inl found
  · rw [published] at found
    obtain before | ⟨own, mine, rfl⟩ := Views.get?_of_publish found
    · exact .inl before
    · exact .inr ⟨i, own, mine, built, rfl⟩

theorem Step.nodup_entities {w v : Race C ι} {e : Event C ι} (step : Step callers w e v)
    {cache : CacheId} (distinct : (w.views.entities cache).Nodup) :
    (v.views.entities cache).Nodup := by
  obtain same | ⟨i, a, -, -, published⟩ := step.views_cases
  · rw [same]
    exact distinct
  · rw [published]
    exact Views.nodup_entities_publish distinct ..

/-- A view that a caller gave is the published one. -/
theorem Step.answered {w v : Race C ι} {e : Event C ι} (step : Step callers w e v)
    (answered : ∀ i a, w.phase i = .done (.ok a) → w.get? callers i = some a) {j : ι}
    {a : Attribute C.Update} (done : v.phase j = .done (.ok a)) : v.get? callers j = some a := by
  by_cases own : j = e.caller
  · subst own
    cases step with
    | hit idle found =>
      simp only [Event.caller, phase_enter, Phase.done.injEq, Except.ok.injEq] at done
      exact done ▸ found
    | miss idle missing => simp [Event.caller] at done
    | built missed => simp [Event.caller] at done
    | failed missed => simp [Event.caller] at done
    | publish built =>
      simp only [Event.caller, phase_settle, Phase.done.injEq, Except.ok.injEq] at done
      exact done ▸ Views.get?_publish ..
  · rw [step.phase_of_ne own] at done
    exact step.get?_eq_some (answered j a done)

/-- The steps of one caller up to its phase. -/
inductive Course (i : ι) : List (Event C ι) → Phase C.Update → Prop
  | waiting : Course i [] .waiting
  | hit (a : Attribute C.Update) : Course i [.lookUp i] (.done (.ok a))
  | missed : Course i [.lookUp i] .missed
  | built (a : Attribute C.Update) : Course i [.lookUp i, .build i (.ok a)] (.built a)
  | failed (f : Fault) : Course i [.lookUp i, .build i (.error f)] (.done (.error f))
  | published (a first : Attribute C.Update) :
      Course i [.lookUp i, .build i (.ok a), .publish i] (.done (.ok first))

/-- The steps of one caller among those of all. -/
def own (i : ι) (es : List (Event C ι)) : List (Event C ι) := es.filter (·.caller = i)

theorem own_concat_self (es : List (Event C ι)) (e : Event C ι) :
    own e.caller (es ++ [e]) = own e.caller es ++ [e] := by
  simp [own]

theorem own_concat_of_ne {j : ι} (es : List (Event C ι)) {e : Event C ι} (other : j ≠ e.caller) :
    own j (es ++ [e]) = own j es := by
  simp [own, other.symm]

theorem Step.course {w v : Race C ι} {es : List (Event C ι)} {e : Event C ι}
    (step : Step callers w e v) (course : ∀ i, Course i (own i es) (w.phase i)) (j : ι) :
    Course j (own j (es ++ [e])) (v.phase j) := by
  by_cases mine : j = e.caller
  · subst mine
    rw [own_concat_self]
    have before := course e.caller
    generalize own e.caller es = steps at before
    cases step with
    | @hit i a idle found =>
      simp only [Event.caller, phase_enter, idle] at before ⊢
      cases before
      exact .hit a
    | miss idle missing =>
      simp only [Event.caller, phase_enter, idle] at before ⊢
      cases before
      exact .missed
    | @built i a missed =>
      simp only [Event.caller, phase_enter, missed] at before ⊢
      cases before
      exact .built a
    | @failed i f missed =>
      simp only [Event.caller, phase_enter, missed] at before ⊢
      cases before
      exact .failed f
    | @publish i a built =>
      simp only [Event.caller, phase_settle, built] at before ⊢
      cases before
      exact .published a _
  · rw [own_concat_of_ne es mine, step.phase_of_ne mine]
    exact course j

/-- How phases and views come from the steps that were taken. -/
structure Traced (callers : ι → Caller C) (es : List (Event C ι)) (w : Race C ι) : Prop where
  course : ∀ i, Course i (own i es) (w.phase i)
  answered : ∀ i a, w.phase i = .done (.ok a) → w.get? callers i = some a
  origin : ∀ cache id a, w.views.get? cache id = some a →
    ∃ i, (callers i).hybrid.cache = cache ∧ (callers i).entity.id = id ∧
      .build i (.ok a) ∈ es ∧ .publish i ∈ es
  distinct : ∀ cache, (w.views.entities cache).Nodup

theorem mem_of_mem_own {i : ι} {es : List (Event C ι)} {e : Event C ι} (h : e ∈ own i es) :
    e ∈ es := (List.mem_filter.mp h).1

theorem Steps.traced {es : List (Event C ι)} {w : Race C ι} (steps : Steps callers {} es w) :
    Traced callers es w := by
  induction steps with
  | refl => exact ⟨fun _ => .waiting, nofun, nofun, fun _ => List.nodup_nil⟩
  | @tail v u es e before step ih =>
    obtain ⟨course, answered, origin, distinct⟩ := ih
    refine ⟨step.course course, fun i a => step.answered answered, ?_,
      fun cache => step.nodup_entities (distinct cache)⟩
    intro cache id a found
    obtain kept | ⟨i, rfl, rfl, built, rfl⟩ := step.origin found
    · obtain ⟨i, own, same, built, published⟩ := origin cache id a kept
      exact ⟨i, own, same, List.mem_append_left _ built, List.mem_append_left _ published⟩
    · have path := course i
      rw [built] at path
      have building : Event.build i (.ok a) ∈ own i es := by
        generalize own i es = steps at path ⊢
        cases path
        simp
      exact ⟨i, rfl, rfl, List.mem_append_left _ (mem_of_mem_own building), by simp⟩

namespace Traced

variable {es : List (Event C ι)} {w : Race C ι} {i : ι}

theorem done_of_publish (traced : Traced callers es w) (published : .publish i ∈ es) :
    ∃ a, w.phase i = .done (.ok a) := by
  have mine : Event.publish i ∈ own i es := List.mem_filter.mpr ⟨published, by simp [Event.caller]⟩
  have path := traced.course i
  generalize own i es = steps at path mine
  generalize w.phase i = phase at path
  cases path with
  | published a first => exact ⟨first, rfl⟩
  | _ => simp at mine

theorem failed_of_build (traced : Traced callers es w) {f : Fault}
    (failed : .build i (.error f) ∈ es) : w.phase i = .done (.error f) := by
  have mine : Event.build i (.error f) ∈ own i es :=
    List.mem_filter.mpr ⟨failed, by simp [Event.caller]⟩
  have path := traced.course i
  generalize own i es = steps at path mine
  generalize w.phase i = phase at path ⊢
  cases path with
  | failed g =>
    obtain rfl : f = g := by simpa using mine
    rfl
  | _ => simp at mine

end Traced

/-- The entity that a step publishes a view for, if it does so for this cache. -/
def published? (callers : ι → Caller C) (cache : CacheId) : Event C ι → Option EntityId
  | .publish i =>
    if (callers i).hybrid.cache = cache then some (callers i).entity.id else none
  | _ => none

theorem Traced.mem_entities_iff {es : List (Event C ι)} {w : Race C ι}
    (traced : Traced callers es w) {cache : CacheId} {id : EntityId} :
    id ∈ w.views.entities cache ↔ id ∈ es.filterMap (published? callers cache) := by
  rw [Views.mem_entities_iff, List.mem_filterMap]
  constructor
  · rintro ⟨a, found⟩
    obtain ⟨i, rfl, rfl, -, published⟩ := traced.origin _ _ _ found
    exact ⟨_, published, if_pos rfl⟩
  · rintro ⟨e, taken, publishes⟩
    cases e with
    | lookUp i => cases publishes
    | build i r => cases publishes
    | publish i =>
      obtain ⟨a, done⟩ := traced.done_of_publish taken
      obtain ⟨rfl, rfl⟩ : (callers i).hybrid.cache = cache ∧ (callers i).entity.id = id := by
        simpa [published?] using publishes
      exact ⟨a, traced.answered i a done⟩

/-- However the steps of any number of accesses mix, those that end well for one entity give one
view; what is published stays; a view comes from a build that went well, and who failed to build
publishes nothing; and there are as many views as entities that one was published for. -/
theorem publish_once {es : List (Event C ι)} {w : Race C ι} (reached : Steps callers {} es w) :
    (∀ i j a b, (callers i).hybrid.cache = (callers j).hybrid.cache →
      (callers i).entity.id = (callers j).entity.id →
      w.phase i = .done (.ok a) → w.phase j = .done (.ok b) → a = b) ∧
    (∀ cache id a, w.views.get? cache id = some a →
      (∃ i, (callers i).hybrid.cache = cache ∧ (callers i).entity.id = id ∧
        .build i (.ok a) ∈ es ∧ .publish i ∈ es) ∧
      ∀ later v, Steps callers w later v → v.views.get? cache id = some a) ∧
    (∀ i f, .build i (.error f) ∈ es → .publish i ∉ es) ∧
    ∀ cache, w.views.size cache = (es.filterMap (published? callers cache)).dedup.length := by
  have traced := reached.traced
  refine ⟨?_, ?_, ?_, ?_⟩
  · intro i j a b sameCache sameEntity doneI doneJ
    have givenI := traced.answered i a doneI
    have givenJ := traced.answered j b doneJ
    rw [get?, sameCache, sameEntity] at givenI
    exact Option.some.inj (givenI.symm.trans givenJ)
  · intro cache id a found
    exact ⟨traced.origin cache id a found, fun later v steps => steps.get?_eq_some found⟩
  · intro i f failed published
    obtain ⟨a, done⟩ := traced.done_of_publish published
    rw [traced.failed_of_build failed] at done
    cases done
  · intro cache
    rw [Views.size_eq_length]
    refine List.Perm.length_eq ((List.perm_ext_iff_of_nodup (traced.distinct cache)
      (List.nodup_dedup _)).mpr fun id => ?_)
    rw [List.mem_dedup]
    exact traced.mem_entities_iff

def thrice : Fin 3 → Caller Scene.constant := fun _ => ⟨Scene.amount, Scene.order.declare ⟨6⟩⟩

def late : Attribute (Operand → Assigned) :=
  Scene.amount.make {} (Scene.order.declare ⟨6⟩) ⟨8⟩ (.clause Scene.gross)

/-- All miss. One fails to build, and of the others the one that built last publishes first. -/
def lateFirst : List (Event Scene.constant (Fin 3)) :=
  [.lookUp 0, .lookUp 1, .lookUp 2, .build 0 (.ok Scene.amountAttribute),
    .build 2 (.error (.unknownColumn "Order" "tax")), .build 1 (.ok late), .publish 1, .publish 0]

def raced : Race Scene.constant (Fin 3) :=
  let looked := (({} : Race Scene.constant (Fin 3)).enter 0 .missed).enter 1 .missed
  let missed := looked.enter 2 .missed
  let built := ((missed.enter 0 (.built Scene.amountAttribute)).enter 2
    (.done (.error (.unknownColumn "Order" "tax")))).enter 1 (.built late)
  (built.settle thrice 1 late).settle thrice 0 Scene.amountAttribute

theorem lateFirst_raced : Steps thrice {} lateFirst raced :=
  .tail (.tail (.tail (.tail (.tail (.tail (.tail (.tail (.refl _) (.miss rfl rfl)) (.miss rfl rfl))
    (.miss rfl rfl)) (.built rfl)) (.failed rfl)) (.built rfl)) (.publish rfl)) (.publish rfl)

/-- Both that built give the view that was published first, and there is no other. -/
theorem publish_once_lateFirst : Steps thrice {} lateFirst raced ∧
    raced.phase 0 = .done (.ok late) ∧ raced.phase 1 = .done (.ok late) ∧
    raced.views.size Scene.amount.cache = 1 := by
  have once := publish_once lateFirst_raced
  have last : raced.phase 1 = .done (.ok late) := rfl
  have first : raced.phase 0 = .done (.ok late) := rfl
  exact ⟨lateFirst_raced, first, last, once.2.2.2 Scene.amount.cache⟩

end Race
end DualMode
