import DualMode.Proofs.Counterpart
import DualMode.Proofs.Identity
import DualMode.Proofs.UpdateRule

/-! Runs of changes to a hybrid. The copy has the parts that were given last, whatever else was
given on the way, and nothing else can be seen of it; whatever existed before gives what it gave. -/

namespace DualMode

variable {C : Callbacks}

/-- What the computation gives does not depend on which identity is next. -/
def Unnumbered {α : Type} (x : Run C α) : Prop :=
  ∀ st n, Prod.fst <$> x.run { st with fresh := n } = Prod.fst <$> x.run st

namespace Hybrid

/-- Of the hybrid, the other store shows what the one shows, as far as callbacks do not depend on
which identity is next. -/
structure Unmoved (s : Settings) (b : Behaviour C) (l : Hybrid C) (st st' : Store C) : Prop where
  value : ∀ r, Unnumbered (l.value b r) →
    Prod.fst <$> (l.value b r).run st' = Prod.fst <$> (l.value b r).run st
  set : ∀ r v, Unnumbered (l.set b r v) →
    Prod.fst <$> (l.set b r v).run st' = Prod.fst <$> (l.set b r v).run st
  delete : ∀ r, Unnumbered (l.delete b r) →
    Prod.fst <$> (l.delete b r).run st' = Prod.fst <$> (l.delete b r).run st
  view : ∀ e, l.view? st' e = l.view? st e
  build : ∀ e, Unnumbered (l.asked.answer b e) →
    Option.Rel (fun p q => Counterparts s b l l e p.1 q.1) ((l.build s b e).run st)
      ((l.build s b e).run st')

theorem unmoved (s : Settings) (b : Behaviour C) (l : Hybrid C) (st : Store C) (n : Nat) :
    l.Unmoved s b st { st with fresh := n } where
  value _ blind := blind st n
  set _ _ blind := blind st n
  delete _ blind := blind st n
  view _ := rfl
  build e blind := ((Alike.refl l).seenLike s b).build e st _ (blind st n).symm

end Hybrid

namespace Scene

variable {s : Settings} {b : Behaviour C} {w : Scene C} {h : Hybrid C}

theorem exists_steps_rebindAll (known : h ∈ w.hybrids) (cs : List (Change C)) :
    ∃ k u, (h.rebindAll cs).run w.store = some (k, u.store) ∧ Steps s b w u ∧ k ∈ u.hybrids := by
  induction cs generalizing h w with
  | nil => exact ⟨h, w, rfl, .refl w, known⟩
  | cons c cs ih =>
    obtain ⟨l, st, ran⟩ : ∃ l st, (h.rebind c).run w.store = some (l, st) :=
      ⟨_, _, h.run_rebind c w.store⟩
    have step : Step s b w { w with store := st, hybrids := l :: w.hybrids } := .rebind known ran
    obtain ⟨k, u, rest, steps, there⟩ :=
      ih (w := { w with store := st, hybrids := l :: w.hybrids }) List.mem_cons_self
    refine ⟨k, u, ?_, (Steps.tail (.refl w) step).trans steps, there⟩
    rw [Hybrid.rebindAll, List.foldlM_cons, StateT.run_bind, ran]
    exact rest

/-- A run of changes gives a copy of the same name with the parts that were given last. Other
changes with the same last ones give a copy that looks the same, so changes of different parts may
change places, and a change may be left out where a later one is of its part. The copy has views of
its own, and none yet; and the store is like the one before but for the supply, so that all hybrids
that existed before look the same and are given the views that they had. -/
theorem rebindAll_overrides {memory : C.Memory} (reached : Steps s b (start memory) w)
    (known : h ∈ w.hybrids) (cs : List (Change C)) :
    (∃ k u, (h.rebindAll cs).run w.store = some (k, u.store) ∧ Steps s b w u ∧ k ∈ u.hybrids ∧
      (k.name = h.name ∧ ∀ p, k.part p = (Change.last? p cs).getD (h.part p)) ∧
      (∀ ds st k' st', (∀ p, Change.last? p ds = Change.last? p cs) →
        (h.rebindAll ds).run st = some (k', st') → k.SeenLike s b k') ∧
      (cs ≠ [] → u.store.views.size k.cache = 0) ∧
      u.store = { w.store with fresh := w.store.fresh + 2 * cs.length } ∧
      ∀ l ∈ w.hybrids, l ∈ u.hybrids ∧ (cs ≠ [] → l.cache ≠ k.cache) ∧ l.SeenLike s b l ∧
        l.Unmoved s b w.store u.store) ∧
    (∀ before c d after st, c.part ≠ d.part →
      (h.rebindAll (before ++ c :: d :: after)).run st =
        (h.rebindAll (before ++ d :: c :: after)).run st) ∧
    ∀ before c after st, (∃ d ∈ after, c.part = d.part) →
      (h.rebindAll (before ++ c :: after)).run st =
        (h.rebindAll (before ++ after)).run { st with fresh := st.fresh + 2 } := by
  refine ⟨?_, ?_, ?_⟩
  · have sound : w.Sound s b := reached.sound (start_sound memory)
    obtain ⟨k, u, ran, steps, there⟩ := exists_steps_rebindAll (s := s) (b := b) known cs
    obtain ⟨store, alike, above⟩ := Hybrid.of_run_rebindAll ran
    refine ⟨k, u, ran, steps, there, ⟨?_, fun p => ?_⟩, ?_, fun changed => ?_, store,
      fun l old => ⟨steps.grows.hybrids old, fun changed shared => ?_,
        (Hybrid.Alike.refl l).seenLike s b, ?_⟩⟩
    · rw [← alike.name, h.name_overridden]
    · rw [← alike.part, h.part_overridden]
    · intro ds st k' st' same ran'
      obtain ⟨-, alike', -⟩ := Hybrid.of_run_rebindAll ran'
      have both : k.Alike k' := (alike.symm.trans (h.overridden_alike same)).trans alike'
      exact both.seenLike s b
    · rw [store]
      exact sound.size_eq_zero (above changed)
    · have below : l.cache.index < w.store.fresh := sound.hybrids.below l old
      have beyond : w.store.fresh ≤ k.cache.index := above changed
      rw [shared] at below
      exact absurd beyond (Nat.not_le_of_lt below)
    · rw [store]
      exact l.unmoved s b w.store _
  · intro before c d after st apart
    refine h.run_rebindAll_congr st (fun p => ?_) (by simp)
    rw [Change.last?_append, Change.last?_append, Change.last?_swap p after apart]
  · intro before c after st replaced
    obtain ⟨d, later, same⟩ := replaced
    refine h.run_rebindAll_congr st (fun p => ?_) ?_
    · rw [Change.last?_append, Change.last?_append, Change.last?_superseded p later same]
    · simp only [List.length_append, List.length_cons]
      omega

def sketch : Hybrid constant := bare "amount" 0

/-- The doc is given twice. -/
def drafts : List (Change constant) :=
  [.doc "net", .expression gross, .update strict, .doc "before tax", .getter (.literal (.int 0))]

def fair : List (Change constant) :=
  [.getter (.literal (.int 0)), .update strict, .doc "before tax", .expression gross]

/-- Both runs end with what looks the same, and the attribute that was there before keeps what it
gives for an entity. -/
theorem rebindAll_overrides_sketch : Steps {} constantly (start ()) ordered ∧
    sketch ∈ ordered.hybrids ∧ ∃ k u k' st',
      (sketch.rebindAll drafts).run ordered.store = some (k, u.store) ∧
      (sketch.rebindAll fair).run u.store = some (k', st') ∧ Steps {} constantly ordered u ∧
      k.about.doc = some "before tax" ∧ k.expression = some gross ∧ k.comparator = none ∧
      u.store.views.size k.cache = 0 ∧ k.SeenLike {} constantly k' ∧
      amount.Unmoved {} constantly ordered.store u.store ∧
      (sketch.rebindAll drafts).run ordered.store =
        (sketch.rebindAll drafts.tail).run { ordered.store with fresh := 9 } := by
  have known : sketch ∈ ordered.hybrids := List.mem_of_mem_drop (i := 2) List.mem_cons_self
  obtain ⟨⟨k, u, ran, steps, -, ⟨-, parts⟩, alike, empty, -, old⟩, -, replaced⟩ :=
    rebindAll_overrides ordered_reached known drafts
  obtain ⟨k', whole, -, -⟩ := sketch.exists_run_rebindAll fair u.store
  have same : ∀ p, Change.last? p fair = Change.last? p drafts := by
    intro p
    cases p <;> rfl
  exact ⟨ordered_reached, known, k, u, k', _, ran, whole, steps, parts .doc, parts .expression,
    parts .comparator, empty (List.cons_ne_nil _ _), alike fair _ _ _ same whole,
    (old amount List.mem_cons_self).2.2.2,
    replaced [] (.doc "net") drafts.tail ordered.store ⟨.doc "before tax", by simp [drafts], rfl⟩⟩

end Scene
end DualMode
