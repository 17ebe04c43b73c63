import DualMode.Entity.Declare
import DualMode.Proofs.Resolution

/-! Everything that can happen to hybrids, one thing after the other: entities are declared,
hybrids are created, copied, changed and accessed, and the callback of an access may do all of
this again before it answers. What the views hold in between is one invariant. -/

namespace DualMode

/-- What exists at one time. -/
structure Scene (C : Callbacks) where
  store : Store C
  entities : List Entity := []
  hybrids : List (Hybrid C) := []
  /-- The callbacks that accesses asked so far, with what they answered. -/
  answers : List (Asked C × Entity × Given C.Update) := []

variable {C : Callbacks}

namespace Scene

def start (memory : C.Memory) : Scene C := { store := { memory := memory } }

mutual

/-- One thing that callers and callbacks do through the library. -/
inductive Step (s : Settings) (b : Behaviour C) : Scene C → Scene C → Prop
  | declare {w : Scene C} {p : Blueprint} {n : Nat} {st : Store C}
      (above : ∀ q, p.parent = some q → q ∈ w.entities) (ran : mint.run w.store = some (n, st)) :
      Step s b w { w with store := st, entities := p.declare ⟨n⟩ :: w.entities }
  | create {w : Scene C} {name : String} {g : C.Getter} {h : Hybrid C} {st : Store C}
      (ran : (Hybrid.create name g).run w.store = some (h, st)) :
      Step s b w { w with store := st, hybrids := h :: w.hybrids }
  | clone {w : Scene C} {h : Hybrid C} (known : h ∈ w.hybrids) :
      Step s b w { w with hybrids := h :: w.hybrids }
  | rebind {w : Scene C} {h k : Hybrid C} {c : Change C} {st : Store C} (known : h ∈ w.hybrids)
      (ran : (h.rebind c).run w.store = some (k, st)) :
      Step s b w { w with store := st, hybrids := k :: w.hybrids }
  /-- Methods and attributes on aliases take identities, too. -/
  | mint {w : Scene C} {n : Nat} {st : Store C} (ran : mint.run w.store = some (n, st)) :
      Step s b w { w with store := st }
  | note {w : Scene C} (remarks : List Remark) (memory : C.Memory) :
      Step s b w { w with store := { w.store with remarks := remarks, memory := memory } }
  | access {w u : Scene C} {h : Hybrid C} {e : Entity}
      {r : Except Fault (Attribute C.Update)} (access : Access s b h e r w u) : Step s b w u

/-- An access and its result. What its callback does before it answers are such steps again, as
deep as the callback calls, but always finitely many. -/
inductive Access (s : Settings) (b : Behaviour C) :
    Hybrid C → Entity → Except Fault (Attribute C.Update) → Scene C → Scene C → Prop
  | hit {w : Scene C} {h : Hybrid C} {e : Entity} {a : Attribute C.Update} {st : Store C}
      (known : h ∈ w.hybrids) (declared : e ∈ w.entities)
      (kept : w.store.views.get? h.cache e.id = some a)
      (ran : (h.resolve s b e).run w.store = some (.ok a, st)) :
      Access s b h e (.ok a) w { w with store := st }
  | miss {w u : Scene C} {h : Hybrid C} {e : Entity} {g : Given C.Update}
      {r : Except Fault (Attribute C.Update)} {st : Store C}
      (known : h ∈ w.hybrids) (declared : e ∈ w.entities)
      (missing : w.store.views.get? h.cache e.id = none) (within : Steps s b w u)
      (answered : (h.asked.answer b e).run w.store = some (g, u.store))
      (ran : (h.resolve s b e).run w.store = some (r, st)) :
      Access s b h e r w { u with store := st, answers := (h.asked, e, g) :: u.answers }

inductive Steps (s : Settings) (b : Behaviour C) : Scene C → Scene C → Prop
  | refl (w : Scene C) : Steps s b w w
  | tail {w v u : Scene C} (steps : Steps s b w v) (step : Step s b v u) : Steps s b w u

end

theorem Steps.trans {s : Settings} {b : Behaviour C} {w v u : Scene C} (first : Steps s b w v)
    (second : Steps s b v u) : Steps s b w u :=
  match second with
  | .refl _ => first
  | .tail steps step => .tail (first.trans steps) step

/-- Nothing that exists or was answered is forgotten. -/
structure Grows (w u : Scene C) : Prop where
  entities : w.entities ⊆ u.entities
  hybrids : w.hybrids ⊆ u.hybrids
  answers : w.answers ⊆ u.answers

theorem Grows.refl (w : Scene C) : w.Grows w := ⟨fun _ => id, fun _ => id, fun _ => id⟩

theorem Grows.trans {w v u : Scene C} (h : w.Grows v) (k : v.Grows u) : w.Grows u :=
  ⟨List.Subset.trans h.entities k.entities, List.Subset.trans h.hybrids k.hybrids,
    List.Subset.trans h.answers k.answers⟩

variable {s : Settings} {b : Behaviour C}

mutual

theorem Step.grows {w u : Scene C} : Step s b w u → w.Grows u
  | .declare .. => ⟨List.subset_cons_self .., fun _ => id, fun _ => id⟩
  | .create .. => ⟨fun _ => id, List.subset_cons_self .., fun _ => id⟩
  | .clone .. => ⟨fun _ => id, List.subset_cons_self .., fun _ => id⟩
  | .rebind .. => ⟨fun _ => id, List.subset_cons_self .., fun _ => id⟩
  | .mint .. => ⟨fun _ => id, fun _ => id, fun _ => id⟩
  | .note .. => ⟨fun _ => id, fun _ => id, fun _ => id⟩
  | .access a => a.grows

theorem Access.grows {h : Hybrid C} {e : Entity} {r : Except Fault (Attribute C.Update)}
    {w u : Scene C} : Access s b h e r w u → w.Grows u
  | .hit .. => ⟨fun _ => id, fun _ => id, fun _ => id⟩
  | .miss _ _ _ within _ _ =>
    within.grows.trans ⟨fun _ => id, fun _ => id, List.subset_cons_self ..⟩

theorem Steps.grows {w u : Scene C} : Steps s b w u → w.Grows u
  | .refl _ => Grows.refl _
  | .tail steps step => steps.grows.trans step.grows

end

/-- Different things of a list have different indices from the supply, which is beyond them. -/
structure Supplied {α : Type} (index : α → Nat) (xs : List α) (fresh : Nat) : Prop where
  below : ∀ x ∈ xs, index x < fresh
  apart : ∀ x ∈ xs, ∀ y ∈ xs, index x = index y → x = y

namespace Supplied

variable {α : Type} {index : α → Nat} {xs : List α} {n m : Nat}

theorem mono (k : Supplied index xs n) (le : n ≤ m) : Supplied index xs m :=
  ⟨fun x hx => Nat.lt_of_lt_of_le (k.below x hx) le, k.apart⟩

theorem again (k : Supplied index xs n) {x : α} (hx : x ∈ xs) : Supplied index (x :: xs) n := by
  constructor
  · intro y hy
    obtain rfl | hy := List.mem_cons.mp hy
    · exact k.below y hx
    · exact k.below y hy
  · intro y hy z hz same
    have known : ∀ v ∈ x :: xs, v ∈ xs := fun v hv => (List.mem_cons.mp hv).elim (· ▸ hx) id
    exact k.apart y (known y hy) z (known z hz) same

/-- The next index from the supply is nobody's yet. -/
theorem cons (k : Supplied index xs n) {x : α} (above : n ≤ index x) (below : index x < m) :
    Supplied index (x :: xs) m := by
  constructor
  · intro y hy
    obtain rfl | hy := List.mem_cons.mp hy
    · exact below
    · exact Nat.lt_trans (Nat.lt_of_lt_of_le (k.below y hy) above) below
  · intro y hy z hz same
    have old : ∀ v ∈ xs, index v ≠ index x := fun v hv => by
      have := k.below v hv
      omega
    obtain hy | hy := List.mem_cons.mp hy <;> obtain hz | hz := List.mem_cons.mp hz
    · exact hy.trans hz.symm
    · exact absurd (hy ▸ same.symm) (old z hz)
    · exact absurd (hz ▸ same) (old y hy)
    · exact k.apart y hy z hz same

theorem concat (k : Supplied index xs n) {x : α} (above : n ≤ index x) (below : index x < m) :
    Supplied index (xs ++ [x]) m := by
  have same : ∀ y, y ∈ xs ++ [x] → y ∈ x :: xs := fun y hy => by
    simpa [or_comm] using hy
  have consed := k.cons above below
  exact ⟨fun y hy => consed.below y (same y hy),
    fun y hy z hz => consed.apart y (same y hy) z (same z hz)⟩

end Supplied

/-- The attribute is what the hybrid makes for the entity, from an answer that its callback gave
and that adapts. -/
def Made (s : Settings) (b : Behaviour C) (w : Scene C) (h : Hybrid C) (e : Entity)
    (a : Attribute C.Update) : Prop :=
  ∃ i g, (h.asked, e, g) ∈ w.answers ∧ (∃ st st', (h.asked.answer b e).run st = some (g, st')) ∧
    (∃ n, (h.wrap e g).clauseElement s.adaptLimit = .ok n) ∧ a = h.make s e i g

theorem Made.mono {w u : Scene C} {h : Hybrid C} {e : Entity} {a : Attribute C.Update}
    (k : Made s b w h e a) (grows : w.answers ⊆ u.answers) : Made s b u h e a := by
  obtain ⟨i, g, given, rest⟩ := k
  exact ⟨i, g, grows given, rest⟩

/-- Whatever is published is what its own hybrid makes for exactly its own entity. -/
structure Sound (s : Settings) (b : Behaviour C) (w : Scene C) : Prop where
  entities : Supplied (fun e : Entity => e.id.index) w.entities w.store.fresh
  hybrids : Supplied (fun h : Hybrid C => h.cache.index) w.hybrids w.store.fresh
  kept : ∀ cache id a, w.store.views.get? cache id = some a →
    ∃ h ∈ w.hybrids, ∃ e ∈ w.entities, h.cache = cache ∧ e.id = id ∧ Made s b w h e a

theorem start_sound (memory : C.Memory) : (start memory).Sound s b where
  entities := ⟨by simp [start], by simp [start]⟩
  hybrids := ⟨by simp [start], by simp [start]⟩
  kept := by
    intro cache id a found
    simp [start] at found

/-- The scene once an access to a missing attribute got its answer and settled. -/
def settled (w : Scene C) (s : Settings) (h : Hybrid C) (e : Entity) (g : Given C.Update) :
    Scene C :=
  { w with
    store := (h.settled e (h.finish s e (g, w.store))).2
    answers := (h.asked, e, g) :: w.answers }

namespace Sound

variable {w : Scene C} {h : Hybrid C} {e : Entity} {g : Given C.Update} {a : Attribute C.Update}

/-- The views of a hybrid for an entity are its own, since no other one has its identities. -/
theorem made (k : w.Sound s b) (known : h ∈ w.hybrids) (declared : e ∈ w.entities)
    (found : w.store.views.get? h.cache e.id = some a) : Made s b w h e a := by
  obtain ⟨l, hl, f, hf, cache, id, made⟩ := k.kept _ _ _ found
  have sameHybrid : l = h := k.hybrids.apart l hl h known (congrArg CacheId.index cache)
  have sameEntity : f = e := k.entities.apart f hf e declared (congrArg EntityId.index id)
  subst sameHybrid sameEntity
  exact made

/-- What leaves the views alone and only adds to the rest keeps them sound. -/
theorem grow (k : w.Sound s b) {u : Scene C} (views : u.store.views = w.store.views)
    (grows : w.Grows u)
    (entities : Supplied (fun e : Entity => e.id.index) u.entities u.store.fresh)
    (hybrids : Supplied (fun h : Hybrid C => h.cache.index) u.hybrids u.store.fresh) :
    u.Sound s b := by
  refine ⟨entities, hybrids, ?_⟩
  intro cache id a found
  rw [views] at found
  obtain ⟨h, hh, e, he, rest, same, made⟩ := k.kept _ _ _ found
  exact ⟨h, grows.hybrids hh, e, grows.entities he, rest, same, made.mono grows.answers⟩

theorem settled (k : w.Sound s b) (known : h ∈ w.hybrids) (declared : e ∈ w.entities)
    (answered : ∃ st st', (h.asked.answer b e).run st = some (g, st')) :
    (w.settled s h e g).Sound s b := by
  unfold Scene.settled
  cases element : (h.wrap e g).clauseElement s.adaptLimit with
  | error f =>
    simp only [Hybrid.finish, element, Hybrid.settled]
    exact k.grow rfl ⟨fun _ => id, fun _ => id, List.subset_cons_self ..⟩ k.entities k.hybrids
  | ok n =>
    simp only [Hybrid.finish, element, Hybrid.settled]
    refine ⟨k.entities.mono (Nat.le_succ _), k.hybrids.mono (Nat.le_succ _), ?_⟩
    intro cache id a found
    obtain before | ⟨rfl, rfl, rfl⟩ := Views.get?_of_publish found
    · obtain ⟨l, hl, f, hf, own, same, made⟩ := k.kept _ _ _ before
      exact ⟨l, hl, f, hf, own, same, made.mono (List.subset_cons_self ..)⟩
    · exact ⟨h, known, e, declared, rfl, rfl, _, g, List.mem_cons_self, answered, ⟨n, element⟩, rfl⟩

theorem made_settled (k : w.Sound s b) (known : h ∈ w.hybrids) (declared : e ∈ w.entities)
    (answered : ∃ st st', (h.asked.answer b e).run st = some (g, st'))
    (gives : (h.settled e (h.finish s e (g, w.store))).1 = .ok a) :
    Made s b (w.settled s h e g) h e a := by
  refine (k.settled known declared answered).made known declared ?_
  exact h.get?_settled e gives

end Sound

mutual

theorem Step.sound {w u : Scene C} (k : w.Sound s b) (step : Step s b w u) : u.Sound s b :=
  match step, step.grows with
  | .declare _ ran, grows => by
    obtain ⟨rfl, rfl⟩ := Prod.mk.inj (Option.some.inj ran)
    exact k.grow rfl grows (k.entities.cons (Nat.le_refl _) (Nat.lt_succ_self _))
      (k.hybrids.mono (Nat.le_succ _))
  | .create ran, grows => by
    rw [Hybrid.run_create] at ran
    obtain ⟨rfl, rfl⟩ := Prod.mk.inj (Option.some.inj ran)
    exact k.grow rfl grows (k.entities.mono (Nat.le_add_right _ _))
      (k.hybrids.cons (Nat.le_succ _) (Nat.lt_succ_self _))
  | .clone known, grows => k.grow rfl grows k.entities (k.hybrids.again known)
  | .rebind _ ran, grows => by
    rw [Hybrid.run_rebind] at ran
    obtain ⟨rfl, rfl⟩ := Prod.mk.inj (Option.some.inj ran)
    exact k.grow rfl grows (k.entities.mono (Nat.le_add_right _ _))
      (k.hybrids.cons (Nat.le_succ _) (Nat.lt_succ_self _))
  | .mint ran, grows => by
    obtain ⟨rfl, rfl⟩ := Prod.mk.inj (Option.some.inj ran)
    exact k.grow rfl grows (k.entities.mono (Nat.le_succ _)) (k.hybrids.mono (Nat.le_succ _))
  | .note .., grows => k.grow rfl grows k.entities k.hybrids
  | .access a, _ => a.sound k

theorem Access.sound {h : Hybrid C} {e : Entity} {r : Except Fault (Attribute C.Update)}
    {w u : Scene C} (k : w.Sound s b) (access : Access s b h e r w u) : u.Sound s b :=
  match access, access.grows with
  | .hit _ _ kept ran, grows => by
    -- only the log grows
    rw [Hybrid.run_resolve_of_some s b h e w.store kept] at ran
    obtain ⟨-, rfl⟩ := Prod.mk.inj (Option.some.inj ran)
    exact k.grow rfl grows k.entities k.hybrids
  | .miss known declared missing within answered ran, _ => by
    -- what the callback did is sound by induction, and then its answer settles
    have grown := within.grows
    have settled := (within.sound k).settled (grown.hybrids known) (grown.entities declared)
      ⟨_, _, answered⟩
    rw [Hybrid.run_resolve_of_none s b h e w.store missing, answered] at ran
    obtain ⟨-, rfl⟩ := Prod.mk.inj (Option.some.inj ran)
    exact settled

theorem Steps.sound {w u : Scene C} (k : w.Sound s b) : Steps s b w u → u.Sound s b
  | .refl _ => k
  | .tail steps step => step.sound (steps.sound k)

end

theorem Access.made {h : Hybrid C} {e : Entity} {a : Attribute C.Update} {w u : Scene C}
    (k : w.Sound s b) (access : Access s b h e (.ok a) w u) : Made s b u h e a := by
  cases access with
  | hit known declared kept ran => exact (k.made known declared kept).mono fun _ => id
  | miss known declared missing within answered ran =>
    have grown := within.grows
    have made := (within.sound k).made_settled (a := a) (grown.hybrids known)
      (grown.entities declared) ⟨_, _, answered⟩
    rw [Hybrid.run_resolve_of_none s b h e w.store missing, answered] at ran
    obtain ⟨gives, rfl⟩ := Prod.mk.inj (Option.some.inj ran)
    exact made gives

end Scene
end DualMode
