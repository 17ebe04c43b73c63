import DualMode.Proofs.Scene
import Mathlib.Logic.Relation

/-! Who holds what. Properties and methods are held through handles, and a handle comes from a
constructor, from a change of what another handle holds, or from a copy of another handle. Handles
of one identity are exactly the copies of one handle. -/

namespace DualMode

variable {C : Callbacks}

inductive Member (C : Callbacks)
  | hybrid (h : Hybrid C) | method (m : Method C)

namespace Member

def id : Member C → MemberId
  | hybrid h => h.about.id
  | method m => m.about.id

def hybrid? : Member C → Option (Hybrid C)
  | hybrid h => some h
  | method _ => none

end Member

/-- What a handle holds, and the number of the handle that it was copied from, if it was. -/
structure Handle (C : Callbacks) where
  member : Member C
  copyOf : Option Nat := none

/-- What exists at one time, with all handles, newest first. -/
structure Roster (C : Callbacks) where
  store : Store C
  entities : List Entity := []
  handles : List (Handle C) := []
  answers : List (Asked C × Entity × Given C.Update) := []

namespace Roster

def start (memory : C.Memory) : Roster C := { store := { memory := memory } }

/-- The handles are numbered from the oldest. -/
def handle? (w : Roster C) (i : Nat) : Option (Handle C) := w.handles.reverse[i]?

def member? (w : Roster C) (i : Nat) : Option (Member C) := (w.handle? i).map (·.member)

def add (w : Roster C) (st : Store C) (x : Handle C) : Roster C :=
  { w with store := st, handles := x :: w.handles }

/-- The one handle is a copy of the other, or a copy of a copy, and so on. -/
def CopyOf (w : Roster C) : Nat → Nat → Prop :=
  Relation.ReflTransGen fun i j => ∃ x, w.handle? i = some x ∧ x.copyOf = some j

def scene (w : Roster C) : Scene C where
  store := w.store
  entities := w.entities
  hybrids := w.handles.filterMap (·.member.hybrid?)
  answers := w.answers

mutual

/-- One thing that callers and callbacks do through the library. -/
inductive Step (s : Settings) (b : Behaviour C) : Roster C → Roster C → Prop
  | declare {w : Roster C} {p : Blueprint} {n : Nat} {st : Store C}
      (above : ∀ q, p.parent = some q → q ∈ w.entities) (ran : mint.run w.store = some (n, st)) :
      Step s b w { w with store := st, entities := p.declare ⟨n⟩ :: w.entities }
  | create {w : Roster C} {name : String} {g : C.Getter} {h : Hybrid C} {st : Store C}
      (ran : (Hybrid.create name g).run w.store = some (h, st)) :
      Step s b w (w.add st ⟨.hybrid h, none⟩)
  | createMethod {w : Roster C} {name : String} {body : C.Body} {m : Method C} {st : Store C}
      (ran : (Method.create name body).run w.store = some (m, st)) :
      Step s b w (w.add st ⟨.method m, none⟩)
  /-- Access without an owner gives a copy, too. -/
  | clone {w : Roster C} {i : Nat} {x : Member C} (held : w.member? i = some x) :
      Step s b w (w.add w.store ⟨x, some i⟩)
  | rebind {w : Roster C} {i : Nat} {h k : Hybrid C} {c : Change C} {st : Store C}
      (held : w.member? i = some (.hybrid h)) (ran : (h.rebind c).run w.store = some (k, st)) :
      Step s b w (w.add st ⟨.hybrid k, none⟩)
  | withExpression {w : Roster C} {i : Nat} {m k : Method C} {x : C.CallExpression} {st : Store C}
      (held : w.member? i = some (.method m))
      (ran : (m.withExpression x).run w.store = some (k, st)) :
      Step s b w (w.add st ⟨.method k, none⟩)
  | withDoc {w : Roster C} {i : Nat} {m k : Method C} {text : String} {st : Store C}
      (held : w.member? i = some (.method m)) (ran : (m.withDoc text).run w.store = some (k, st)) :
      Step s b w (w.add st ⟨.method k, none⟩)
  /-- Attributes on aliases take identities, too. -/
  | mint {w : Roster C} {n : Nat} {st : Store C} (ran : mint.run w.store = some (n, st)) :
      Step s b w { w with store := st }
  | note {w : Roster C} (remarks : List Remark) (memory : C.Memory) :
      Step s b w { w with store := { w.store with remarks := remarks, memory := memory } }
  | access {w u : Roster C} {h : Hybrid C} {e : Entity}
      {r : Except Fault (Attribute C.Update)} (access : Access s b h e r w u) : Step s b w u
  | call {w u : Roster C} {i : Nat} {m : Method C} {e : Entity} {args : C.Args}
      {k : Clause C.Update} {r : Except Fault Node} {st : Store C}
      (held : w.member? i = some (.method m)) (declared : e ∈ w.entities) (within : Steps s b w u)
      (answered : (m.clauseOn b e args).run w.store = some (k, u.store))
      (ran : (m.callOn s b e args).run w.store = some (r, st)) : Step s b w { u with store := st }

/-- An access to a property on an entity. Its callback may do all of this before it answers. -/
inductive Access (s : Settings) (b : Behaviour C) :
    Hybrid C → Entity → Except Fault (Attribute C.Update) → Roster C → Roster C → Prop
  | hit {w : Roster C} {i : Nat} {h : Hybrid C} {e : Entity} {a : Attribute C.Update} {st : Store C}
      (held : w.member? i = some (.hybrid h)) (declared : e ∈ w.entities)
      (kept : w.store.views.get? h.cache e.id = some a)
      (ran : (h.resolve s b e).run w.store = some (.ok a, st)) :
      Access s b h e (.ok a) w { w with store := st }
  | miss {w u : Roster C} {i : Nat} {h : Hybrid C} {e : Entity} {g : Given C.Update}
      {r : Except Fault (Attribute C.Update)} {st : Store C}
      (held : w.member? i = some (.hybrid h)) (declared : e ∈ w.entities)
      (missing : w.store.views.get? h.cache e.id = none) (within : Steps s b w u)
      (answered : (h.asked.answer b e).run w.store = some (g, u.store))
      (ran : (h.resolve s b e).run w.store = some (r, st)) :
      Access s b h e r w { u with store := st, answers := (h.asked, e, g) :: u.answers }

inductive Steps (s : Settings) (b : Behaviour C) : Roster C → Roster C → Prop
  | refl (w : Roster C) : Steps s b w w
  | tail {w v u : Roster C} (steps : Steps s b w v) (step : Step s b v u) : Steps s b w u

end

theorem member?_of_handle? {w : Roster C} {i : Nat} {x : Handle C} (found : w.handle? i = some x) :
    w.member? i = some x.member := by
  rw [member?, found, Option.map_some]

theorem exists_handle {w : Roster C} {i : Nat} {x : Member C} (held : w.member? i = some x) :
    ∃ c, w.handle? i = some ⟨x, c⟩ := by
  obtain ⟨⟨_, c⟩, found, rfl⟩ := Option.map_eq_some_iff.mp held
  exact ⟨c, found⟩

theorem mem_hybrids {w : Roster C} {i : Nat} {h : Hybrid C}
    (held : w.member? i = some (.hybrid h)) : h ∈ w.scene.hybrids := by
  obtain ⟨c, found⟩ := exists_handle held
  have listed : ⟨.hybrid h, c⟩ ∈ w.handles := List.mem_reverse.mp (List.mem_of_getElem? found)
  exact List.mem_filterMap.mpr ⟨_, listed, rfl⟩

variable {s : Settings} {b : Behaviour C}

/-! Without the handles, what happens to a roster is what happens to a scene. -/

mutual

theorem Step.scene {w u : Roster C} : Step s b w u → Scene.Steps s b w.scene u.scene
  | .declare above ran => .tail (.refl _) (.declare above ran)
  | .create ran => .tail (.refl _) (.create ran)
  | .createMethod ran => by
    obtain ⟨rfl, rfl⟩ := Prod.mk.inj (Option.some.inj ran)
    exact .tail (.refl _) (.mint rfl)
  | .clone (x := .hybrid h) held => .tail (.refl _) (.clone (mem_hybrids held))
  | .clone (x := .method m) _ => .refl _
  | .rebind held ran => .tail (.refl _) (.rebind (mem_hybrids held) ran)
  | .withExpression _ ran => by
    obtain ⟨rfl, rfl⟩ := Prod.mk.inj (Option.some.inj ran)
    exact .tail (.refl _) (.mint rfl)
  | .withDoc _ ran => by
    obtain ⟨rfl, rfl⟩ := Prod.mk.inj (Option.some.inj ran)
    exact .tail (.refl _) (.mint rfl)
  | .mint ran => .tail (.refl _) (.mint ran)
  | .note remarks memory => .tail (.refl _) (.note remarks memory)
  | .access a => .tail (.refl _) (.access a.scene)
  | .call _ _ within answered ran => by
    rw [Method.run_callOn, answered] at ran
    obtain ⟨-, rfl⟩ := Prod.mk.inj (Option.some.inj ran)
    exact .tail within.scene (.note _ _)

theorem Access.scene {h : Hybrid C} {e : Entity} {r : Except Fault (Attribute C.Update)}
    {w u : Roster C} : Access s b h e r w u → Scene.Access s b h e r w.scene u.scene
  | .hit held declared kept ran => .hit (mem_hybrids held) declared kept ran
  | .miss held declared missing within answered ran =>
    .miss (mem_hybrids held) declared missing within.scene answered ran

theorem Steps.scene {w u : Roster C} : Steps s b w u → Scene.Steps s b w.scene u.scene
  | .refl _ => .refl _
  | .tail steps step => steps.scene.trans step.scene

end

/-! The numbers of handles, which stay as more handles are added. -/

section Numbers

variable {w : Roster C} {st : Store C} {i : Nat} {x y : Handle C}

theorem handle?_add (w : Roster C) (st : Store C) (x : Handle C) (i : Nat) :
    (w.add st x).handle? i = if i = w.handles.length then some x else w.handle? i := by
  unfold handle? add
  rw [List.reverse_cons, List.getElem?_append, List.length_reverse]
  obtain old | rfl | beyond := Nat.lt_trichotomy i w.handles.length
  · rw [if_pos old, if_neg (Nat.ne_of_lt old)]
  · simp
  · rw [if_neg (Nat.lt_asymm beyond), if_neg (Nat.ne_of_gt beyond)]
    rw [List.getElem?_eq_none (by simp; omega), List.getElem?_eq_none (by simp; omega)]

theorem lt_length_of_handle? (found : w.handle? i = some y) : i < w.handles.length := by
  obtain ⟨below, -⟩ := List.getElem?_eq_some_iff.mp found
  simpa using below

theorem handle?_add_of_some (found : w.handle? i = some y) : (w.add st x).handle? i = some y := by
  rw [handle?_add, if_neg (Nat.ne_of_lt (lt_length_of_handle? found))]
  exact found

theorem member?_add_of_some {z : Member C} (held : w.member? i = some z) :
    (w.add st x).member? i = some z := by
  obtain ⟨c, found⟩ := exists_handle held
  exact member?_of_handle? (handle?_add_of_some found)

theorem handle?_add_cases (found : (w.add st x).handle? i = some y) :
    w.handle? i = some y ∨ i = w.handles.length ∧ y = x := by
  rw [handle?_add] at found
  by_cases last : i = w.handles.length
  · rw [if_pos last] at found
    exact .inr ⟨last, (Option.some.inj found).symm⟩
  · rw [if_neg last] at found
    exact .inl found

end Numbers

/-- A copy is newer than its source and holds the same, and all that are no copies have different
identities from the supply. -/
structure Rooted (w : Roster C) : Prop where
  copies : ∀ i x j, w.handle? i = some ⟨x, some j⟩ → j < i ∧ w.member? j = some x
  below : ∀ i x, w.member? i = some x → x.id.index < w.store.fresh
  apart : ∀ i j x y, w.handle? i = some ⟨x, none⟩ → w.handle? j = some ⟨y, none⟩ →
    x.id = y.id → i = j

theorem start_rooted (memory : C.Memory) : (start memory).Rooted where
  copies := by simp [start, handle?]
  below := by simp [start, member?, handle?]
  apart := by simp [start, handle?]

namespace Rooted

variable {w u : Roster C} {i : Nat} {x y : Member C}

theorem of_handles (k : w.Rooted) (same : u.handles = w.handles)
    (le : w.store.fresh ≤ u.store.fresh) : u.Rooted := by
  have handles : u.handle? = w.handle? := by
    funext j
    rw [handle?, handle?, same]
  refine ⟨?_, ?_, ?_⟩
  · simpa only [member?, handles] using k.copies
  · intro i x held
    rw [member?, handles] at held
    exact Nat.lt_of_lt_of_le (k.below i x held) le
  · simpa only [handles] using k.apart

/-- One more handle, which is a copy of another one or has a new identity. -/
theorem add (k : w.Rooted) {st : Store C} {c : Option Nat} (le : w.store.fresh ≤ st.fresh)
    (below : x.id.index < st.fresh) (copied : ∀ i, c = some i → w.member? i = some x)
    (anew : c = none → w.store.fresh ≤ x.id.index) : (w.add st ⟨x, c⟩).Rooted := by
  have older : ∀ i y d, w.handle? i = some ⟨y, d⟩ → y.id.index < w.store.fresh :=
    fun i y d found => k.below i y (member?_of_handle? found)
  refine ⟨?_, ?_, ?_⟩
  · intro i y j found
    obtain old | ⟨last, new⟩ := handle?_add_cases found
    · obtain ⟨before, source⟩ := k.copies i y j old
      exact ⟨before, member?_add_of_some source⟩
    · obtain ⟨rfl, rfl⟩ := Handle.mk.inj new
      obtain ⟨d, source⟩ := exists_handle (copied j rfl)
      exact ⟨last ▸ lt_length_of_handle? source, member?_add_of_some (copied j rfl)⟩
  · intro i y held
    obtain ⟨d, found⟩ := exists_handle held
    obtain old | ⟨-, new⟩ := handle?_add_cases found
    · exact Nat.lt_of_lt_of_le (older i y d old) le
    · obtain ⟨rfl, -⟩ := Handle.mk.inj new
      exact below
  · intro i j y z foundI foundJ same
    obtain oldI | ⟨lastI, newI⟩ := handle?_add_cases foundI <;>
      obtain oldJ | ⟨lastJ, newJ⟩ := handle?_add_cases foundJ
    · exact k.apart i j y z oldI oldJ same
    · obtain ⟨rfl, rfl⟩ := Handle.mk.inj newJ
      exact absurd (anew rfl) (Nat.not_le_of_lt (same ▸ older i y none oldI))
    · obtain ⟨rfl, rfl⟩ := Handle.mk.inj newI
      exact absurd (anew rfl) (Nat.not_le_of_lt (same ▸ older j z none oldJ))
    · exact lastI.trans lastJ.symm

theorem member?_of_copyOf (k : w.Rooted) {r : Nat} (copy : w.CopyOf i r)
    (held : w.member? i = some x) : w.member? r = some x := by
  induction copy with
  | refl => exact held
  | tail _ step ih =>
    obtain ⟨⟨y, c⟩, found, rfl⟩ := step
    obtain rfl : y = x := Option.some.inj ((member?_of_handle? found).symm.trans ih)
    exact (k.copies _ _ _ found).2

/-- Every handle is a copy of one that is none, in as many steps as may be. -/
theorem exists_root (k : w.Rooted) (held : w.member? i = some x) :
    ∃ r, w.CopyOf i r ∧ w.handle? r = some ⟨x, none⟩ := by
  -- a source is older than its copies, so the way back to it ends
  induction i using Nat.strongRecOn with
  | ind i ih =>
    obtain ⟨c, found⟩ := exists_handle held
    cases c with
    | none => exact ⟨i, .refl, found⟩
    | some j =>
      obtain ⟨before, source⟩ := k.copies i x j found
      obtain ⟨r, copy, root⟩ := ih j before source
      exact ⟨r, .head ⟨_, found, rfl⟩ copy, root⟩

/-- Identities tell copies from all other handles. -/
theorem id_eq_iff (k : w.Rooted) {j : Nat} (heldI : w.member? i = some x)
    (heldJ : w.member? j = some y) : x.id = y.id ↔ ∃ r, w.CopyOf i r ∧ w.CopyOf j r := by
  constructor
  · intro same
    obtain ⟨r, copyI, rootI⟩ := k.exists_root heldI
    obtain ⟨q, copyJ, rootJ⟩ := k.exists_root heldJ
    obtain rfl : r = q := k.apart r q x y rootI rootJ same
    exact ⟨r, copyI, copyJ⟩
  · rintro ⟨r, copyI, copyJ⟩
    have holds := k.member?_of_copyOf copyI heldI
    rw [k.member?_of_copyOf copyJ heldJ, Option.some.injEq] at holds
    rw [holds]

theorem eq_of_id_eq (k : w.Rooted) {j : Nat} (heldI : w.member? i = some x)
    (heldJ : w.member? j = some y) (same : x.id = y.id) : x = y := by
  obtain ⟨r, copyI, copyJ⟩ := (k.id_eq_iff heldI heldJ).mp same
  exact Option.some.inj ((k.member?_of_copyOf copyI heldI).symm.trans
    (k.member?_of_copyOf copyJ heldJ))

end Rooted

/-- What becomes of a roster: its handles stay, and they stay rooted. -/
structure Follows (w u : Roster C) : Prop where
  handles : w.handles <:+ u.handles
  rooted : w.Rooted → u.Rooted

namespace Follows

variable {w v u : Roster C}

theorem refl (w : Roster C) : w.Follows w := ⟨List.suffix_refl _, id⟩

theorem trans (h : w.Follows v) (k : v.Follows u) : w.Follows u :=
  ⟨h.handles.trans k.handles, k.rooted ∘ h.rooted⟩

theorem of_handles (same : u.handles = w.handles) (le : w.store.fresh ≤ u.store.fresh) :
    w.Follows u :=
  ⟨same ▸ List.suffix_refl _, fun k => k.of_handles same le⟩

theorem add_original {x : Member C} {st : Store C} (above : w.store.fresh ≤ x.id.index)
    (below : x.id.index < st.fresh) : w.Follows (w.add st ⟨x, none⟩) :=
  ⟨List.suffix_cons .., fun k =>
    k.add (Nat.le_of_lt (Nat.lt_of_le_of_lt above below)) below nofun fun _ => above⟩

theorem add_copy {x : Member C} {i : Nat} (held : w.member? i = some x) :
    w.Follows (w.add w.store ⟨x, some i⟩) := by
  refine ⟨List.suffix_cons .., fun k => k.add (Nat.le_refl _) (k.below i x held) ?_ nofun⟩
  rintro j ⟨⟩
  exact held

theorem member?_eq (k : w.Follows u) {i : Nat} {x : Member C} (held : w.member? i = some x) :
    u.member? i = some x := by
  obtain ⟨c, found⟩ := exists_handle held
  obtain ⟨newer, all⟩ := k.handles
  refine member?_of_handle? (x := ⟨x, c⟩) ?_
  rw [handle?, ← all, List.reverse_append]
  exact (List.getElem?_append_left (by simpa using lt_length_of_handle? found)).trans found

end Follows

mutual

theorem Step.follows {w u : Roster C} : Step s b w u → w.Follows u
  | .declare _ ran => by
    obtain ⟨-, rfl⟩ := Prod.mk.inj (Option.some.inj ran)
    exact .of_handles rfl (Nat.le_succ _)
  | .create ran => by
    rw [Hybrid.run_create] at ran
    obtain ⟨rfl, rfl⟩ := Prod.mk.inj (Option.some.inj ran)
    exact .add_original (Nat.le_refl _) (Nat.lt_add_of_pos_right Nat.two_pos)
  | .createMethod ran => by
    obtain ⟨rfl, rfl⟩ := Prod.mk.inj (Option.some.inj ran)
    exact .add_original (Nat.le_refl _) (Nat.lt_succ_self _)
  | .clone held => .add_copy held
  | .rebind _ ran => by
    rw [Hybrid.run_rebind] at ran
    obtain ⟨rfl, rfl⟩ := Prod.mk.inj (Option.some.inj ran)
    exact .add_original (Nat.le_refl _) (Nat.lt_add_of_pos_right Nat.two_pos)
  | .withExpression _ ran => by
    obtain ⟨rfl, rfl⟩ := Prod.mk.inj (Option.some.inj ran)
    exact .add_original (Nat.le_refl _) (Nat.lt_succ_self _)
  | .withDoc _ ran => by
    obtain ⟨rfl, rfl⟩ := Prod.mk.inj (Option.some.inj ran)
    exact .add_original (Nat.le_refl _) (Nat.lt_succ_self _)
  | .mint ran => by
    obtain ⟨-, rfl⟩ := Prod.mk.inj (Option.some.inj ran)
    exact .of_handles rfl (Nat.le_succ _)
  | .note .. => .of_handles rfl (Nat.le_refl _)
  | .access a => a.follows
  | .call _ _ within answered ran => by
    rw [Method.run_callOn, answered] at ran
    obtain ⟨-, rfl⟩ := Prod.mk.inj (Option.some.inj ran)
    exact within.follows.trans (.of_handles rfl (Nat.le_refl _))

theorem Access.follows {h : Hybrid C} {e : Entity} {r : Except Fault (Attribute C.Update)}
    {w u : Roster C} : Access s b h e r w u → w.Follows u
  | .hit _ _ kept ran => by
    rw [Hybrid.run_resolve_of_some _ _ _ _ _ kept] at ran
    obtain ⟨-, rfl⟩ := Prod.mk.inj (Option.some.inj ran)
    exact .of_handles rfl (Nat.le_refl _)
  | .miss _ _ missing within answered ran => by
    rw [Hybrid.run_resolve_of_none _ _ _ _ _ missing, answered] at ran
    obtain ⟨-, rfl⟩ := Prod.mk.inj (Option.some.inj ran)
    exact within.follows.trans (.of_handles rfl (Hybrid.fresh_le_settled s h e (_, _)))

theorem Steps.follows {w u : Roster C} : Steps s b w u → w.Follows u
  | .refl _ => .refl _
  | .tail steps step => steps.follows.trans step.follows

end

end Roster
end DualMode
