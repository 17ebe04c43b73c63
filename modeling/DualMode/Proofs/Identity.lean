import DualMode.Proofs.Roster

/-! What identities tell. Handles of one identity are copies of one handle, hold the same and see
the same views. Handles of different identities see different views, and whatever is changed starts
with none. -/

namespace DualMode

variable {C : Callbacks}

/-- The view that is published for an entity, as all copies of the hybrid see it. -/
def Hybrid.view? (h : Hybrid C) (st : Store C) (e : Entity) : Option (Attribute C.Update) :=
  st.views.get? h.cache e.id

namespace Store

/-- Different places of the views have views of different identities from the supply. -/
def Stamped (st : Store C) : Prop :=
  Scene.Supplied (fun x => x.2.id.index) st.views.entries st.fresh

theorem Stamped.place_eq {st : Store C} (k : st.Stamped) {cache cache' : CacheId}
    {e e' : EntityId} {a a' : Attribute C.Update} (found : st.views.get? cache e = some a)
    (found' : st.views.get? cache' e' = some a') (same : a.id = a'.id) :
    (cache, e) = (cache', e') := by
  have entry := k.apart _ (Views.mem_of_get? found) _ (Views.mem_of_get? found')
    (congrArg AttributeId.index same)
  exact congrArg Prod.fst entry

/-- What becomes of the views: published ones stay, and all have identities of their own. -/
structure Advances (st st' : Store C) : Prop where
  kept : ∀ cache e a, st.views.get? cache e = some a → st'.views.get? cache e = some a
  stamped : st.Stamped → st'.Stamped

namespace Advances

theorem refl (st : Store C) : st.Advances st := ⟨fun _ _ _ => id, id⟩

theorem trans {st mid st' : Store C} (h : st.Advances mid) (k : mid.Advances st') :
    st.Advances st' :=
  ⟨fun cache e a => k.kept cache e a ∘ h.kept cache e a, k.stamped ∘ h.stamped⟩

theorem of_views {st st' : Store C} (same : st'.views = st.views) (le : st.fresh ≤ st'.fresh) :
    st.Advances st' := by
  refine ⟨fun cache e a => ?_, fun k => ?_⟩
  · rw [same]
    exact id
  · unfold Stamped
    rw [same]
    exact k.mono le

/-- An attribute takes the next identity before it is published. -/
theorem settled (s : Settings) (h : Hybrid C) (e : Entity) (p : Given C.Update × Store C) :
    p.2.Advances (h.settled e (h.finish s e p)).2 := by
  unfold Hybrid.finish
  cases (h.wrap e p.1).clauseElement s.adaptLimit with
  | error f => exact refl p.2
  | ok n =>
    refine ⟨fun cache id a kept => Views.get?_publish_of_some kept .., fun k => ?_⟩
    simp only [Stamped, Hybrid.settled, Hybrid.noted]
    cases found : p.2.views.get? h.cache e.id with
    | some first =>
      rw [Views.publish_of_some found]
      exact k.mono (Nat.le_succ _)
    | none =>
      rw [Views.publish_of_none found]
      exact k.concat (Nat.le_refl _) (Nat.lt_succ_self _)

end Advances

end Store

namespace Scene

variable {s : Settings} {b : Behaviour C}

mutual

theorem Step.advances {w u : Scene C} : Step s b w u → w.store.Advances u.store
  | .declare _ ran => by
    obtain ⟨-, rfl⟩ := Prod.mk.inj (Option.some.inj ran)
    exact .of_views rfl (Nat.le_succ _)
  | .create ran => by
    rw [Hybrid.run_create] at ran
    obtain ⟨-, rfl⟩ := Prod.mk.inj (Option.some.inj ran)
    exact .of_views rfl (Nat.le_add_right _ _)
  | .clone _ => .refl _
  | .rebind _ ran => by
    rw [Hybrid.run_rebind] at ran
    obtain ⟨-, rfl⟩ := Prod.mk.inj (Option.some.inj ran)
    exact .of_views rfl (Nat.le_add_right _ _)
  | .mint ran => by
    obtain ⟨-, rfl⟩ := Prod.mk.inj (Option.some.inj ran)
    exact .of_views rfl (Nat.le_succ _)
  | .note .. => .of_views rfl (Nat.le_refl _)
  | .access a => a.advances

theorem Access.advances {h : Hybrid C} {e : Entity} {r : Except Fault (Attribute C.Update)}
    {w u : Scene C} : Access s b h e r w u → w.store.Advances u.store
  | .hit _ _ kept ran => by
    rw [Hybrid.run_resolve_of_some _ _ _ _ _ kept] at ran
    obtain ⟨-, rfl⟩ := Prod.mk.inj (Option.some.inj ran)
    exact .of_views rfl (Nat.le_refl _)
  | .miss _ _ missing within answered ran => by
    rw [Hybrid.run_resolve_of_none _ _ _ _ _ missing, answered] at ran
    obtain ⟨-, rfl⟩ := Prod.mk.inj (Option.some.inj ran)
    exact within.advances.trans (.settled s h e (_, _))

theorem Steps.advances {w u : Scene C} : Steps s b w u → w.store.Advances u.store
  | .refl _ => .refl _
  | .tail steps step => steps.advances.trans step.advances

end

theorem Access.published {h : Hybrid C} {e : Entity} {a : Attribute C.Update} {w u : Scene C}
    (access : Access s b h e (.ok a) w u) : h.view? u.store e = some a := by
  cases access with
  | hit known declared kept ran =>
    rw [Hybrid.run_resolve_of_some _ _ _ _ _ kept] at ran
    obtain ⟨-, rfl⟩ := Prod.mk.inj (Option.some.inj ran)
    exact kept
  | miss known declared missing within answered ran =>
    rw [Hybrid.run_resolve_of_none _ _ _ _ _ missing, answered] at ran
    obtain ⟨gives, rfl⟩ := Prod.mk.inj (Option.some.inj ran)
    exact h.get?_settled e gives

theorem Sound.hybrid_eq {w : Scene C} (k : w.Sound s b) {h : Hybrid C} {e : Entity}
    {a : Attribute C.Update} (known : h ∈ w.hybrids) (sees : h.view? w.store e = some a) :
    a.hybrid = h.about := by
  obtain ⟨l, hl, f, -, cache, -, i, g, -, -, -, rfl⟩ := k.kept _ _ _ sees
  obtain rfl : l = h := k.hybrids.apart l hl h known (congrArg CacheId.index cache)
  rfl

theorem Sound.size_eq_zero {w : Scene C} (k : w.Sound s b) {cache : CacheId}
    (unused : w.store.fresh ≤ cache.index) : w.store.views.size cache = 0 := by
  rw [Views.size_eq_length, List.length_eq_zero_iff, List.eq_nil_iff_forall_not_mem]
  intro e published
  obtain ⟨a, found⟩ := Views.mem_entities_iff.mp published
  obtain ⟨h, known, -, -, rfl, -⟩ := k.kept _ _ _ found
  exact absurd (k.hybrids.below h known) (Nat.not_lt_of_le unused)

end Scene

namespace Roster

variable {s : Settings} {b : Behaviour C}

/-- At any time, two handles have one identity exactly if they are copies of one handle, and then
they hold the same. What an access gives is from then on given to all handles of that identity.
Handles of different identities see different attributes. And changing what a handle holds gives
something of a new identity and without views, while the handle and all views stay as they were. -/
theorem identity_iff_copies {memory : C.Memory} {w : Roster C}
    (reached : Steps s b (start memory) w) :
    (∀ i j x y, w.member? i = some x → w.member? j = some y →
      (x.id = y.id ↔ ∃ r, w.CopyOf i r ∧ w.CopyOf j r) ∧ (x.id = y.id → x = y)) ∧
    (∀ i h, w.member? i = some (.hybrid h) → ∀ e a u, Access s b h e (.ok a) w u →
      ∀ v, Steps s b u v → ∀ j k, v.member? j = some (.hybrid k) → k.about.id = h.about.id →
        ∃ st, (k.resolve s b e).run v.store = some (.ok a, st) ∧ st.views = v.store.views) ∧
    (∀ i j h k, w.member? i = some (.hybrid h) → w.member? j = some (.hybrid k) →
      h.about.id ≠ k.about.id → h.cache ≠ k.cache ∧
        ∀ e f a a', h.view? w.store e = some a → k.view? w.store f = some a' →
          a.id ≠ a'.id ∧ a.hybrid.id ≠ a'.hybrid.id) ∧
    ∀ i h c, w.member? i = some (.hybrid h) → ∃ k st, (h.rebind c).run w.store = some (k, st) ∧
      st.views.size k.cache = 0 ∧ st.views = w.store.views ∧
      (w.add st ⟨.hybrid k, none⟩).member? i = some (.hybrid h) ∧
      ∀ j x, w.member? j = some x → x.id ≠ k.about.id := by
  have rooted : w.Rooted := reached.follows.rooted (start_rooted memory)
  have sound : w.scene.Sound s b := reached.scene.sound (Scene.start_sound memory)
  have stamped : w.store.Stamped := reached.scene.advances.stamped ⟨nofun, nofun⟩
  refine ⟨?_, ?_, ?_, ?_⟩
  · intro i j x y heldI heldJ
    exact ⟨rooted.id_eq_iff heldI heldJ, rooted.eq_of_id_eq heldI heldJ⟩
  · intro i h held e a u access v later j k heldK same
    have follows : w.Follows v := access.follows.trans later.follows
    have whole := (follows.rooted rooted).eq_of_id_eq heldK (follows.member?_eq held) same
    obtain rfl : k = h := Member.hybrid.inj whole
    have published : v.store.views.get? k.cache e.id = some a :=
      later.scene.advances.kept _ _ _ access.scene.published
    exact ⟨_, k.run_resolve_of_some s b e v.store published, rfl⟩
  · intro i j h k heldH heldK different
    have apart : h.cache ≠ k.cache := by
      intro cache
      have whole : h = k := sound.hybrids.apart h (mem_hybrids heldH) k (mem_hybrids heldK)
        (congrArg CacheId.index cache)
      exact different (whole ▸ rfl)
    refine ⟨apart, fun e f a a' sees sees' => ⟨?_, ?_⟩⟩
    · intro same
      exact apart (congrArg Prod.fst (stamped.place_eq sees sees' same))
    · rw [sound.hybrid_eq (mem_hybrids heldH) sees, sound.hybrid_eq (mem_hybrids heldK) sees']
      exact different
  · intro i h c held
    refine ⟨_, _, h.run_rebind c w.store, ?_, rfl, member?_add_of_some held, ?_⟩
    · exact sound.size_eq_zero (Nat.le_succ _)
    · intro j x heldX same
      have below := rooted.below j x heldX
      rw [same] at below
      exact absurd below (Nat.lt_irrefl _)

def plain : Callbacks where
  Value := Operand
  Getter := Operand
  Body := Operand

def plainly : Behaviour plain where
  clause := .ofOperand
  get o _ := pure o
  set c := c.elim
  delete c := c.elim
  express c := c.elim
  compare c := c.elim
  update c := c.elim
  call o _ _ := pure o
  callExpress c := c.elim

def total : Hybrid plain :=
  { about := { id := ⟨0⟩, name := "total" }, getter := .column ⟨"order", "net"⟩, cache := ⟨1⟩ }

def described : Hybrid plain :=
  { total with about := { total.about with id := ⟨2⟩, doc := some "without tax" }, cache := ⟨3⟩ }

def taxed : Method plain :=
  { about := { id := ⟨4⟩, name := "taxed" }, body := .column ⟨"order", "gross"⟩ }

def taxedAnew : Method plain :=
  { taxed with about := { taxed.about with id := ⟨5⟩, doc := some "with tax" } }

def sale : Blueprint :=
  { name := "Sale", table := some "order", columns := ["net", "gross"],
    members := [("total", ⟨0⟩)] }

def sold : Entity := sale.declare ⟨6⟩

/-- The second handle is a copy of the first; all others hold something of their own. -/
def listed : Roster plain :=
  { store := { fresh := 7, memory := () }
    entities := [sold]
    handles := [⟨.method taxedAnew, none⟩, ⟨.method taxed, none⟩, ⟨.hybrid described, none⟩,
      ⟨.hybrid total, some 0⟩, ⟨.hybrid total, none⟩] }

theorem listed_reached : Steps {} plainly (start ()) listed :=
  .tail (.tail (.tail (.tail (.tail (.tail (.refl _) (.create rfl)) (.clone (i := 0) rfl))
    (.rebind (i := 1) (c := .doc "without tax") rfl rfl)) (.createMethod rfl))
    (.withDoc (i := 3) rfl rfl)) (.declare (p := sale) nofun rfl)

def totalView : Attribute Empty := total.make {} sold ⟨7⟩ (.clause (.column ⟨"order", "net"⟩))

def visited : Roster plain :=
  { listed with
    store := (total.settled sold (total.finish {} sold
      (.clause (.column ⟨"order", "net"⟩), listed.store))).2
    answers := [(total.asked, sold, .clause (.column ⟨"order", "net"⟩))] }

theorem total_access : Access {} plainly total sold (.ok totalView) listed visited :=
  .miss (i := 1) rfl List.mem_cons_self rfl (.refl _) rfl
    (total.run_resolve_of_none {} plainly sold _ rfl)

/-- What the copy is accessed for, the first handle gives, too; a changed copy has no views. -/
theorem identity_iff_copies_total : Steps {} plainly (start ()) listed ∧
    (∃ r, listed.CopyOf 0 r ∧ listed.CopyOf 1 r) ∧ (¬ ∃ r, listed.CopyOf 1 r ∧ listed.CopyOf 2 r) ∧
    (∃ st, (total.resolve {} plainly sold).run visited.store = some (.ok totalView, st) ∧
      st.views = visited.store.views) ∧
    visited.store.views.size total.cache = 1 ∧
    ∃ k st, (total.rebind (.doc "net")).run visited.store = some (k, st) ∧
      st.views.size k.cache = 0 := by
  obtain ⟨copies, shared, -, -⟩ := identity_iff_copies listed_reached
  obtain ⟨-, -, -, changed⟩ := identity_iff_copies (.tail listed_reached (.access total_access))
  refine ⟨listed_reached, (copies 0 1 _ _ rfl rfl).1.mp rfl, ?_, ?_, rfl, ?_⟩
  · rw [← (copies 1 2 _ _ rfl rfl).1]
    decide
  · exact shared 1 total rfl sold totalView visited total_access visited (.refl _) 0 total rfl rfl
  · obtain ⟨k, st, ran, empty, -⟩ := changed 0 total (.doc "net") rfl
    exact ⟨k, st, ran, empty⟩

end Roster
end DualMode
