import DualMode.Proofs.Scene

/-! Who inherits from whom. A parent is declared before its children, so the ancestors of an entity
stand behind it in its lineage, and those of an ancestor are the end of that lineage. Whatever is
looked up is first sought in what stands before this end, and nothing at the end gets lost. -/

namespace DualMode

namespace Entity

variable {sub base : Entity} {before : List Declaration}

theorem eq_of_lineage_eq (same : sub.lineage = base.lineage) : sub = base := by
  obtain ⟨own, inherited⟩ := sub
  obtain ⟨own', inherited'⟩ := base
  obtain ⟨rfl, rfl⟩ := List.cons.inj same
  rfl

theorem mem_lineage_self (e : Entity) : e.own ∈ e.lineage := List.mem_cons_self

theorem inherits_of_suffix (ends : base.lineage <:+ sub.lineage) : sub.inherits base := by
  have there : base.own ∈ sub.lineage := ends.subset base.mem_lineage_self
  exact List.any_eq_true.mpr ⟨base.own, there, beq_self_eq_true _⟩

section Lookup

variable {α : Type} (part : Declaration → List α) (p : α → Bool)

/-- What is declared before the end of the lineage comes first. -/
theorem find?_of_lineage (split : sub.lineage = before ++ base.lineage) :
    (sub.lineage.flatMap part).find? p =
      ((before.flatMap part).find? p).or ((base.lineage.flatMap part).find? p) := by
  rw [split, List.flatMap_append, List.find?_append]

theorem isSome_find?_of_lineage (split : sub.lineage = before ++ base.lineage)
    (found : ((base.lineage.flatMap part).find? p).isSome) :
    ((sub.lineage.flatMap part).find? p).isSome := by
  rw [find?_of_lineage part p split, Option.isSome_or, found, Bool.or_true]

theorem find?_eq_of_lineage (split : sub.lineage = before ++ base.lineage)
    (none : ∀ d ∈ before, ∀ x ∈ part d, ¬ p x) :
    (sub.lineage.flatMap part).find? p = (base.lineage.flatMap part).find? p := by
  have missing : (before.flatMap part).find? p = Option.none := by
    rw [List.find?_eq_none]
    intro x known
    obtain ⟨d, hd, hx⟩ := List.mem_flatMap.mp known
    exact none d hd x hx
  rw [find?_of_lineage part p split, missing, Option.none_or]

end Lookup

end Entity

/-- Every parent is there, too, and was declared before its child. -/
def Founded (entities : List Entity) : Prop :=
  ∀ e ∈ entities, ∀ q, e.parent? = some q → q ∈ entities ∧ q.id.index < e.id.index

namespace Founded

variable {entities : List Entity} {e f : Entity} {n : Nat}

theorem cons {p : Blueprint} (k : Founded entities)
    (supplied : Scene.Supplied (fun e : Entity => e.id.index) entities n)
    (above : ∀ q, p.parent = some q → q ∈ entities) :
    Founded (p.declare ⟨n⟩ :: entities) := by
  intro e he q parent
  obtain rfl | known := List.mem_cons.mp he
  · rw [Blueprint.parent_declare] at parent
    have declared := above q parent
    exact ⟨List.mem_cons_of_mem _ declared, supplied.below q declared⟩
  · obtain ⟨declared, smaller⟩ := k e known q parent
    exact ⟨List.mem_cons_of_mem _ declared, smaller⟩

theorem mem_of_suffix (k : Founded entities) {d : Declaration} {ds : List Declaration}
    (he : e ∈ entities) (ends : d :: ds <:+ e.lineage) : (⟨d, ds⟩ : Entity) ∈ entities := by
  obtain ⟨own, inherited⟩ := e
  induction inherited generalizing own with
  | nil =>
    obtain whole | beyond := List.suffix_cons_iff.mp ends
    · obtain ⟨rfl, rfl⟩ := List.cons.inj whole
      exact he
    · exact absurd (List.suffix_nil.mp beyond) (List.cons_ne_nil d ds)
  | cons parent rest ih =>
    obtain whole | beyond := List.suffix_cons_iff.mp ends
    · obtain ⟨rfl, rfl⟩ := List.cons.inj whole
      exact he
    · exact ih parent (k _ he _ rfl).1 beyond

theorem pairwise_lineage (k : Founded entities) (he : e ∈ entities) :
    e.lineage.Pairwise fun c d => d.id.index < c.id.index := by
  obtain ⟨own, inherited⟩ := e
  induction inherited generalizing own with
  | nil => exact List.pairwise_singleton _ _
  | cons parent rest ih =>
    obtain ⟨declared, smaller⟩ := k _ he _ rfl
    have above := ih parent declared
    refine List.pairwise_cons.mpr ⟨?_, above⟩
    have first : parent.id.index < own.id.index := smaller
    intro d hd
    obtain rfl | further := List.mem_cons.mp hd
    · exact first
    · exact Nat.lt_trans ((List.pairwise_cons.mp above).1 d further) first

theorem nodup_ids (k : Founded entities) (he : e ∈ entities) : (e.lineage.map (·.id)).Nodup := by
  rw [List.Nodup, List.pairwise_map]
  refine (k.pairwise_lineage he).imp ?_
  rintro c d smaller same
  rw [same] at smaller
  exact Nat.lt_irrefl _ smaller

theorem inherits_iff_suffix (k : Founded entities)
    (supplied : Scene.Supplied (fun e : Entity => e.id.index) entities n)
    (he : e ∈ entities) (hf : f ∈ entities) :
    e.inherits f ↔ f.lineage <:+ e.lineage := by
  refine ⟨fun inherits => ?_, Entity.inherits_of_suffix⟩
  obtain ⟨d, hd, same⟩ := List.any_eq_true.mp inherits
  obtain ⟨before, ds, split⟩ := List.append_of_mem hd
  have ends : d :: ds <:+ e.lineage := ⟨before, split.symm⟩
  have declared : (⟨d, ds⟩ : Entity) ∈ entities := k.mem_of_suffix he ends
  have id : d.id = f.id := by simpa using same
  have ancestor : ⟨d, ds⟩ = f := supplied.apart _ declared f hf (congrArg EntityId.index id)
  rw [← ancestor]
  exact ends

end Founded

namespace Scene

variable {C : Callbacks} {s : Settings} {b : Behaviour C}

mutual

theorem Step.founded {w u : Scene C} (sound : w.Sound s b) (k : Founded w.entities) :
    Step s b w u → Founded u.entities
  | .declare above ran => by
    obtain ⟨rfl, rfl⟩ := Prod.mk.inj (Option.some.inj ran)
    exact k.cons sound.entities above
  | .create _ => k
  | .clone _ => k
  | .rebind _ _ => k
  | .mint _ => k
  | .note _ _ => k
  | .access a => a.founded sound k

theorem Access.founded {h : Hybrid C} {e : Entity} {r : Except Fault (Attribute C.Update)}
    {w u : Scene C} (sound : w.Sound s b) (k : Founded w.entities) :
    Access s b h e r w u → Founded u.entities
  | .hit _ _ _ _ => k
  | .miss _ _ _ within _ _ => by
    have grown := within.founded sound k
    exact grown

theorem Steps.founded {w u : Scene C} (sound : w.Sound s b) (k : Founded w.entities) :
    Steps s b w u → Founded u.entities
  | .refl _ => k
  | .tail steps step => step.founded (steps.sound sound) (steps.founded sound k)

end

/-- Of entities that were declared in any order, with anything else happening in between, those of
one identity are the same, and to inherit is a partial order on them. Wherever one entity inherits
from another one, the other's lineage ends its own, and no entity stands there twice. What the other
one has, columns, members and names of members, the first one has, too; and a column or a member
under a name is the same one unless an entity before the other's lineage put something there. -/
theorem inheritance_monotone {memory : C.Memory} {w : Scene C}
    (reached : Steps s b (start memory) w) :
    (∀ e ∈ w.entities, ∀ f ∈ w.entities, e.same f ↔ e = f) ∧
    (∀ e ∈ w.entities, e.inherits e) ∧
    (∀ e ∈ w.entities, ∀ f ∈ w.entities, ∀ g ∈ w.entities,
      e.inherits f → f.inherits g → e.inherits g) ∧
    (∀ e ∈ w.entities, ∀ f ∈ w.entities, e.inherits f → f.inherits e → e = f) ∧
    (∀ e ∈ w.entities, (e.lineage.map (·.id)).Nodup) ∧
    ∀ sub ∈ w.entities, ∀ base ∈ w.entities, sub.inherits base →
      ∃ before, sub.lineage = before ++ base.lineage ∧ (∀ d ∈ before, d.id ≠ base.id) ∧
        (∀ name, ((base.column? name).isSome → (sub.column? name).isSome) ∧
          ((∀ d ∈ before, ∀ c ∈ d.columns, c.name ≠ name) →
            sub.column? name = base.column? name)) ∧
        (∀ name, ((base.member? name).isSome → (sub.member? name).isSome) ∧
          ((∀ d ∈ before, ∀ m ∈ d.members, m.1 ≠ name) →
            sub.member? name = base.member? name)) ∧
        ∀ id, (base.memberKey? id).isSome → (sub.memberKey? id).isSome := by
  have supplied := (reached.sound (start_sound memory)).entities
  have founded : Founded w.entities := reached.founded (start_sound memory) nofun
  refine ⟨?_, ?_, ?_, ?_, fun e he => founded.nodup_ids he, ?_⟩
  · intro e he f hf
    constructor
    · intro same
      have id : e.id = f.id := by simpa [Entity.same] using same
      exact supplied.apart e he f hf (congrArg EntityId.index id)
    · rintro rfl
      exact beq_self_eq_true e.id
  · intro e he
    exact Entity.inherits_of_suffix (List.suffix_refl _)
  · intro e he f hf g hg upper lower
    have first := (founded.inherits_iff_suffix supplied he hf).mp upper
    have second := (founded.inherits_iff_suffix supplied hf hg).mp lower
    exact Entity.inherits_of_suffix (second.trans first)
  · intro e he f hf upper lower
    have first := (founded.inherits_iff_suffix supplied he hf).mp upper
    have second := (founded.inherits_iff_suffix supplied hf he).mp lower
    exact Entity.eq_of_lineage_eq (second.eq_of_length_le first.length_le)
  · intro sub hs base hb inherits
    obtain ⟨before, joined⟩ := (founded.inherits_iff_suffix supplied hs hb).mp inherits
    have split : sub.lineage = before ++ base.lineage := joined.symm
    refine ⟨before, split, ?_, fun name => ⟨?_, fun undeclared => ?_⟩,
      fun name => ⟨?_, fun unregistered => ?_⟩, fun id => ?_⟩
    · intro d hd same
      have distinct := founded.nodup_ids hs
      rw [split, List.map_append, List.nodup_append] at distinct
      exact distinct.2.2 _ (List.mem_map_of_mem hd) _
        (List.mem_map_of_mem base.mem_lineage_self) same
    · exact Entity.isSome_find?_of_lineage (·.columns) (·.name == name) split
    · refine Entity.find?_eq_of_lineage (·.columns) (·.name == name) split ?_
      simpa using undeclared
    · simp only [Entity.member?, Option.isSome_map]
      exact Entity.isSome_find?_of_lineage (·.members) (·.1 == name) split
    · refine congrArg (Option.map (·.2))
        (Entity.find?_eq_of_lineage (·.members) (·.1 == name) split ?_)
      simpa using unregistered
    · simp only [Entity.memberKey?, Option.isSome_map]
      exact Entity.isSome_find?_of_lineage (·.members) (·.2 == id) split

/-! A task, and a kind of task in a table of its own that has another title and another label. -/

def tacit : Callbacks where
  Value := Operand

def tacitly : Behaviour tacit where
  clause := .ofOperand
  get c := c.elim
  set c := c.elim
  delete c := c.elim
  express c := c.elim
  compare c := c.elim
  update c := c.elim
  call c := c.elim
  callExpress c := c.elim

def task : Blueprint :=
  { name := "Task", columns := ["id", "title"], members := [("label", ⟨0⟩), ("state", ⟨1⟩)] }

def chore : Blueprint :=
  { name := "Chore", table := some "chore", parent := some (task.declare ⟨2⟩)
    columns := ["title", "due"], members := [("label", ⟨3⟩)] }

def planned : Scene tacit :=
  { store := { fresh := 5, memory := () }
    entities := [chore.declare ⟨4⟩, task.declare ⟨2⟩] }

theorem planned_reached : Steps {} tacitly (start ()) planned :=
  .tail (.tail (.tail (.tail (.tail (.refl _) (.mint rfl)) (.mint rfl))
    (.declare (p := task) nofun rfl)) (.mint rfl))
    (.declare (p := chore) (by rintro _ ⟨⟩; exact List.mem_cons_self) rfl)

/-- The state and its column are those of the task, and the task's label keeps its name. -/
theorem inheritance_monotone_chore : Steps {} tacitly (start ()) planned ∧
    (chore.declare ⟨4⟩).inherits (task.declare ⟨2⟩) ∧
    ¬ (task.declare ⟨2⟩).inherits (chore.declare ⟨4⟩) ∧
    (chore.declare ⟨4⟩).column? "id" = (task.declare ⟨2⟩).column? "id" ∧
    (chore.declare ⟨4⟩).member? "state" = (task.declare ⟨2⟩).member? "state" ∧
    ((chore.declare ⟨4⟩).memberKey? ⟨0⟩).isSome := by
  have lower : chore.declare ⟨4⟩ ∈ planned.entities := List.mem_cons_self
  have upper : task.declare ⟨2⟩ ∈ planned.entities := List.mem_cons_of_mem _ List.mem_cons_self
  have inherits : (chore.declare ⟨4⟩).inherits (task.declare ⟨2⟩) := rfl
  obtain ⟨same, -, -, antisymm, -, monotone⟩ := inheritance_monotone planned_reached
  obtain ⟨before, split, -, columns, members, named⟩ := monotone _ lower _ upper inherits
  obtain rfl : before = [(chore.declare ⟨4⟩).own] := List.append_cancel_right split.symm
  refine ⟨planned_reached, inherits, ?_, (columns "id").2 ?_, (members "state").2 ?_, named ⟨0⟩ rfl⟩
  · intro back
    have equal := (same _ lower _ upper).mpr (antisymm _ lower _ upper inherits back)
    exact absurd equal (by decide)
  · rw [List.forall_mem_singleton]
    decide
  · rw [List.forall_mem_singleton]
    decide

end Scene
end DualMode
