import DualMode.Proofs.Columns
import DualMode.Proofs.Keyed

/-! The members of an entity, looked up by name and by identity. A look-up by identity finds the
most derived entity that registers the member, and a look-up of the name that it gives finds the
member again, unless an entity further down put another one under that name. -/

namespace DualMode

namespace Blueprint

/-- The member is registered under the name, and no later registration takes the name. -/
def Registers (p : Blueprint) (name : String) (id : MemberId) : Prop :=
  ∃ before after, p.members = before ++ (name, id) :: after ∧ name ∉ after.map (·.1)

variable {p : Blueprint} {name : String} {id : MemberId}

theorem registers_iff_lookup : p.Registers name id ↔ p.members.reverse.lookup name = some id := by
  rw [List.lookup_eq_some_iff]
  constructor
  · rintro ⟨before, after, split, last⟩
    refine ⟨after.reverse, before.reverse, by simp [split], ?_⟩
    intro later given
    have other : later.1 ≠ name := fun same =>
      last (List.mem_map.mpr ⟨later, List.mem_reverse.mp given, same⟩)
    simpa using other.symm
  · rintro ⟨after, before, split, last⟩
    have order : p.members = before.reverse ++ (name, id) :: after.reverse := by
      simpa using congrArg List.reverse split
    refine ⟨before.reverse, after.reverse, order, ?_⟩
    intro given
    obtain ⟨later, there, same⟩ := List.mem_map.mp given
    have other := last later (List.mem_reverse.mp there)
    simp [same] at other

def declared (p : Blueprint) : List (String × MemberId) := Entity.registerAll p.members

theorem map_name_declared (p : Blueprint) :
    p.declared.map (·.1) = (p.members.map (·.1)).eraseDups := Keyed.keys_putAll p.members

theorem nodup_declared (p : Blueprint) : (p.declared.map (·.1)).Nodup := by
  have none : (Keyed.keys ([] : List (String × MemberId))).Nodup := List.nodup_nil
  exact Keyed.nodup_putAll none p.members

theorem lookup_declared_eq_some_iff : p.declared.lookup name = some id ↔ p.Registers name id := by
  have last : p.declared.lookup name = p.members.reverse.lookup name :=
    Keyed.lookup_putAll p.members name
  rw [last, registers_iff_lookup]

theorem mem_declared_iff : (name, id) ∈ p.declared ↔ p.Registers name id := by
  have distinct : (Keyed.keys p.declared).Nodup := p.nodup_declared
  rw [Keyed.mem_iff_lookup distinct, lookup_declared_eq_some_iff]

/-- The first name, in the order of registration, that the member has in the end. -/
def nameOf? (p : Blueprint) (id : MemberId) : Option String :=
  (p.declared.find? (·.2 == id)).map (·.1)

theorem registers_of_nameOf? (found : p.nameOf? id = some name) : p.Registers name id := by
  obtain ⟨⟨n, i⟩, first, rfl⟩ := Option.map_eq_some_iff.mp found
  have own : i = id := by simpa using List.find?_some first
  have there : (n, i) ∈ p.declared := List.mem_of_find?_eq_some first
  exact mem_declared_iff.mp (own ▸ there)

theorem nameOf?_eq_none_iff : p.nameOf? id = none ↔ ∀ name, ¬ p.Registers name id := by
  rw [nameOf?, Option.map_eq_none_iff, List.find?_eq_none]
  constructor
  · intro none name registers
    have there : (name, id) ∈ p.declared := mem_declared_iff.mpr registers
    exact none _ there (beq_self_eq_true id)
  · rintro none ⟨n, i⟩ there same
    obtain rfl : i = id := by simpa using same
    exact none n (mem_declared_iff.mp there)

end Blueprint

namespace Ancestry

variable {ps : List Blueprint} {e : Entity} {name : String} {id : MemberId}

theorem map_members_lineage (k : Ancestry ps e) :
    e.lineage.map (·.members) = ps.map Blueprint.declared := by
  induction k with
  | @root p id top =>
    have alone : (p.declare id).lineage = [(p.declare id).own] := by
      simp [Entity.lineage, Blueprint.declare, top]
    rw [alone]
    rfl
  | @derived p ps q id parent above ih =>
    rw [Entity.lineage_parent ((Blueprint.parent_declare p id).trans parent), List.map_cons, ih]
    rfl

theorem membersInLineage_eq (k : Ancestry ps e) :
    e.membersInLineage = (ps.map Blueprint.declared).flatten := by
  rw [← k.map_members_lineage, Entity.membersInLineage, List.flatMap_def]

/-- By name, the most derived entity that has something under it decides. -/
theorem member?_eq (k : Ancestry ps e) (name : String) :
    e.member? name = ps.findSome? fun p => p.declared.lookup name := by
  rw [Entity.member?, k.membersInLineage_eq, List.find?_flatten, List.findSome?_map,
    List.map_findSome?]
  congr 1
  funext p
  exact Keyed.map_find?_eq_lookup p.declared name

/-- By identity, the most derived entity that registers the member does. -/
theorem memberKey?_eq (k : Ancestry ps e) (id : MemberId) :
    e.memberKey? id = ps.findSome? fun p => p.nameOf? id := by
  rw [Entity.memberKey?, k.membersInLineage_eq, List.find?_flatten, List.findSome?_map,
    List.map_findSome?]
  rfl

theorem memberKey?_eq_none_iff (k : Ancestry ps e) :
    e.memberKey? id = none ↔ ∀ p ∈ ps, ∀ name, ¬ p.Registers name id := by
  rw [k.memberKey?_eq, List.findSome?_eq_none_iff]
  exact forall₂_congr fun p _ => Blueprint.nameOf?_eq_none_iff

theorem exists_registering (k : Ancestry ps e) (found : e.memberKey? id = some name) :
    ∃ below p above, ps = below ++ p :: above ∧ (∀ q ∈ below, ∀ n, ¬ q.Registers n id) ∧
      p.Registers name id := by
  rw [k.memberKey?_eq] at found
  obtain ⟨below, p, above, split, here, none⟩ := List.findSome?_eq_some_iff.mp found
  exact ⟨below, p, above, split, fun q hq => Blueprint.nameOf?_eq_none_iff.mp (none q hq),
    Blueprint.registers_of_nameOf? here⟩

theorem registers_of_member? (k : Ancestry ps e) (found : e.member? name = some id) :
    ∃ p ∈ ps, p.Registers name id := by
  rw [k.member?_eq] at found
  obtain ⟨below, p, above, rfl, here, -⟩ := List.findSome?_eq_some_iff.mp found
  exact ⟨p, List.mem_append_right _ List.mem_cons_self,
    Blueprint.lookup_declared_eq_some_iff.mp here⟩

theorem member?_of_registers {below above : List Blueprint} {p : Blueprint}
    (k : Ancestry (below ++ p :: above) e) (registers : p.Registers name id) :
    e.member? name = some id ∨
      ∃ q ∈ below, ∃ other, q.Registers name other ∧ e.member? name = some other := by
  have here : p.declared.lookup name = some id :=
    Blueprint.lookup_declared_eq_some_iff.mpr registers
  rw [k.member?_eq, List.findSome?_append, List.findSome?_cons, here]
  cases found : below.findSome? fun q => q.declared.lookup name with
  | none => exact .inl rfl
  | some other =>
    obtain ⟨lower, q, higher, rfl, first, -⟩ := List.findSome?_eq_some_iff.mp found
    exact .inr ⟨q, List.mem_append_right _ List.mem_cons_self, other,
      Blueprint.lookup_declared_eq_some_iff.mp first, rfl⟩

/-- Registrations, look-ups by name and look-ups by identity agree. Each entity has every name once,
in the order of first registration and with the last member that was registered under it. A member
that a name finds has a name; the name that a member has is that of the most derived entity which
registers it, and finds the member again, or another one from further down; and a member without a
name is registered nowhere. -/
theorem members_agree (k : Ancestry ps e) :
    List.Forall₂ (fun d p => (d.members.map (·.1)).Nodup ∧
      d.members.map (·.1) = (p.members.map (·.1)).eraseDups ∧
      ∀ name id, (name, id) ∈ d.members ↔ p.Registers name id) e.lineage ps ∧
    (∀ name id, e.member? name = some id → (e.memberKey? id).isSome) ∧
    (∀ id name, e.memberKey? id = some name → ∃ below p above, ps = below ++ p :: above ∧
      (∀ q ∈ below, ∀ n, ¬ q.Registers n id) ∧ p.Registers name id ∧
      (e.member? name = some id ∨
        ∃ q ∈ below, ∃ other ≠ id, q.Registers name other ∧ e.member? name = some other)) ∧
    ∀ id, e.memberKey? id = none ↔ ∀ p ∈ ps, ∀ name, ¬ p.Registers name id := by
  refine ⟨?_, ?_, ?_, fun id => k.memberKey?_eq_none_iff⟩
  · have same : List.Forall₂ (fun members p => members = Blueprint.declared p)
        (e.lineage.map (·.members)) ps := by
      rw [k.map_members_lineage, List.forall₂_map_left_iff]
      exact List.forall₂_same.mpr fun p _ => rfl
    refine (List.forall₂_map_left_iff.mp same).imp ?_
    intro d p members
    rw [members]
    exact ⟨p.nodup_declared, p.map_name_declared, fun name id => Blueprint.mem_declared_iff⟩
  · intro name id found
    obtain ⟨p, hp, registers⟩ := k.registers_of_member? found
    have named : e.memberKey? id ≠ none := fun none =>
      k.memberKey?_eq_none_iff.mp none p hp name registers
    exact Option.isSome_iff_ne_none.mpr named
  · intro id name found
    obtain ⟨below, p, above, rfl, none, registers⟩ := k.exists_registering found
    refine ⟨below, p, above, rfl, none, registers, ?_⟩
    obtain own | ⟨q, hq, other, replaces, sees⟩ := k.member?_of_registers registers
    · exact .inl own
    · have differs : other ≠ id := by
        rintro rfl
        exact none q hq name replaces
      exact .inr ⟨q, hq, other, differs, replaces, sees⟩

/-- The second registration of the length takes the place of the first. -/
def span : Blueprint :=
  { name := "Span", members := [("length", ⟨0⟩), ("size", ⟨0⟩), ("length", ⟨1⟩)] }

/-- Another member takes the size, and has a name of its own besides. -/
def openSpan : Blueprint :=
  { name := "OpenSpan", parent := some (span.declare ⟨2⟩)
    members := [("width", ⟨3⟩), ("size", ⟨3⟩)] }

theorem openSpan_ancestry : Ancestry [openSpan, span] (openSpan.declare ⟨4⟩) :=
  .derived _ rfl (.root _ rfl)

/-- The member that was overridden keeps its name, under which another one is found. -/
theorem members_agree_openSpan :
    Ancestry [openSpan, span] (openSpan.declare ⟨4⟩) ∧
      ((openSpan.declare ⟨4⟩).memberKey? ⟨1⟩).isSome ∧
      (openSpan.declare ⟨4⟩).memberKey? ⟨0⟩ = some "size" ∧
      (∃ q ∈ [openSpan, span], ∃ other ≠ (⟨0⟩ : MemberId), q.Registers "size" other ∧
        (openSpan.declare ⟨4⟩).member? "size" = some other) ∧
      ∀ p ∈ [openSpan, span], ∀ name, ¬ p.Registers name ⟨5⟩ := by
  obtain ⟨-, named, resolved, absent⟩ := members_agree openSpan_ancestry
  have hidden : (openSpan.declare ⟨4⟩).member? "size" ≠ some ⟨0⟩ := by decide
  refine ⟨openSpan_ancestry, named "length" ⟨1⟩ rfl, rfl, ?_, (absent ⟨5⟩).mp rfl⟩
  obtain ⟨below, p, above, split, -, -, own | ⟨q, hq, replaced⟩⟩ := resolved ⟨0⟩ "size" rfl
  · exact absurd own hidden
  · exact ⟨q, split ▸ List.mem_append_left _ hq, replaced⟩

end Ancestry
end DualMode
