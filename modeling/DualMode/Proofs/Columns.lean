import DualMode.Entity.Declare
import DualMode.Entity.Field
import Mathlib.Data.List.Find
import Mathlib.Data.List.Nodup

/-! The columns of an entity, listed and looked up. Both go through the lineage, and both take the
first column of a name: the one that the most derived entity with this name declared. -/

namespace DualMode

namespace Entity

/-! Columns without those whose name stood before. -/

theorem distinctNames_filter (name : String) (cs : List Column) :
    distinctNames (cs.filter (·.name != name)) = (distinctNames cs).filter (·.name != name) := by
  induction cs with
  | nil => rfl
  | cons c rest ih =>
    by_cases same : c.name = name
    · simp [distinctNames, same, ih]
    · have kept : (c.name != name) = true := by simpa using same
      rw [List.filter_cons, if_pos kept, distinctNames, ih, distinctNames, List.filter_cons,
        if_pos kept, List.filter_comm]

/-- The names come in the order in which they first stand. -/
theorem map_name_distinctNames (cs : List Column) :
    (distinctNames cs).map (·.name) = (cs.map (·.name)).eraseDups := by
  match cs with
  | [] => rfl
  | c :: rest =>
    -- the other names are those of a shorter list, but not of a tail
    have others := map_name_distinctNames (rest.filter (·.name != c.name))
    rw [distinctNames_filter] at others
    rw [distinctNames, List.map_cons, List.map_cons, List.eraseDups_cons, others, List.filter_map]
    rfl
termination_by cs.length
decreasing_by exact Nat.lt_succ_of_le (List.length_filter_le ..)

theorem nodup_distinctNames (cs : List Column) : ((distinctNames cs).map (·.name)).Nodup := by
  induction cs with
  | nil => exact List.nodup_nil
  | cons c rest ih =>
    rw [distinctNames, List.map_cons, List.nodup_cons]
    exact ⟨by simp, ih.sublist (List.filter_sublist.map _)⟩

theorem find?_distinctNames (name : String) (cs : List Column) :
    (distinctNames cs).find? (·.name == name) = cs.find? (·.name == name) := by
  induction cs with
  | nil => rfl
  | cons c rest ih =>
    rw [distinctNames, List.find?_cons, List.find?_cons, ← ih]
    cases found : c.name == name with
    | true => rfl
    | false =>
      have other : c.name ≠ name := by simpa using found
      rw [List.find?_filter]
      refine List.find?_congr fun d _ => ?_
      by_cases own : d.name = name
      · simp [own, other.symm]
      · simp [own]

def keepNew (seen : List Column) (c : Column) : List Column :=
  if seen.any (·.name == c.name) then seen else seen ++ [c]

/-- What is kept from some columns, when others are there already. -/
theorem foldl_keepNew (seen cs : List Column) :
    cs.foldl keepNew seen =
      seen ++ (distinctNames cs).filter fun c => !seen.any (·.name == c.name) := by
  induction cs generalizing seen with
  | nil => simp [distinctNames]
  | cons c rest ih =>
    rw [List.foldl_cons, ih, distinctNames, List.filter_cons, List.filter_filter]
    cases known : seen.any (·.name == c.name) with
    | true =>
      -- what is left out for the sake of this column is left out anyway
      simp only [keepNew, known, Bool.not_true, Bool.false_eq_true, if_true, if_false]
      refine congrArg (seen ++ ·) (List.filter_congr fun d _ => ?_)
      by_cases same : d.name = c.name
      · simp [same, known]
      · simp [same]
    | false =>
      simp only [keepNew, known, Bool.not_false, Bool.false_eq_true, if_true, if_false,
        List.append_assoc, List.singleton_append]
      refine congrArg (seen ++ c :: ·) (List.filter_congr fun d _ => ?_)
      simp [bne, Bool.beq_comm]

theorem columns_eq_foldl (e : Entity) : e.columns = e.columnsInLineage.foldl keepNew [] := by
  simp [columns, foldl_keepNew]

theorem column?_eq_some_iff {e : Entity} {name : String} {c : Column} :
    e.column? name = some c ↔ c ∈ e.columns ∧ c.name = name := by
  have listed : e.column? name = e.columns.find? (·.name == name) :=
    (find?_distinctNames name e.columnsInLineage).symm
  constructor
  · intro found
    rw [listed] at found
    exact ⟨List.mem_of_find?_eq_some found, by simpa using List.find?_some found⟩
  · rintro ⟨known, rfl⟩
    rw [listed]
    cases found : e.columns.find? (·.name == c.name) with
    | none => exact absurd (beq_self_eq_true c.name) (List.find?_eq_none.mp found c known)
    | some d =>
      have same : d.name = c.name := by simpa using List.find?_some found
      have distinct := List.inj_on_of_nodup_map (nodup_distinctNames e.columnsInLineage)
      rw [distinct (List.mem_of_find?_eq_some found) known same]

end Entity

/-- The entity is declared by the first of these blueprints, its parent by the next one, and so on
up to one without a parent. -/
inductive Ancestry : List Blueprint → Entity → Prop
  | root {p : Blueprint} (id : EntityId) (top : p.parent = none) : Ancestry [p] (p.declare id)
  | derived {p : Blueprint} {ps : List Blueprint} {q : Entity} (id : EntityId)
      (parent : p.parent = some q) (above : Ancestry ps q) : Ancestry (p :: ps) (p.declare id)

namespace Blueprint

variable {p : Blueprint} {id : EntityId} {name : String}

theorem columnsInLineage_declare (p : Blueprint) (id : EntityId) :
    (p.declare id).columnsInLineage =
      p.columns.map (Column.mk p.tableName) ++ p.parent.elim [] Entity.columnsInLineage := by
  unfold Entity.columnsInLineage declare
  cases p.parent with
  | none => simp [Entity.lineage]
  | some q => simp [Entity.lineage]

theorem column?_declare_of_mem (declared : name ∈ p.columns) :
    (p.declare id).column? name = some ⟨p.tableName, name⟩ := by
  let own := p.columns.map (Column.mk p.tableName)
  have known : (⟨p.tableName, name⟩ : Column) ∈ own := List.mem_map_of_mem declared
  have found : (own.find? (·.name == name)).isSome :=
    List.find?_isSome.mpr ⟨_, known, beq_self_eq_true name⟩
  obtain ⟨c, first⟩ := Option.isSome_iff_exists.mp found
  obtain ⟨n, -, rfl⟩ := List.mem_map.mp (List.mem_of_find?_eq_some first)
  obtain rfl : n = name := by simpa using List.find?_some first
  rw [Entity.column?, columnsInLineage_declare, List.find?_append, first, Option.some_or]

theorem column?_declare_of_not_mem (inherited : name ∉ p.columns) :
    (p.declare id).column? name = p.parent.bind (·.column? name) := by
  have none : (p.columns.map (Column.mk p.tableName)).find? (·.name == name) = none := by
    rw [List.find?_eq_none, List.forall_mem_map]
    intro n declared same
    obtain rfl : n = name := by simpa using same
    exact inherited declared
  rw [Entity.column?, columnsInLineage_declare, List.find?_append, none, Option.none_or]
  cases p.parent with
  | none => rfl
  | some q => rfl

/-- A column that is found was declared here, or it is the parent's. -/
theorem column?_declare_cases {c : Column} (found : (p.declare id).column? name = some c) :
    (name ∈ p.columns ∧ c = ⟨p.tableName, name⟩) ∨
      (name ∉ p.columns ∧ ∃ q, p.parent = some q ∧ q.column? name = some c) := by
  by_cases declared : name ∈ p.columns
  · rw [column?_declare_of_mem declared] at found
    exact .inl ⟨declared, (Option.some.inj found).symm⟩
  · rw [column?_declare_of_not_mem declared] at found
    exact .inr ⟨declared, Option.bind_eq_some_iff.mp found⟩

end Blueprint

namespace Ancestry

variable {ps : List Blueprint} {e : Entity}

theorem map_name_columns (k : Ancestry ps e) :
    e.columns.map (·.name) = (ps.flatMap (·.columns)).eraseDups := by
  have names : e.columnsInLineage.map (·.name) = ps.flatMap (·.columns) := by
    induction k with
    | root id top => simp [Blueprint.columnsInLineage_declare, top, Function.comp_def]
    | derived id parent above ih =>
      simp [Blueprint.columnsInLineage_declare, parent, ih, Function.comp_def]
  rw [Entity.columns, Entity.map_name_distinctNames, names]

/-- A column has the table of the first entity of the lineage that declared it. -/
theorem exists_declaring (k : Ancestry ps e) {name : String} {c : Column}
    (found : e.column? name = some c) :
    ∃ above p below d, ps = above ++ p :: below ∧ (∀ q ∈ above, name ∉ q.columns) ∧
      name ∈ p.columns ∧ e.lineage[above.length]? = some d ∧ c = ⟨d.table, name⟩ := by
  induction k with
  | @root p id top =>
    obtain ⟨declared, rfl⟩ | ⟨-, q, parent, -⟩ := Blueprint.column?_declare_cases found
    · exact ⟨[], p, [], _, rfl, nofun, declared, rfl, rfl⟩
    · cases top.symm.trans parent
  | @derived p ps q id parent above ih =>
    obtain ⟨declared, rfl⟩ | ⟨inherited, q', same, found⟩ := Blueprint.column?_declare_cases found
    · exact ⟨[], p, ps, _, rfl, nofun, declared, rfl, rfl⟩
    · obtain rfl := Option.some.inj (parent.symm.trans same)
      obtain ⟨between, r, below, d, rfl, none, first, place, rfl⟩ := ih found
      refine ⟨p :: between, r, below, d, rfl, List.forall_mem_cons.mpr ⟨inherited, none⟩, first, ?_,
        rfl⟩
      rw [Entity.lineage_parent ((Blueprint.parent_declare p id).trans parent)]
      exact place

theorem ne_nil (k : Ancestry ps e) : ps ≠ [] := by
  cases k <;> exact List.cons_ne_nil _ _

/-- Where only the root may name a table, all columns have that of the entity. -/
theorem table_eq (k : Ancestry ps e) (single : ∀ p ∈ ps.dropLast, p.table = none) {name : String}
    {c : Column} (found : e.column? name = some c) : c.table = e.table := by
  induction k with
  | @root p id top =>
    obtain ⟨-, rfl⟩ | ⟨-, q, parent, -⟩ := Blueprint.column?_declare_cases found
    · rfl
    · cases top.symm.trans parent
  | @derived p ps q id parent above ih =>
    rw [List.dropLast_cons_of_ne_nil above.ne_nil, List.forall_mem_cons] at single
    obtain ⟨unnamed, single⟩ := single
    obtain ⟨-, rfl⟩ | ⟨-, q', same, found⟩ := Blueprint.column?_declare_cases found
    · rfl
    · obtain rfl := Option.some.inj (parent.symm.trans same)
      have shared : p.tableName = q.table := by rw [Blueprint.tableName, unnamed, parent]
      exact (ih single found).trans shared.symm

/-- The list of columns, gathered one by one, and the look-up of one agree. The names are distinct
and come in the order in which they were first declared, most derived entity first. A look-up finds
the listed column of that name, which has the table of the most derived entity that declared it; as
long as only the root names a table, that is the entity's own. Requiring a column fails exactly if
there is none, and an alias has the same columns under its own name. -/
theorem columns_agree (k : Ancestry ps e) :
    e.columns = e.columnsInLineage.foldl Entity.keepNew [] ∧
    (e.columns.map (·.name)).Nodup ∧
    e.columns.map (·.name) = (ps.flatMap (·.columns)).eraseDups ∧
    (∀ name c, e.column? name = some c ↔ c ∈ e.columns ∧ c.name = name) ∧
    (∀ name c, e.column? name = some c →
      ∃ above p below d, ps = above ++ p :: below ∧ (∀ q ∈ above, name ∉ q.columns) ∧
        name ∈ p.columns ∧ e.lineage[above.length]? = some d ∧ c = ⟨d.table, name⟩) ∧
    ((∀ p ∈ ps.dropLast, p.table = none) → ∀ c ∈ e.columns, c.table = e.table) ∧
    (∀ name, (∀ c, e.requireColumn name = .ok c ↔ e.column? name = some c) ∧
      ∀ f, e.requireColumn name = .error f ↔
        e.column? name = none ∧ f = .unknownColumn e.name name) ∧
    ∀ on name, ((⟨e, on⟩ : Aliased).column? name = none ↔ e.column? name = none) ∧
      ∀ c, e.column? name = some c → (⟨e, on⟩ : Aliased).column? name = some ⟨on, c.name⟩ := by
  refine ⟨Entity.columns_eq_foldl e, Entity.nodup_distinctNames _, k.map_name_columns,
    fun _ _ => Entity.column?_eq_some_iff, fun _ _ => k.exists_declaring, ?_, ?_, ?_⟩
  · intro single c listed
    exact k.table_eq single (Entity.column?_eq_some_iff.mpr ⟨listed, rfl⟩)
  · intro name
    unfold Entity.requireColumn
    cases e.column? name with
    | none => simp [eq_comm]
    | some c => simp
  · intro on name
    unfold Aliased.column?
    cases found : e.column? name with
    | none => simp
    | some c => simp [Column.requalified]

def person : Blueprint :=
  { name := "Person", table := some "person", columns := ["id", "name", "id"] }

def employee : Blueprint :=
  { name := "Employee", parent := some (person.declare ⟨0⟩), columns := ["grade", "name"] }

def manager : Blueprint :=
  { name := "Manager", table := some "manager", parent := some (employee.declare ⟨1⟩)
    columns := ["grade"] }

theorem manager_ancestry : Ancestry [manager, employee, person] (manager.declare ⟨2⟩) :=
  .derived _ rfl (.derived _ rfl (.root _ rfl))

theorem columns_agree_manager :
    Ancestry [manager, employee, person] (manager.declare ⟨2⟩) ∧
      (manager.declare ⟨2⟩).columns.map (·.name) = ["grade", "name", "id"] ∧
      (manager.declare ⟨2⟩).column? "grade" = some ⟨"manager", "grade"⟩ ∧
      (⟨manager.declare ⟨2⟩, "m"⟩ : Aliased).column? "name" = some ⟨"m", "name"⟩ ∧
      (manager.declare ⟨2⟩).requireColumn "wage" = .error (.unknownColumn "Manager" "wage") ∧
      ∀ c ∈ (employee.declare ⟨1⟩).columns, c.table = "person" := by
  obtain ⟨-, -, names, looked, -, -, required, aliased⟩ := columns_agree manager_ancestry
  obtain ⟨-, -, -, -, -, single, -⟩ := columns_agree (.derived ⟨1⟩ rfl (.root ⟨0⟩ rfl) :
    Ancestry [employee, person] (employee.declare ⟨1⟩))
  refine ⟨manager_ancestry, names.trans (by decide), (looked _ _).mpr ⟨by decide, rfl⟩, ?_, ?_, ?_⟩
  · exact (aliased "m" "name").2 ⟨"person", "name"⟩ ((looked _ _).mpr ⟨by decide, rfl⟩)
  · exact ((required "wage").2 _).mpr ⟨by decide, rfl⟩
  · exact single (by decide)

end Ancestry

end DualMode
