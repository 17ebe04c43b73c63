import DualMode.BulkUpdate
import DualMode.Proofs.Keyed
import DualMode.Proofs.UpdateRule

/-! The SET list of a bulk update. A column that is assigned again takes its old place, and columns
are told apart by table and name. The statement leaves the tables out, so that a name stands in it
twice as soon as two tables, or a table and its alias, come in under it. -/

namespace DualMode

variable {C : Callbacks}

namespace BulkUpdate

def assignedColumns (assigned : List Assignment) : List Column := assigned.map (·.1)

def setNames (u : BulkUpdate) : List String := u.assignments.map (·.1.name)

theorem nodup_putAll {assigned : List Assignment} (distinct : (assignedColumns assigned).Nodup)
    (next : List Assignment) : (assignedColumns (putAll assigned next)).Nodup :=
  Keyed.nodup_putAll distinct next

theorem mem_assignedColumns_putAll {assigned next : List Assignment} {c : Column} :
    c ∈ assignedColumns (putAll assigned next) ↔
      c ∈ assignedColumns assigned ∨ c ∈ assignedColumns next := Keyed.mem_keys_putAll

theorem run_forM_remark (columns : List Column) (st : Store C) :
    ∃ st', (forM columns fun c => (remark (.reassigned c) : Run C Unit)).run st =
      some ((), st') := by
  induction columns generalizing st with
  | nil => exact ⟨st, rfl⟩
  | cons c rest ih =>
    obtain ⟨st', ran⟩ := ih { st with remarks := .reassigned c :: st.remarks }
    exact ⟨st', by simp [StateT.run_bind, ran]⟩

theorem run_set_eq_ok_iff {s : Settings} {b : Behaviour C} {u v : BulkUpdate}
    {q : Queryable C.Update} {value : Operand} {st : Store C} :
    (∃ st', (u.set s b q value).run st = some (.ok v, st')) ↔
      ∃ next mid, (q.assign s.adaptLimit b.update value).run st = some (.ok next, mid) ∧
        v = { u with assignments := putAll u.assignments next } := by
  unfold set
  rw [StateT.run_bind]
  cases gave : (q.assign s.adaptLimit b.update value).run st with
  | none => simp
  | some p =>
    obtain ⟨r, mid⟩ := p
    cases r with
    | error f => simp
    | ok next =>
      obtain ⟨st', ran⟩ := run_forM_remark (reassigned u.assignments next) mid
      simp [ran, eq_comm]

/-- The updates that calls make one after the other, with all tuples that the attributes gave so
far. What happens to the store between two calls is left open. -/
inductive Built (s : Settings) (b : Behaviour C) (e : Entity) : List Assignment → BulkUpdate → Prop
  | new : Built s b e [] { entity := e }
  | set (q : Queryable C.Update) (value : Operand) (st : Store C) {given : List Assignment}
      (next : List Assignment) {u v : BulkUpdate} {mid st' : Store C} (before : Built s b e given u)
      (gave : (q.assign s.adaptLimit b.update value).run st = some (.ok next, mid))
      (ran : (u.set s b q value).run st = some (.ok v, st')) : Built s b e (given ++ next) v
  | filter {given : List Assignment} {u : BulkUpdate} (condition : Node)
      (before : Built s b e given u) : Built s b e given (u.filter condition)

variable {s : Settings} {b : Behaviour C} {e : Entity} {given : List Assignment} {u : BulkUpdate}

theorem Built.nodup_columns (built : Built s b e given u) :
    (assignedColumns u.assignments).Nodup := by
  induction built with
  | new => exact List.nodup_nil
  | set q value st next before gave ran ih =>
    obtain ⟨tuples, mid, -, rfl⟩ := run_set_eq_ok_iff.mp ⟨_, ran⟩
    exact nodup_putAll ih tuples
  | filter condition before ih => exact ih

theorem Built.mem_columns_iff (built : Built s b e given u) {c : Column} :
    c ∈ assignedColumns u.assignments ↔ c ∈ assignedColumns given := by
  induction built with
  | new => rfl
  | set q value st next before gave ran ih =>
    obtain ⟨tuples, mid, gave', rfl⟩ := run_set_eq_ok_iff.mp ⟨_, ran⟩
    obtain ⟨⟨⟩, -⟩ := Prod.mk.inj (Option.some.inj (gave.symm.trans gave'))
    simp only [mem_assignedColumns_putAll, ih]
    simp [assignedColumns]
  | filter condition before ih => exact ih

theorem nodup_names_iff {columns : List Column} (distinct : columns.Nodup) :
    (columns.map (·.name)).Nodup ↔
      ∀ c ∈ columns, ∀ d ∈ columns, c.name = d.name → c.table = d.table := by
  rw [List.nodup_map_iff_inj_on distinct]
  refine forall₄_congr fun c _ d _ => forall_congr' fun name => ?_
  refine ⟨congrArg Column.table, fun table => ?_⟩
  cases c; cases d
  exact congr (congrArg Column.mk table) name

/-- No column stands in the SET list twice. A name does exactly if the attributes gave columns of
that name in two tables. -/
theorem nodup_setNames_iff (built : Built s b e given u) :
    (assignedColumns u.assignments).Nodup ∧
      (u.setNames.Nodup ↔
        ∀ x ∈ given, ∀ y ∈ given, x.1.name = y.1.name → x.1.table = y.1.table) := by
  have distinct := built.nodup_columns
  have names : u.setNames = (assignedColumns u.assignments).map (·.name) := by
    simp [setNames, assignedColumns]
  refine ⟨distinct, ?_⟩
  rw [names, nodup_names_iff distinct]
  simp only [built.mem_columns_iff]
  simp only [assignedColumns, List.forall_mem_map]

/-- Net twice, first by the rule of a hybrid and then as a column, and gross in between. -/
def reassignedNet : BulkUpdate :=
  { entity := Scene.order.declare ⟨6⟩
    assignments :=
      [(⟨"order", "net"⟩, .literal (.int 7)), (⟨"order", "gross"⟩, .literal (.int 6))] }

theorem reassignedNet_built : Built {} Scene.constantly (Scene.order.declare ⟨6⟩)
    [(⟨"order", "net"⟩, .literal (.int 5)), (⟨"order", "gross"⟩, .literal (.int 6)),
      (⟨"order", "net"⟩, .literal (.int 7))] reassignedNet :=
  .set (.column ⟨"order", "net"⟩) (.literal (.int 7)) Scene.ordered.store _
    (.set (.column ⟨"order", "gross"⟩) (.literal (.int 6)) Scene.ordered.store _
      (.set (.attr Scene.amountAttribute) (.literal (.int 5)) Scene.ordered.store
        [(⟨"order", "net"⟩, .literal (.int 5))] .new rfl rfl) rfl rfl) rfl rfl

theorem nodup_setNames_iff_reassignedNet :
    Built {} Scene.constantly (Scene.order.declare ⟨6⟩)
      [(⟨"order", "net"⟩, .literal (.int 5)), (⟨"order", "gross"⟩, .literal (.int 6)),
        (⟨"order", "net"⟩, .literal (.int 7))] reassignedNet ∧ reassignedNet.setNames.Nodup := by
  refine ⟨reassignedNet_built, (nodup_setNames_iff reassignedNet_built).2.mpr ?_⟩
  simp

def interval : Blueprint :=
  { name := "Interval", table := some "interval", columns := ["start", "end"] }

def aliasedEnd : BulkUpdate :=
  { entity := interval.declare ⟨0⟩
    assignments := [(⟨"interval", "end"⟩, .literal (.int 1)), (⟨"i2", "end"⟩, .literal (.int 2))] }

/-- The column is assigned twice, and the statement says so. -/
theorem aliasedEnd_twice :
    Built {} Scene.constantly (interval.declare ⟨0⟩)
      [(⟨"interval", "end"⟩, .literal (.int 1)), (⟨"i2", "end"⟩, .literal (.int 2))] aliasedEnd ∧
    (⟨"i2", "end"⟩ : Column) = (⟨"interval", "end"⟩ : Column).requalified "i2" ∧
    ¬ aliasedEnd.setNames.Nodup ∧
    aliasedEnd.statement = "UPDATE \"interval\" SET \"end\" = 1, \"end\" = 2" := by
  refine ⟨?_, rfl, by decide, by decide +kernel⟩
  exact .set (.column ⟨"i2", "end"⟩) (.literal (.int 2)) { memory := () } _
    (.set (.column ⟨"interval", "end"⟩) (.literal (.int 1)) { memory := () } _
      .new rfl rfl) rfl rfl

end BulkUpdate
end DualMode
