import DualMode.Proofs.SetList

/-! What a sequence of calls makes of an update. The attributes are asked one after the other, and
the first that has no tuples ends it. Otherwise their tuples in one list decide: each column comes
where it was first given, with the value that was given last. Conditions have no part in this,
wherever they stand among the other calls. -/

namespace DualMode

variable {C : Callbacks}

namespace BulkUpdate

/-- The columns of an update come in the order in which they were first given, and each has the
value that it was given last. -/
structure LastWriter (given assigned : List Assignment) : Prop where
  columns : assignedColumns assigned = (assignedColumns given).eraseDups
  once : (assignedColumns assigned).Nodup
  values : ∀ c, assigned.lookup c = given.reverse.lookup c

theorem lastWriter_putAll (given : List Assignment) : LastWriter given (putAll [] given) where
  columns := Keyed.keys_putAll given
  once := by
    have none : (assignedColumns []).Nodup := List.nodup_nil
    exact nodup_putAll none given
  values := Keyed.lookup_putAll given

/-- A value for an attribute, and the store in which the attribute is asked for its tuples. -/
structure SetCall (C : Callbacks) where
  target : Queryable C.Update
  value : Operand
  store : Store C

def SetCall.answer (s : Settings) (b : Behaviour C) (x : SetCall C) : Option Assigned :=
  ((x.target.assign s.adaptLimit b.update x.value).run x.store).map (·.1)

inductive Call (C : Callbacks)
  | set (x : SetCall C) | filter (condition : Node)

/-- The calls one after the other. What happens to the store between two of them is left open. -/
def perform (s : Settings) (b : Behaviour C) :
    List (Call C) → BulkUpdate → Option (Except Fault BulkUpdate)
  | [], u => some (.ok u)
  | .set x :: rest, u =>
    match (u.set s b x.target x.value).run x.store with
    | none => none
    | some (.error f, _) => some (.error f)
    | some (.ok v, _) => perform s b rest v
  | .filter condition :: rest, u => perform s b rest (u.filter condition)

def setCalls : List (Call C) → List (SetCall C)
  | [] => []
  | .set x :: rest => x :: setCalls rest
  | .filter _ :: rest => setCalls rest

def conditions : List (Call C) → List Node
  | [] => []
  | .set _ :: rest => conditions rest
  | .filter condition :: rest => condition :: conditions rest

/-- All tuples in one list; the first attribute that has none decides. -/
def gather (s : Settings) (b : Behaviour C) : List (SetCall C) → Option Assigned
  | [] => some (.ok [])
  | x :: rest =>
    match x.answer s b with
    | some (.ok next) => (gather s b rest).map (·.map (next ++ ·))
    | r => r

def extend (u : BulkUpdate) (given : List Assignment) (filters : List Node) : BulkUpdate :=
  { u with assignments := putAll u.assignments given, filters := u.filters ++ filters }

variable {s : Settings} {b : Behaviour C}

theorem extend_nil (u : BulkUpdate) : u.extend [] [] = u := by
  simp [extend, putAll]

theorem extend_extend (u : BulkUpdate) (next given : List Assignment) (filters : List Node) :
    (u.extend next []).extend given filters = u.extend (next ++ given) filters := by
  simp [extend, putAll]

theorem filter_extend (u : BulkUpdate) (condition : Node) (given : List Assignment)
    (filters : List Node) :
    (u.filter condition).extend given filters = u.extend given (condition :: filters) := by
  simp [extend, filter]

theorem run_set_of_none {x : SetCall C} (endless : x.answer s b = none) (u : BulkUpdate) :
    (u.set s b x.target x.value).run x.store = none := by
  unfold set
  rw [StateT.run_bind, Option.map_eq_none_iff.mp endless]
  rfl

theorem run_set_of_error {x : SetCall C} {f : Fault} (refused : x.answer s b = some (.error f))
    (u : BulkUpdate) : ∃ st, (u.set s b x.target x.value).run x.store = some (.error f, st) := by
  obtain ⟨⟨_, st⟩, gave, rfl⟩ := Option.map_eq_some_iff.mp refused
  refine ⟨st, ?_⟩
  unfold set
  rw [StateT.run_bind, gave]
  rfl

theorem run_set_of_ok {x : SetCall C} {next : List Assignment}
    (gives : x.answer s b = some (.ok next)) (u : BulkUpdate) :
    ∃ st, (u.set s b x.target x.value).run x.store = some (.ok (u.extend next []), st) := by
  obtain ⟨⟨_, mid⟩, gave, rfl⟩ := Option.map_eq_some_iff.mp gives
  exact run_set_eq_ok_iff.mpr ⟨next, mid, gave, by simp [extend]⟩

/-- Conditions can wait, and the tuples can be put in at once. -/
theorem perform_eq (calls : List (Call C)) (u : BulkUpdate) :
    perform s b calls u =
      (gather s b (setCalls calls)).map (·.map fun given => u.extend given (conditions calls)) := by
  induction calls generalizing u with
  | nil => simp [perform, setCalls, conditions, gather, Except.map, extend_nil]
  | cons call rest ih =>
    cases call with
    | filter condition =>
      rw [perform, ih, setCalls, conditions]
      simp only [filter_extend]
    | set x =>
      rw [perform, setCalls, conditions, gather]
      cases answer : x.answer s b with
      | none => rw [run_set_of_none answer]; rfl
      | some r =>
        cases r with
        | error f =>
          obtain ⟨st, ran⟩ := run_set_of_error answer u
          rw [ran]
          rfl
        | ok next =>
          obtain ⟨st, ran⟩ := run_set_of_ok answer u
          rw [ran]
          simp only [ih, Option.map_map]
          congr 1
          funext r
          cases r with
          | error f => rfl
          | ok given => exact congrArg Except.ok (extend_extend u next given _)

theorem map_eq_ok_iff {α β : Type} {r : Option (Except Fault α)} {f : α → β} {y : β} :
    r.map (·.map f) = some (.ok y) ↔ ∃ x, r = some (.ok x) ∧ f x = y := by
  cases r with
  | none => simp
  | some r => cases r <;> simp [Except.map]

theorem map_eq_error_iff {α β : Type} {r : Option (Except Fault α)} {f : α → β} {fault : Fault} :
    r.map (·.map f) = some (.error fault) ↔ r = some (.error fault) := by
  cases r with
  | none => simp
  | some r => cases r <;> simp [Except.map]

theorem gather_eq_ok_iff {xs : List (SetCall C)} {given : List Assignment} :
    gather s b xs = some (.ok given) ↔
      ∃ lists, List.Forall₂ (fun x next => x.answer s b = some (.ok next)) xs lists ∧
        lists.flatten = given := by
  induction xs generalizing given with
  | nil => simp [gather, eq_comm]
  | cons x rest ih =>
    rw [gather]
    simp only [List.forall₂_cons_left_iff]
    constructor
    · intro gathered
      split at gathered
      next next answer =>
        obtain ⟨later, ended, rfl⟩ := map_eq_ok_iff.mp gathered
        obtain ⟨lists, answers, rfl⟩ := ih.mp ended
        exact ⟨next :: lists, ⟨next, lists, answer, answers, rfl⟩, rfl⟩
      next other => exact absurd gathered (other given)
    · rintro ⟨_, ⟨next, lists, answer, answers, rfl⟩, rfl⟩
      rw [answer]
      exact map_eq_ok_iff.mpr ⟨lists.flatten, ih.mpr ⟨lists, answers, rfl⟩, rfl⟩

theorem gather_eq_error_iff {xs : List (SetCall C)} {f : Fault} :
    gather s b xs = some (.error f) ↔
      ∃ before x after, xs = before ++ x :: after ∧
        (∀ y ∈ before, ∃ next, y.answer s b = some (.ok next)) ∧
        x.answer s b = some (.error f) := by
  induction xs with
  | nil => simp [gather]
  | cons x rest ih =>
    rw [gather]
    constructor
    · intro gathered
      split at gathered
      next next answer =>
        obtain ⟨before, y, after, rfl, earlier, refused⟩ := ih.mp (map_eq_error_iff.mp gathered)
        exact ⟨x :: before, y, after, rfl, List.forall_mem_cons.mpr ⟨⟨next, answer⟩, earlier⟩,
          refused⟩
      next => exact ⟨[], x, rest, rfl, nofun, gathered⟩
    · rintro ⟨before, y, after, split, earlier, refused⟩
      cases before with
      | nil =>
        obtain ⟨rfl, rfl⟩ := List.cons.inj split
        rw [refused]
      | cons z before =>
        obtain ⟨rfl, rfl⟩ := List.cons.inj split
        obtain ⟨⟨next, answer⟩, earlier⟩ := List.forall_mem_cons.mp earlier
        rw [answer]
        exact map_eq_error_iff.mpr (ih.mpr ⟨before, y, after, rfl, earlier, refused⟩)

theorem exists_gather_iff {xs : List (SetCall C)} :
    (∃ given, gather s b xs = some (.ok given)) ↔
      ∀ x ∈ xs, ∃ next, x.answer s b = some (.ok next) := by
  simp only [gather_eq_ok_iff, exists_comm, exists_and_left, exists_eq', and_true]
  induction xs with
  | nil => simp
  | cons x rest ih =>
    rw [List.forall_mem_cons, ← ih]
    simp only [List.forall₂_cons_left_iff]
    constructor
    · rintro ⟨_, next, lists, answer, answers, rfl⟩
      exact ⟨⟨next, answer⟩, lists, answers⟩
    · rintro ⟨⟨next, answer⟩, lists, answers⟩
      exact ⟨_, next, lists, answer, answers, rfl⟩

def joined? (conditions : List Node) : Option Node :=
  conditions.foldl (fun before next => some (before.elim next (.join (.op .and) · next))) none

theorem condition?_eq (u : BulkUpdate) : u.condition? = joined? u.filters := by
  unfold condition?
  cases u.filters with
  | nil => rfl
  | cons first rest =>
    have later : ∀ e, rest.foldl
        (fun before next => some (before.elim next (.join (.op .and) · next))) (some e) =
          some (rest.foldl (fun l r => .join (.op .and) l r) e) := by
      induction rest with
      | nil => exact fun _ => rfl
      | cons next rest ih => exact fun e => ih _
    exact (later first).symm

/-- A sequence of calls on a new update. It succeeds exactly if every attribute has tuples, and
ends with the first fault otherwise. Then the update is for its entity, the tuples of all
attributes in one list decide on the columns, their order and their values, and the conditions are
in the order of their calls. Where conditions stand among the other calls makes no difference. -/
theorem perform_calls (s : Settings) (b : Behaviour C) (e : Entity) (calls : List (Call C)) :
    ((∃ u, perform s b calls { entity := e } = some (.ok u)) ↔
      ∀ x ∈ setCalls calls, ∃ next, x.answer s b = some (.ok next)) ∧
    (∀ f, perform s b calls { entity := e } = some (.error f) ↔
      ∃ before x after, setCalls calls = before ++ x :: after ∧
        (∀ y ∈ before, ∃ next, y.answer s b = some (.ok next)) ∧
        x.answer s b = some (.error f)) ∧
    (∀ u, perform s b calls { entity := e } = some (.ok u) →
      u.entity = e ∧ u.filters = conditions calls ∧
      (∃ lists : List (List Assignment),
        List.Forall₂ (fun x next => x.answer s b = some (.ok next)) (setCalls calls) lists ∧
        LastWriter lists.flatten u.assignments) ∧
      u.statement = "UPDATE " ++ Sql.quoteName e.table ++ " SET " ++
        String.intercalate ", " (u.assignments.map fun a =>
          Sql.quoteName a.1.name ++ " = " ++ a.2.toNode.render) ++
        (joined? (conditions calls)).elim "" (" WHERE " ++ ·.render)) ∧
    ∀ others : List (Call C), setCalls others = setCalls calls →
      conditions others = conditions calls →
      perform s b others { entity := e } = perform s b calls { entity := e } := by
  refine ⟨?_, fun f => ?_, ?_, ?_⟩
  · simp only [perform_eq, map_eq_ok_iff]
    rw [← exists_gather_iff]
    exact ⟨fun ⟨_, given, gathered, _⟩ => ⟨given, gathered⟩,
      fun ⟨given, gathered⟩ => ⟨_, given, gathered, rfl⟩⟩
  · rw [perform_eq, map_eq_error_iff, gather_eq_error_iff]
  · intro u ran
    rw [perform_eq] at ran
    obtain ⟨given, gathered, rfl⟩ := map_eq_ok_iff.mp ran
    obtain ⟨lists, answers, rfl⟩ := gather_eq_ok_iff.mp gathered
    have filters : (extend { entity := e } lists.flatten (conditions calls)).filters =
        conditions calls := List.nil_append _
    refine ⟨rfl, filters, ⟨lists, answers, lastWriter_putAll _⟩, ?_⟩
    rw [statement, condition?_eq, filters]
    cases joined? (conditions calls) <;> rfl
  · intro others sets filters
    rw [perform_eq, perform_eq, sets, filters]

def positive (name : String) : Node := .join (.op .gt) (.column (some "order") name) (.int 0)

/-- Net twice, first by the rule of a hybrid, and conditions in between. -/
def repriced : List (Call Scene.constant) :=
  [.set ⟨.attr Scene.amountAttribute, .literal (.int 5), Scene.ordered.store⟩,
    .filter (positive "net"),
    .set ⟨.column ⟨"order", "gross"⟩, .literal (.int 6), Scene.ordered.store⟩,
    .set ⟨.column ⟨"order", "net"⟩, .literal (.int 7), Scene.ordered.store⟩,
    .filter (positive "gross")]

def repricedWhere : List (Call Scene.constant) :=
  (conditions repriced).map .filter ++ (setCalls repriced).map .set

theorem perform_calls_repriced :
    perform {} Scene.constantly repriced { entity := Scene.order.declare ⟨6⟩ } =
      some (.ok { reassignedNet with filters := [positive "net", positive "gross"] }) ∧
    perform {} Scene.constantly repricedWhere { entity := Scene.order.declare ⟨6⟩ } =
      some (.ok { reassignedNet with filters := [positive "net", positive "gross"] }) ∧
    ({ reassignedNet with filters := [positive "net", positive "gross"] } : BulkUpdate).statement =
      "UPDATE \"order\" SET \"net\" = 7, \"gross\" = 6 WHERE \"order\".\"net\" > 0 AND " ++
        "\"order\".\"gross\" > 0" := by
  obtain ⟨-, -, made, free⟩ :=
    perform_calls {} Scene.constantly (Scene.order.declare ⟨6⟩) repriced
  have ran : perform {} Scene.constantly repriced { entity := Scene.order.declare ⟨6⟩ } =
      some (.ok { reassignedNet with filters := [positive "net", positive "gross"] }) := rfl
  refine ⟨ran, (free repricedWhere rfl rfl).trans ran, (made _ ran).2.2.2.trans ?_⟩
  decide +kernel

end BulkUpdate
end DualMode
