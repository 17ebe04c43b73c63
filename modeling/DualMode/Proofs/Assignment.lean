import DualMode.Store

/-! Assigning a value to an attribute. The comparator passes it on or finds no target; in the
latter case the attribute itself tries the columns of its owner. -/

namespace DualMode

variable {υ : Type} {C : Callbacks}

/-- Neither a column nor an attribute, so that there is nothing to pass a value on to. -/
def Clause.Computed : Clause υ → Prop
  | .column _ | .attr _ => False
  | .node _ | .literal _ | .extract _ => True

theorem Clause.column_or_attr_or_computed (c : Clause υ) :
    (∃ k, c = .column k) ∨ (∃ a, c = .attr a) ∨ c.Computed := by
  cases c with
  | column k => exact .inl ⟨k, rfl⟩
  | attr a => exact .inr (.inl ⟨a, rfl⟩)
  | node n => exact .inr (.inr trivial)
  | literal l => exact .inr (.inr trivial)
  | extract s => exact .inr (.inr trivial)

/-- A custom comparator that does not say what becomes of assigned values. -/
def Comparator.DefaultAssign : Comparator υ → Prop
  | .builtin .. => False
  | .custom _ o => o.assign = none

/-- No target was found for a value. -/
def Untargeted (r : Assigned) : Prop := ∃ t, r = .error (.ambiguousTarget t)

/-- The assignment to the comparator ends, and it ends without a target. -/
def Comparator.Refuses (limit : Nat) (b : Behaviour C) (value : Operand) (st : Store C)
    (c : Comparator C.Update) : Prop :=
  ∃ r st', (c.assign limit b.update value).run st = some (r, st') ∧ Untargeted r

theorem Column.assignIn_cases (columns : List Column) (n : Node) (value : Operand)
    (otherwise : Fault) :
    (∃ c ∈ columns, n = c.node ∧ assignIn columns (.ok n) value otherwise = .ok [(c, value)]) ∨
      ((∀ c ∈ columns, n ≠ c.node) ∧
        assignIn columns (.ok n) value otherwise = .error otherwise) := by
  unfold assignIn
  cases found : columns.find? (n.isColumn ·) with
  | some c =>
    have own : n.isColumn c = true := by simpa using List.find?_some found
    exact .inl ⟨c, List.mem_of_find?_eq_some found, (Node.isColumn_iff c n).mp own,
      by simp only [found]⟩
  | none =>
    refine .inr ⟨fun c hc same => ?_, by simp only [found]⟩
    exact List.find?_eq_none.mp found c hc ((Node.isColumn_iff c n).mpr same)

namespace Attribute

variable {limit : Nat} {a : Attribute υ} {n : Node} {value : Operand} {r : Assigned}

theorem assignOwn_cases (element : a.clauseElement limit = .ok n) (value : Operand) :
    (∃ c ∈ a.columns, n = c.node ∧ a.assignOwn limit value = .ok [(c, value)]) ∨
      ((∀ c ∈ a.columns, n ≠ c.node) ∧
        a.assignOwn limit value = .error (.ambiguousTarget a.path)) := by
  unfold assignOwn
  rw [element]
  exact Column.assignIn_cases ..

theorem settle_of_targeted (targeted : ¬ Untargeted r) : a.settle limit value r = r := by
  unfold settle
  split
  · exact absurd ⟨_, rfl⟩ targeted
  · rfl

/-- A result is kept unless it is that there is no target. That one is kept only if it names
this attribute and the attribute is none of the columns. -/
theorem settle_eq_iff (element : a.clauseElement limit = .ok n) :
    a.settle limit value r = r ↔
      ∀ t, r = .error (.ambiguousTarget t) → t = a.path ∧ ∀ c ∈ a.columns, n ≠ c.node := by
  by_cases untargeted : Untargeted r
  · obtain ⟨t, rfl⟩ := untargeted
    obtain ⟨c, hc, own, assigned⟩ | ⟨none, refused⟩ := assignOwn_cases element value
    · simp only [settle, assigned]
      exact ⟨nofun, fun h => absurd own ((h t rfl).2 c hc)⟩
    · simp only [settle, refused, Except.error.injEq, Fault.ambiguousTarget.injEq]
      exact ⟨fun h u hu => ⟨hu.symm.trans h.symm, none⟩, fun h => (h t rfl).1.symm⟩
  · exact ⟨fun _ t h => absurd ⟨t, h⟩ untargeted, fun _ => settle_of_targeted untargeted⟩

theorem untargeted_settle_iff (element : a.clauseElement limit = .ok n) :
    Untargeted (a.settle limit value r) ↔ (∀ c ∈ a.columns, n ≠ c.node) ∧ Untargeted r := by
  by_cases untargeted : Untargeted r
  · obtain ⟨t, rfl⟩ := untargeted
    obtain ⟨c, hc, own, assigned⟩ | ⟨none, refused⟩ := assignOwn_cases element value
    · simp only [settle, assigned]
      exact ⟨nofun, fun h => absurd own (h.1 c hc)⟩
    · simp only [settle, refused]
      exact ⟨fun _ => ⟨none, t, rfl⟩, fun _ => ⟨_, rfl⟩⟩
  · rw [settle_of_targeted untargeted]
    exact ⟨fun h => absurd h untargeted, fun h => h.2⟩

def Refuses (limit : Nat) (b : Behaviour C) (value : Operand) (st : Store C)
    (a : Attribute C.Update) : Prop :=
  ∃ r st', (a.assign limit b.update value).run st = some (r, st') ∧ Untargeted r

variable {b : Behaviour C} {st : Store C}

theorem assign_eq (a : Attribute C.Update) :
    a.assign limit b.update value =
      a.settle limit value <$> a.comparator.assign limit b.update value := by
  cases a with
  | mk id owner aliasName key hybrid c => rw [assign]; rfl

theorem run_assign (a : Attribute C.Update) :
    (a.assign limit b.update value).run st =
      ((a.comparator.assign limit b.update value).run st).map fun p =>
        (a.settle limit value p.1, p.2) := by
  rw [assign_eq, StateT.run_map]
  rfl

theorem refuses_iff {a : Attribute C.Update} (element : a.clauseElement limit = .ok n) :
    a.Refuses limit b value st ↔
      (∀ c ∈ a.columns, n ≠ c.node) ∧ a.comparator.Refuses limit b value st := by
  unfold Refuses Comparator.Refuses
  rw [run_assign]
  simp only [Option.map_eq_some_iff]
  constructor
  · rintro ⟨_, _, ⟨⟨r, st'⟩, ran, ⟨⟩⟩, untargeted⟩
    obtain ⟨foreign, untargeted⟩ := (untargeted_settle_iff element).mp untargeted
    exact ⟨foreign, r, st', ran, untargeted⟩
  · rintro ⟨foreign, r, st', ran, untargeted⟩
    exact ⟨_, _, ⟨_, ran, rfl⟩, (untargeted_settle_iff element).mpr ⟨foreign, untargeted⟩⟩

end Attribute

namespace Comparator

variable {limit : Nat} {b : Behaviour C} {value : Operand} {st : Store C}

theorem assign_builtin_rule {clause : Clause C.Update} (computed : clause.Computed) (e : Entity)
    (hybrid : Meta) (rule : C.Update) :
    (builtin e clause hybrid (some rule)).assign limit b.update value = b.update rule e value := by
  cases clause with
  | column c => exact computed.elim
  | attr a => exact computed.elim
  | node n => rfl
  | literal l => rfl
  | extract s => rfl

theorem assign_builtin_computed {clause : Clause C.Update} (computed : clause.Computed)
    (e : Entity) (hybrid : Meta) :
    (builtin e clause hybrid none).assign limit b.update value =
      pure (Column.assignIn e.columns (clause.adapt limit) value
        (.ambiguousTarget (e.name ++ "." ++ hybrid.name))) := by
  cases clause with
  | column c => exact computed.elim
  | attr a => exact computed.elim
  | node n => rfl
  | literal l => rfl
  | extract s => rfl

theorem assign_default_computed {clause : Clause C.Update} (computed : clause.Computed)
    {o : Overrides} (plain : o.assign = none) :
    (custom clause o).assign limit b.update value =
      pure (.error (.ambiguousTarget clause.inspect)) := by
  cases clause with
  | column c => exact computed.elim
  | attr a => exact computed.elim
  | node n => simp only [assign, plain]
  | literal l => simp only [assign, plain]
  | extract s => simp only [assign, plain]

/-- With a rule that always knows a target, only a wrapped attribute may refuse. -/
theorem refuses_builtin_iff {rule : C.Update} {e : Entity}
    (targeted : ∀ st r st', (b.update rule e value).run st = some (r, st') → ¬ Untargeted r)
    (clause : Clause C.Update) (hybrid : Meta) :
    (builtin e clause hybrid (some rule)).Refuses limit b value st ↔
      ∃ inner, clause = .attr inner ∧ inner.Refuses limit b value st := by
  obtain ⟨c, rfl⟩ | ⟨inner, rfl⟩ | computed := clause.column_or_attr_or_computed
  · refine ⟨?_, nofun⟩
    rintro ⟨_, _, ⟨⟩, t, untargeted⟩
    cases untargeted
  · refine ⟨fun h => ⟨inner, rfl, h⟩, ?_⟩
    rintro ⟨_, ⟨⟩, refuses⟩
    exact refuses
  · constructor
    · rintro ⟨r, st', ran, untargeted⟩
      rw [assign_builtin_rule computed] at ran
      exact absurd untargeted (targeted st r st' ran)
    · rintro ⟨inner, rfl, -⟩
      exact computed.elim

theorem refuses_default_iff {c : Comparator C.Update} (defaults : c.DefaultAssign) :
    c.Refuses limit b value st ↔
      (∃ inner, c.expression = .attr inner ∧ inner.Refuses limit b value st) ∨
        c.expression.Computed := by
  cases c with
  | builtin _ _ _ _ => exact defaults.elim
  | custom clause o =>
    have plain : o.assign = none := defaults
    unfold Refuses expression
    obtain ⟨c, rfl⟩ | ⟨inner, rfl⟩ | computed := clause.column_or_attr_or_computed
    · simp only [assign, plain]
      refine ⟨?_, nofun⟩
      rintro ⟨_, _, ⟨⟩, t, untargeted⟩
      cases untargeted
    · simp only [assign, plain]
      refine ⟨fun h => .inl ⟨inner, rfl, h⟩, ?_⟩
      rintro (⟨_, ⟨⟩, refuses⟩ | computed)
      · exact refuses
      · exact computed.elim
    · rw [assign_default_computed computed plain]
      exact ⟨fun _ => .inr computed, fun _ => ⟨_, _, rfl, _, rfl⟩⟩

end Comparator

end DualMode
