import DualMode.Proofs.UpdateRule

/-! Where an assigned value goes when nothing but the defaults decides it. However many attributes
wrap one another, the value goes to the column that the outermost one reads, or nowhere. -/

namespace DualMode

variable {υ : Type} {C : Callbacks}

/-- It says neither what becomes of assigned values nor what its element is. -/
def Comparator.Default : Comparator υ → Prop
  | .builtin _ _ _ rule => rule = none
  | .custom _ o => o.element = none ∧ o.assign = none

theorem Comparator.Default.element?_eq_none {c : Comparator υ} (default : c.Default) :
    c.element? = none := by
  cases c with
  | builtin owner e hybrid rule => rfl
  | custom e o => exact default.1

/-- The attribute leaves everything to the defaults, and so does each one that it wraps. -/
inductive Attribute.DefaultThroughout : Attribute υ → Prop
  | intro {a : Attribute υ} (own : a.comparator.Default)
      (within : ∀ inner, a.expression = .attr inner → inner.DefaultThroughout) :
      a.DefaultThroughout

/-- What a comparator makes of an assigned value when its expression reduces to `element`. It
need not find the column, nor notice that there is no expression. -/
inductive Heeds (element : Except Fault Node) (value : Operand) : Assigned → Prop
  | column {c : Column} (reads : element = .ok c.node) : Heeds element value (.ok [(c, value)])
  | fault {f : Fault} (own : element = .error f) : Heeds element value (.error f)
  | untargeted (name : String) : Heeds element value (.error (.ambiguousTarget name))

theorem Column.assignIn_heeds (columns : List Column) (element : Except Fault Node)
    (value : Operand) (name : String) :
    Heeds element value (assignIn columns element value (.ambiguousTarget name)) := by
  cases element with
  | error f => exact .fault rfl
  | ok n =>
    obtain ⟨c, -, reads, assigned⟩ | ⟨-, refused⟩ :=
      assignIn_cases columns n value (.ambiguousTarget name)
    · rw [assigned]
      exact .column (by rw [reads])
    · rw [refused]
      exact .untargeted name

namespace Attribute

/-- The value goes to the column that the attribute reads and to no other. It always does when
that is a column of the owner, and otherwise a fault is the attribute's own. -/
structure Writes (limit : Nat) (a : Attribute υ) (value : Operand) (r : Assigned) : Prop where
  reads : ∀ as, r = .ok as → ∃ c, as = [(c, value)] ∧ a.clauseElement limit = .ok c.node
  own : ∀ c ∈ a.columns, a.clauseElement limit = .ok c.node → r = .ok [(c, value)]
  faults : ∀ f, r = .error f → a.clauseElement limit = .error f ∨
    (∃ n, a.clauseElement limit = .ok n) ∧ f = .ambiguousTarget a.path

variable {limit : Nat} {a : Attribute υ} {value : Operand} {r : Assigned}

theorem writes_column {c : Column} (reads : a.clauseElement limit = .ok c.node) :
    a.Writes limit value (.ok [(c, value)]) where
  reads := by
    rintro _ ⟨⟩
    exact ⟨c, rfl, reads⟩
  own := by
    intro d _ also
    rw [reads, Except.ok.injEq, Column.node_inj] at also
    rw [also]
  faults := nofun

theorem writes_fault {f : Fault} (own : a.clauseElement limit = .error f) :
    a.Writes limit value (.error f) where
  reads := nofun
  own := by
    intro c _ reads
    rw [own] at reads
    cases reads
  faults := by
    rintro _ ⟨⟩
    exact .inl own

theorem assignOwn_writes (limit : Nat) (a : Attribute υ) (value : Operand) :
    a.Writes limit value (a.assignOwn limit value) := by
  cases element : a.clauseElement limit with
  | error f =>
    rw [assignOwn, element]
    exact writes_fault element
  | ok n =>
    obtain ⟨c, -, rfl, assigned⟩ | ⟨foreign, refused⟩ := assignOwn_cases element value
    · rw [assigned]
      exact writes_column element
    · rw [refused]
      refine ⟨nofun, ?_, ?_⟩
      · intro c own reads
        rw [element, Except.ok.injEq] at reads
        exact absurd reads (foreign c own)
      · rintro _ ⟨⟩
        exact .inr ⟨⟨n, element⟩, rfl⟩

/-- Where the comparator found no column, the owner's columns decide. -/
theorem settle_writes (heeds : Heeds (a.clauseElement limit) value r) :
    a.Writes limit value (a.settle limit value r) := by
  by_cases untargeted : Untargeted r
  · obtain ⟨name, rfl⟩ := untargeted
    exact assignOwn_writes limit a value
  · rw [settle_of_targeted untargeted]
    cases heeds with
    | column reads => exact writes_column reads
    | fault own => exact writes_fault own
    | untargeted name => exact absurd ⟨name, rfl⟩ untargeted

/-- To a comparator that wraps the attribute, its name in a fault means nothing. -/
theorem Writes.heeds (writes : a.Writes limit value r) : Heeds (a.clauseElement limit) value r := by
  cases r with
  | ok as =>
    obtain ⟨c, rfl, reads⟩ := writes.reads as rfl
    exact .column reads
  | error f =>
    obtain own | ⟨-, rfl⟩ := writes.faults f rfl
    · exact .fault own
    · exact .untargeted a.path

end Attribute

theorem Comparator.assign_heeds {limit : Nat} {b : Behaviour C} {value : Operand}
    {c : Comparator C.Update} (default : c.Default)
    (within : ∀ inner, c.expression = .attr inner →
      ∃ r, inner.assign limit b.update value = pure r ∧ inner.Writes limit value r) :
    ∃ r, c.assign limit b.update value = pure r ∧ Heeds (c.clauseElement limit) value r := by
  rw [clauseElement_of_none default.element?_eq_none]
  cases c with
  | builtin owner clause hybrid rule =>
    obtain rfl : rule = none := default
    obtain ⟨k, rfl⟩ | ⟨inner, rfl⟩ | computed := clause.column_or_attr_or_computed
    · exact ⟨_, rfl, .column rfl⟩
    · obtain ⟨r, assigned, writes⟩ := within inner rfl
      exact ⟨r, assigned, writes.heeds⟩
    · refine ⟨_, assign_builtin_computed computed owner hybrid, ?_⟩
      exact Column.assignIn_heeds ..
  | custom clause o =>
    have plain : o.assign = none := default.2
    obtain ⟨k, rfl⟩ | ⟨inner, rfl⟩ | computed := clause.column_or_attr_or_computed
    · refine ⟨.ok [(k, value)], ?_, .column rfl⟩
      simp only [assign, plain]
    · obtain ⟨r, assigned, writes⟩ := within inner rfl
      refine ⟨r, ?_, writes.heeds⟩
      simp only [assign, plain, assigned]
    · exact ⟨_, assign_default_computed computed plain, .untargeted _⟩

namespace Attribute

/-- Assigning to an attribute asks no callback and changes nothing, and what it gives is the
column that the attribute reads. -/
theorem assign_writes (limit : Nat) (b : Behaviour C) {a : Attribute C.Update}
    (defaults : a.DefaultThroughout) (value : Operand) :
    ∃ r, a.assign limit b.update value = pure r ∧ a.Writes limit value r := by
  -- from the innermost attribute outwards
  induction defaults with
  | @intro a own within ih =>
    obtain ⟨r, assigned, heeds⟩ := Comparator.assign_heeds own ih
    refine ⟨a.settle limit value r, ?_, settle_writes ?_⟩
    · rw [assign_eq, assigned, map_pure]
    · rw [clauseElement_eq]
      exact heeds

def aliasedGross : Attribute (Operand → Assigned) :=
  .mk ⟨7⟩ (Scene.order.declare ⟨6⟩) (some "o") "gross" { id := ⟨4⟩, name := "gross" }
    (.custom (.node (.column (some "o") "gross")) {})

def aliasedAmount : Attribute (Operand → Assigned) :=
  .mk ⟨8⟩ (Scene.order.declare ⟨6⟩) (some "o") "amount" { id := ⟨5⟩, name := "amount" }
    (.custom (.attr aliasedGross) {})

theorem aliasedAmount_defaults : aliasedAmount.DefaultThroughout := by
  refine .intro ⟨rfl, rfl⟩ ?_
  rintro inner ⟨⟩
  exact .intro ⟨rfl, rfl⟩ nofun

/-- The value goes to the aliased column two attributes further in. -/
theorem assign_writes_aliasedAmount : aliasedAmount.DefaultThroughout ∧
    aliasedAmount.assign 16 Scene.constantly.update (.literal (.int 5)) =
      pure (.ok [(⟨"o", "gross"⟩, .literal (.int 5))]) := by
  refine ⟨aliasedAmount_defaults, ?_⟩
  obtain ⟨r, assigned, writes⟩ :=
    assign_writes 16 Scene.constantly aliasedAmount_defaults (.literal (.int 5))
  have owned : (⟨"o", "gross"⟩ : Column) ∈ aliasedAmount.columns := by decide
  rw [assigned, writes.own _ owned rfl]

end Attribute
end DualMode
