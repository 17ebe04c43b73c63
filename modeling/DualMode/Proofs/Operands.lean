import DualMode.Proofs.Interchange

/-! Operators and their operands. Which node an operator builds is said for each operator, and what
an attribute answers is said in terms of what its two sides adapt to: the first fault from left to
right, else a wrong number of operands, else that node. -/

namespace DualMode

variable {υ : Type}

namespace Operator

def Takes : Operator → Nat → Prop
  | binary _, n => n = 1
  | not, n | isNull, n | isNotNull, n => n = 0
  | between, n | notBetween, n => n = 2
  | isIn, n | notIn, n => 1 ≤ n

def TwoSided (op : Operator) : Prop := (∃ o, op = binary o) ∨ op = isIn ∨ op = notIn

theorem takes_one_iff {op : Operator} : op.Takes 1 ↔ op.TwoSided := by
  cases op <;> simp [Takes, TwoSided]

/-- The node of the operator over a left side and right-hand operands. -/
inductive Builds : Operator → Node → List Node → Node → Prop
  | binary (o : BinaryOp) (l r : Node) : Builds (.binary o) l [r] (.join (.op o) l r)
  | not (e : Node) : Builds .not e [] (.not e)
  | isNull (e : Node) : Builds .isNull e [] (.join .is e .null)
  | isNotNull (e : Node) : Builds .isNotNull e [] (.join .isNot e .null)
  | between (e low high : Node) :
      Builds .between e [low, high] (.join .between e (.join (.op .and) low high))
  | notBetween (e low high : Node) :
      Builds .notBetween e [low, high] (.join .notBetween e (.join (.op .and) low high))
  | isIn (e : Node) {items : List Node} (given : items ≠ []) :
      Builds .isIn e items (.join .isIn e (.tuple items))
  | notIn (e : Node) {items : List Node} (given : items ≠ []) :
      Builds .notIn e items (.join .notIn e (.tuple items))

variable {op : Operator} {l n : Node} {rs : List Node}

theorem Builds.takes (builds : op.Builds l rs n) : op.Takes rs.length := by
  cases builds with
  | isIn e given | notIn e given => exact List.length_pos_of_ne_nil given
  | _ => rfl

theorem exists_builds (takes : op.Takes rs.length) (l : Node) : ∃ n, op.Builds l rs n := by
  cases op with
  | binary o =>
    obtain ⟨r, rfl⟩ := List.length_eq_one_iff.1 takes
    exact ⟨_, .binary o l r⟩
  | not =>
    obtain rfl := List.eq_nil_of_length_eq_zero takes
    exact ⟨_, .not l⟩
  | isNull =>
    obtain rfl := List.eq_nil_of_length_eq_zero takes
    exact ⟨_, .isNull l⟩
  | isNotNull =>
    obtain rfl := List.eq_nil_of_length_eq_zero takes
    exact ⟨_, .isNotNull l⟩
  | between =>
    obtain ⟨low, high, rfl⟩ := List.length_eq_two.1 takes
    exact ⟨_, .between l low high⟩
  | notBetween =>
    obtain ⟨low, high, rfl⟩ := List.length_eq_two.1 takes
    exact ⟨_, .notBetween l low high⟩
  | isIn => exact ⟨_, .isIn l (List.ne_nil_of_length_pos takes)⟩
  | notIn => exact ⟨_, .notIn l (List.ne_nil_of_length_pos takes)⟩

theorem apply_of_builds (builds : op.Builds l rs n) : op.apply l rs = .ok n := by
  cases builds with
  | isIn e given | notIn e given =>
    obtain ⟨r, rest, rfl⟩ := List.exists_cons_of_ne_nil given
    rfl
  | _ => rfl

theorem apply_of_not_takes (refused : ¬ op.Takes rs.length) (l : Node) :
    op.apply l rs = .error (.operandCount op.text op.arity rs.length) := by
  unfold apply
  split
  -- the last row is the refusal, every other one has the right number of operands
  case h_9 => rfl
  all_goals exact absurd (by simp [Takes]) refused

/-- What comes of an operator on sides that may have failed to adapt. -/
inductive Answers (op : Operator) :
    Except Fault Node → List (Except Fault Node) → Except Fault Node → Prop
  | element (f : Fault) (operands : List (Except Fault Node)) :
      op.Answers (.error f) operands (.error f)
  | operand (l : Node) (before : List Node) (f : Fault) (after : List (Except Fault Node)) :
      op.Answers (.ok l) (before.map .ok ++ .error f :: after) (.error f)
  | count (l : Node) (rs : List Node) (refused : ¬ op.Takes rs.length) :
      op.Answers (.ok l) (rs.map .ok) (.error (.operandCount op.text op.arity rs.length))
  | node (l : Node) (rs : List Node) {n : Node} (builds : op.Builds l rs n) :
      op.Answers (.ok l) (rs.map .ok) (.ok n)

/-- The operator on its sides, one after the other from the left. -/
def onSides (op : Operator) (element : Except Fault Node) (operands : List (Except Fault Node)) :
    Except Fault Node := do
  let l ← element
  let rs ← operands.mapM id
  op.apply l rs

theorem mapM_id_ok (rs : List Node) :
    (rs.map .ok : List (Except Fault Node)).mapM id = .ok rs := by
  induction rs with
  | nil => rfl
  | cons r rs ih =>
    rw [List.map_cons, List.mapM_cons, ih]
    rfl

theorem mapM_id_error (before : List Node) (f : Fault) (after : List (Except Fault Node)) :
    (before.map .ok ++ .error f :: after : List (Except Fault Node)).mapM id = .error f := by
  induction before with
  | nil => rw [List.map_nil, List.nil_append, List.mapM_cons]; rfl
  | cons r before ih =>
    rw [List.map_cons, List.cons_append, List.mapM_cons, ih]
    rfl

theorem sides_cases (operands : List (Except Fault Node)) :
    (∃ rs : List Node, operands = rs.map .ok) ∨
      ∃ (before : List Node) (f : Fault) (after : List (Except Fault Node)),
        operands = before.map .ok ++ .error f :: after := by
  induction operands with
  | nil => exact .inl ⟨[], rfl⟩
  | cons side operands ih =>
    cases side with
    | error f => exact .inr ⟨[], f, operands, rfl⟩
    | ok r =>
      obtain ⟨rs, rfl⟩ | ⟨before, f, after, rfl⟩ := ih
      · exact .inl ⟨r :: rs, rfl⟩
      · exact .inr ⟨r :: before, f, after, rfl⟩

theorem onSides_ok (op : Operator) (l : Node) (rs : List Node) :
    op.onSides (.ok l) (rs.map .ok) = op.apply l rs := by
  unfold onSides
  rw [mapM_id_ok]
  rfl

theorem onSides_error (op : Operator) (l : Node) (before : List Node) (f : Fault)
    (after : List (Except Fault Node)) :
    op.onSides (.ok l) (before.map .ok ++ .error f :: after) = .error f := by
  unfold onSides
  rw [mapM_id_error]
  rfl

theorem answers_onSides (op : Operator) (element : Except Fault Node)
    (operands : List (Except Fault Node)) :
    op.Answers element operands (op.onSides element operands) := by
  cases element with
  | error f => exact .element f operands
  | ok l =>
    obtain ⟨rs, rfl⟩ | ⟨before, f, after, rfl⟩ := sides_cases operands
    · rw [onSides_ok]
      by_cases takes : op.Takes rs.length
      · obtain ⟨n, builds⟩ := exists_builds takes l
        rw [apply_of_builds builds]
        exact .node l rs builds
      · rw [apply_of_not_takes takes]
        exact .count l rs takes
    · rw [onSides_error]
      exact .operand l before f after

theorem onSides_eq_iff {element r : Except Fault Node} {operands : List (Except Fault Node)} :
    op.onSides element operands = r ↔ op.Answers element operands r := by
  constructor
  · rintro rfl
    exact answers_onSides op element operands
  · intro answers
    cases answers with
    | element f operands => rfl
    | operand l before f after => exact onSides_error op l before f after
    | count l rs refused => exact (onSides_ok op l rs).trans (apply_of_not_takes refused l)
    | node l rs builds => exact (onSides_ok op l rs).trans (apply_of_builds builds)

theorem exists_onSides_iff {element : Except Fault Node} {operands : List (Except Fault Node)} :
    (∃ n, op.onSides element operands = .ok n) ↔
      (∃ l, element = .ok l) ∧ (∀ side ∈ operands, ∃ r, side = .ok r) ∧
        op.Takes operands.length := by
  constructor
  · rintro ⟨n, given⟩
    cases onSides_eq_iff.1 given with
    | node l rs builds =>
      refine ⟨⟨l, rfl⟩, ?_, by simpa using builds.takes⟩
      intro side member
      obtain ⟨r, -, rfl⟩ := List.mem_map.1 member
      exact ⟨r, rfl⟩
  · rintro ⟨⟨l, rfl⟩, adapted, takes⟩
    obtain ⟨rs, rfl⟩ | ⟨before, f, after, rfl⟩ := sides_cases operands
    · rw [List.length_map] at takes
      obtain ⟨n, builds⟩ := exists_builds takes l
      exact ⟨n, onSides_eq_iff.2 (.node l rs builds)⟩
    · obtain ⟨r, ⟨⟩⟩ := adapted (.error f) (by simp)

end Operator

theorem Clause.adaptAll_eq (limit : Nat) (cs : List (Clause υ)) :
    adaptAll limit cs = (cs.map (·.adapt limit)).mapM id := by
  induction cs with
  | nil => rfl
  | cons c cs ih =>
    rw [List.map_cons, List.mapM_cons, ← ih, adaptAll]
    cases c.adapt limit with
    | error f => rfl
    | ok e => cases adaptAll limit cs <;> rfl

/-- Operators take the two sides as they are; what the clause element is may be anything. -/
structure Comparator.Standard (c : Comparator υ) : Prop where
  applies : c.applies = Operator.apply
  appliesRight : c.appliesRight = fun op l r => op.apply l [r]

namespace Comparator

variable {c : Comparator υ}

theorem Plain.standard (plain : c.Plain) : c.Standard := ⟨plain.applies_eq, plain.appliesRight_eq⟩

theorem Standard.operate_eq (standard : c.Standard) (limit : Nat) (op : Operator)
    (others : List (Clause υ)) :
    c.operate limit op others =
      op.onSides (c.clauseElement limit) (others.map (·.adapt limit)) := by
  unfold operate Operator.onSides
  rw [standard.applies, ← Clause.adaptAll_eq]
  cases c.clauseElement limit with
  | error f => rfl
  | ok l => cases Clause.adaptAll limit others <;> rfl

theorem Standard.reverse_eq (standard : c.Standard) (limit : Nat) (op : Operator)
    (other : Clause υ) :
    c.reverse limit op other = op.onSides (other.adapt limit) [c.clauseElement limit] := by
  unfold reverse
  rw [standard.appliesRight]
  cases other.adapt limit with
  | error f => rfl
  | ok l => cases c.clauseElement limit <;> rfl

end Comparator

namespace Queryable

/-- A mapped column, or an attribute whose comparator leaves the operators as they are. -/
def Standard : Queryable υ → Prop
  | column _ => True
  | attr a => a.comparator.Standard

variable {q : Queryable υ}

theorem Standard.operate_eq (standard : q.Standard) (limit : Nat) (op : Operator)
    (others : List (Clause υ)) :
    q.operate limit op others =
      op.onSides (q.clauseElement limit) (others.map (·.adapt limit)) := by
  cases q with
  | column c =>
    unfold operate Operator.onSides
    rw [← Clause.adaptAll_eq]
    cases Clause.adaptAll limit others <;> rfl
  | attr a =>
    rw [clauseElement, Attribute.clauseElement_eq]
    exact Comparator.Standard.operate_eq standard limit op others

theorem Standard.reverse_eq (standard : q.Standard) (limit : Nat) (op : Operator)
    (other : Clause υ) :
    q.reverse limit op other = op.onSides (other.adapt limit) [q.clauseElement limit] := by
  cases q with
  | column c =>
    unfold reverse
    cases other.adapt limit <;> rfl
  | attr a =>
    rw [clauseElement, Attribute.clauseElement_eq]
    exact Comparator.Standard.reverse_eq standard limit op other

/-- An operator gives the first fault of its sides from left to right, else it refuses a wrong
number of operands, else it gives its node. It goes through on the right operands and on no
others, with the attribute on the right for an operator of two sides only. -/
theorem operate_answers (standard : q.Standard) (limit : Nat) (op : Operator) :
    (∀ others r, q.operate limit op others = r ↔
      op.Answers (q.clauseElement limit) (others.map (·.adapt limit)) r) ∧
    (∀ others, (∃ n, q.operate limit op others = .ok n) ↔
      (∃ l, q.clauseElement limit = .ok l) ∧ (∀ k ∈ others, ∃ r, k.adapt limit = .ok r) ∧
        op.Takes others.length) ∧
    (∀ other r, q.reverse limit op other = r ↔
      op.Answers (other.adapt limit) [q.clauseElement limit] r) ∧
    ∀ other, (∃ n, q.reverse limit op other = .ok n) ↔
      (∃ l, other.adapt limit = .ok l) ∧ (∃ r, q.clauseElement limit = .ok r) ∧ op.TwoSided := by
  refine ⟨?_, ?_, ?_, ?_⟩
  · intro others r
    rw [standard.operate_eq]
    exact Operator.onSides_eq_iff
  · intro others
    rw [standard.operate_eq, Operator.exists_onSides_iff]
    simp
  · intro other r
    rw [standard.reverse_eq]
    exact Operator.onSides_eq_iff
  · intro other
    rw [standard.reverse_eq, Operator.exists_onSides_iff, ← Operator.takes_one_iff]
    simp

/-- A fault of an operand comes before the wrong number of them, and an attribute on the right is
one operand. -/
theorem operate_answers_shownThrice : (attr Attribute.shownThrice).Standard ∧
    (attr Attribute.shownThrice).operate 16 .between
        [.literal (.int 1), .attr Attribute.shownAgain, .literal (.int 3)] =
      .error (.operandCount "BETWEEN" 2 3) ∧
    (attr Attribute.shownThrice).operate 16 .between
        [.literal (.int 1), .extract (.yields "bound" (.literal .null)), .literal (.int 3)] =
      .error (.literalFrom .null "bound") ∧
    (attr Attribute.shownThrice).reverse 16 .not (.literal (.int 5)) =
      .error (.operandCount "NOT" 0 1) ∧
    (attr Attribute.shownThrice).reverse 16 .notIn (.literal (.int 5)) =
      .ok (.join .notIn (.int 5) (.tuple [.column (some "order") "net"])) := by
  have standard : (attr Attribute.shownThrice).Standard :=
    Attribute.shownThrice_exposes.plain.standard
  let net : Node := .column (some "order") "net"
  obtain ⟨applied, -, -, -⟩ := operate_answers standard 16 .between
  obtain ⟨-, -, negated, -⟩ := operate_answers standard 16 .not
  obtain ⟨-, -, excluded, -⟩ := operate_answers standard 16 .notIn
  refine ⟨standard, (applied _ _).2 ?_, (applied _ _).2 ?_, (negated _ _).2 ?_,
    (excluded _ _).2 ?_⟩
  · exact .count net [.int 1, net, .int 3] (by simp [Operator.Takes])
  · exact .operand net [.int 1] _ [.ok (.int 3)]
  · exact .count (.int 5) [net] (by simp [Operator.Takes])
  · exact .node (.int 5) [net] (.notIn (.int 5) (List.cons_ne_nil net []))

end Queryable
end DualMode
