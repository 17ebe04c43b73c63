import DualMode.Proofs.Assignment
import DualMode.Proofs.Scene

/-! What the update rule of a hybrid decides when a value is assigned to an attribute that the
hybrid published. -/

namespace DualMode

variable {C : Callbacks}

namespace Scene

variable {s : Settings} {b : Behaviour C} {w u : Scene C} {h : Hybrid C} {e : Entity}
  {a : Attribute C.Update}

theorem Made.columns_eq (k : Made s b w h e a) : a.columns = e.columns := by
  obtain ⟨i, g, -, -, -, rfl⟩ := k
  rfl

theorem Made.path_eq (k : Made s b w h e a) : a.path = e.name ++ "." ++ h.key s e := by
  obtain ⟨i, g, -, -, -, rfl⟩ := k
  rfl

theorem Made.adapts (k : Made s b w h e a) : ∃ n, a.clauseElement s.adaptLimit = .ok n := by
  obtain ⟨i, g, -, -, ⟨n, element⟩, rfl⟩ := k
  exact ⟨n, (h.clauseElement_make ..).trans element⟩

theorem Made.builtin (k : Made s b w h e a) (plain : h.comparator = none) :
    ∃ c, a.comparator = .builtin e c h.about h.update := by
  obtain ⟨i, g, -, ⟨st, st', ran⟩, -, rfl⟩ := k
  obtain ⟨c, rfl⟩ := Hybrid.clause_of_answer plain ran
  exact ⟨c, rfl⟩

variable {memory : C.Memory} {rule : C.Update}

/-- An update rule on a computed expression has the last word, but for one thing. When it finds
no target, the value goes to the entity's column that the expression happens to be, and the fault
names this attribute whatever the rule's own fault named. -/
theorem assign_eq_rule_iff (reached : Steps s b (start memory) w)
    (access : Access s b h e (.ok a) w u) (plain : h.comparator = none)
    (ruled : h.update = some rule) (computed : a.expression.Computed) (value : Operand)
    (st : Store C) {r : Assigned} {st' : Store C}
    (ran : (b.update rule e value).run st = some (r, st')) :
    ∃ r', (a.assign s.adaptLimit b.update value).run st = some (r', st') ∧
      (r' = r ↔ ∀ t, r = .error (.ambiguousTarget t) →
        t = e.name ++ "." ++ h.key s e ∧
          ∀ c ∈ e.columns, a.clauseElement s.adaptLimit ≠ .ok c.node) := by
  have made : Made s b u h e a := access.made (reached.sound (start_sound memory))
  obtain ⟨n, element⟩ := made.adapts
  obtain ⟨clause, builtin⟩ := made.builtin plain
  have assigned : (a.comparator.assign s.adaptLimit b.update value).run st = some (r, st') := by
    rw [Attribute.expression, builtin, Comparator.expression] at computed
    rw [builtin, ruled, Comparator.assign_builtin_rule computed]
    exact ran
  refine ⟨a.settle s.adaptLimit value r, ?_, ?_⟩
  · rw [Attribute.run_assign, assigned, Option.map_some]
  · rw [Attribute.settle_eq_iff element, made.columns_eq, made.path_eq, element]
    simp only [ne_eq, Except.ok.injEq]

def constant : Callbacks where
  Value := Operand
  Getter := Operand
  Expression := Clause (Operand → Assigned)
  Comparator := Comparator (Operand → Assigned)
  Update := Operand → Assigned

def constantly : Behaviour constant where
  clause := .ofOperand
  get o _ := pure o
  set c := c.elim
  delete c := c.elim
  express c _ := pure c
  compare c _ := pure c
  update rule _ value := pure (rule value)
  call c := c.elim
  callExpress c := c.elim

def bare (name : String) (index : Nat) : Hybrid constant :=
  { about := { id := ⟨index⟩, name := name }, getter := .literal .null, cache := ⟨index + 1⟩ }

/-- The rule passes null on to another attribute, which finds no target. -/
def strict : Operand → Assigned
  | .literal .null => .error (.ambiguousTarget "Order.total")
  | value => .ok [(⟨"order", "net"⟩, value)]

def gross : Clause (Operand → Assigned) := .node (.column (some "order") "gross")

/-- The expression happens to be a column of the entity, but is given as a node. -/
def amount : Hybrid constant :=
  { bare "amount" 4 with expression := some gross, update := some strict }

def order : Blueprint :=
  { name := "Order", table := some "order", columns := ["net", "gross"],
    members := [("amount", ⟨4⟩)] }

def ordered : Scene constant :=
  { store := { fresh := 7, memory := () }
    entities := [order.declare ⟨6⟩]
    hybrids := [amount, { bare "amount" 2 with expression := some gross }, bare "amount" 0] }

theorem ordered_reached : Steps {} constantly (start ()) ordered :=
  .tail (.tail (.tail (.tail (.refl _) (.create rfl))
    (.rebind (c := .expression gross) List.mem_cons_self rfl))
    (.rebind (c := .update strict) List.mem_cons_self rfl))
    (.declare (p := order) nofun rfl)

def amountAttribute : Attribute (Operand → Assigned) :=
  amount.make {} (order.declare ⟨6⟩) ⟨7⟩ (.clause gross)

theorem amount_access : Access {} constantly amount (order.declare ⟨6⟩) (.ok amountAttribute)
    ordered (ordered.settled {} amount (order.declare ⟨6⟩) (.clause gross)) :=
  .miss List.mem_cons_self List.mem_cons_self rfl (.refl _) rfl
    (amount.run_resolve_of_none {} constantly _ _ rfl)

/-- What the rule makes of a value other than null is kept. -/
theorem assign_eq_rule_iff_amount :
    ∃ r, (amountAttribute.assign 16 constantly.update (.literal (.int 5))).run ordered.store =
      some (r, ordered.store) ∧ r = .ok [(⟨"order", "net"⟩, .literal (.int 5))] := by
  obtain ⟨r, ran, kept⟩ := assign_eq_rule_iff ordered_reached amount_access rfl rfl trivial
    (.literal (.int 5)) ordered.store rfl
  exact ⟨r, ran, kept.mpr nofun⟩

/-- Null finds no target by the rule, and all the same it is assigned to a column. -/
theorem amount_not_verbatim :
    Steps {} constantly (start ()) ordered ∧
      Access {} constantly amount (order.declare ⟨6⟩) (.ok amountAttribute) ordered
        (ordered.settled {} amount (order.declare ⟨6⟩) (.clause gross)) ∧
      amount.comparator = none ∧ amount.update = some strict ∧
      amountAttribute.expression.Computed ∧
      (constantly.update strict (order.declare ⟨6⟩) (.literal .null)).run ordered.store =
        some (.error (.ambiguousTarget "Order.total"), ordered.store) ∧
      (amountAttribute.assign 16 constantly.update (.literal .null)).run ordered.store =
        some (.ok [(⟨"order", "gross"⟩, .literal .null)], ordered.store) :=
  ⟨ordered_reached, amount_access, rfl, rfl, trivial, rfl, rfl⟩

/-- When a hybrid has an update rule that always knows a target, a value finds no target exactly
if the expression is none of the entity's columns and either the value was passed on to a wrapped
attribute, which found none, or a custom comparator took the place of the rule. -/
theorem refuses_ruled_iff (reached : Steps s b (start memory) w)
    (access : Access s b h e (.ok a) w u) (ruled : h.update = some rule) (value : Operand)
    (targeted : ∀ st r st', (b.update rule e value).run st = some (r, st') → ¬ Untargeted r)
    (defaults : h.comparator.isSome → a.comparator.DefaultAssign) (st : Store C) :
    a.Refuses s.adaptLimit b value st ↔
      (∀ c ∈ e.columns, a.clauseElement s.adaptLimit ≠ .ok c.node) ∧
        ((∃ inner, a.expression = .attr inner ∧ inner.Refuses s.adaptLimit b value st) ∨
          (h.comparator.isSome ∧ a.expression.Computed)) := by
  have made : Made s b u h e a := access.made (reached.sound (start_sound memory))
  obtain ⟨n, element⟩ := made.adapts
  rw [Attribute.refuses_iff element, made.columns_eq, element]
  simp only [ne_eq, Except.ok.injEq]
  refine and_congr_right fun _ => ?_
  cases custom : h.comparator with
  | none =>
    obtain ⟨clause, builtin⟩ := made.builtin custom
    rw [Attribute.expression, builtin, ruled, Comparator.refuses_builtin_iff targeted]
    simp [Comparator.expression]
  | some c =>
    rw [Comparator.refuses_default_iff (defaults (by simp [custom]))]
    simp [Attribute.expression]

def netOnly (value : Operand) : Assigned := .ok [(⟨"order", "net"⟩, value)]

theorem netOnly_targeted (e : Entity) (value : Operand) (st : Store constant) (r : Assigned)
    (st' : Store constant) (ran : (constantly.update netOnly e value).run st = some (r, st')) :
    ¬ Untargeted r := by
  obtain ⟨rfl, -⟩ := Prod.mk.inj (Option.some.inj ran)
  rintro ⟨_, ⟨⟩⟩

def doubled : Clause (Operand → Assigned) :=
  .node (.join (.op .mul) (.column (some "order") "net") (.int 2))

def silent : Comparator (Operand → Assigned) := .custom doubled {}

/-- The comparator takes the place of the rule. -/
def covered : Hybrid constant :=
  { bare "covered" 4 with comparator := some silent, update := some netOnly }

def double : Hybrid constant := { bare "double" 8 with expression := some doubled }

def sale : Blueprint :=
  { name := "Sale", table := some "order", columns := ["net"],
    members := [("covered", ⟨4⟩), ("double", ⟨8⟩)] }

def listed : Scene constant :=
  { store := { fresh := 11, memory := () }
    entities := [sale.declare ⟨10⟩]
    hybrids := [double, bare "double" 6, covered,
      { bare "covered" 2 with comparator := some silent }, bare "covered" 0] }

theorem listed_reached : Steps {} constantly (start ()) listed :=
  .tail (.tail (.tail (.tail (.tail (.tail (.refl _) (.create rfl))
    (.rebind (c := .comparator silent) List.mem_cons_self rfl))
    (.rebind (c := .update netOnly) List.mem_cons_self rfl)) (.create rfl))
    (.rebind (c := .expression doubled) List.mem_cons_self rfl))
    (.declare (p := sale) nofun rfl)

def coveredAttribute : Attribute (Operand → Assigned) :=
  covered.make {} (sale.declare ⟨10⟩) ⟨11⟩ (.comparator silent)

theorem covered_access : Access {} constantly covered (sale.declare ⟨10⟩) (.ok coveredAttribute)
    listed (listed.settled {} covered (sale.declare ⟨10⟩) (.comparator silent)) :=
  .miss (List.mem_of_mem_drop (i := 2) List.mem_cons_self) List.mem_cons_self rfl (.refl _) rfl
    (covered.run_resolve_of_none {} constantly _ _ rfl)

def doubleAttribute : Attribute (Operand → Assigned) :=
  double.make {} (sale.declare ⟨10⟩) ⟨11⟩ (.clause doubled)

def doubledOnce : Scene constant := listed.settled {} double (sale.declare ⟨10⟩) (.clause doubled)

theorem double_access : Access {} constantly double (sale.declare ⟨10⟩) (.ok doubleAttribute)
    listed doubledOnce :=
  .miss List.mem_cons_self List.mem_cons_self rfl (.refl _) rfl
    (double.run_resolve_of_none {} constantly _ _ rfl)

def wrapped : Clause (Operand → Assigned) := .attr doubleAttribute

/-- The rule gives way to the attribute that the expression is. -/
def wrapper : Hybrid constant :=
  { bare "wrapper" 16 with expression := some wrapped, update := some netOnly }

def resale : Blueprint :=
  { name := "Resale", parent := some (sale.declare ⟨10⟩), members := [("wrapper", ⟨16⟩)] }

def relisted : Scene constant :=
  { doubledOnce with
    store := { doubledOnce.store with fresh := 19 }
    entities := [resale.declare ⟨18⟩, sale.declare ⟨10⟩]
    hybrids := wrapper :: { bare "wrapper" 14 with expression := some wrapped } ::
      bare "wrapper" 12 :: listed.hybrids }

theorem relisted_reached : Steps {} constantly (start ()) relisted :=
  .tail (.tail (.tail (.tail (.tail listed_reached (.access double_access)) (.create rfl))
    (.rebind (c := .expression wrapped) List.mem_cons_self rfl))
    (.rebind (c := .update netOnly) List.mem_cons_self rfl))
    (.declare (p := resale) (by rintro _ ⟨⟩; exact List.mem_cons_self) rfl)

def wrapperAttribute : Attribute (Operand → Assigned) :=
  wrapper.make {} (resale.declare ⟨18⟩) ⟨19⟩ (.clause wrapped)

theorem wrapper_access : Access {} constantly wrapper (resale.declare ⟨18⟩) (.ok wrapperAttribute)
    relisted (relisted.settled {} wrapper (resale.declare ⟨18⟩) (.clause wrapped)) :=
  .miss List.mem_cons_self List.mem_cons_self rfl (.refl _) rfl
    (wrapper.run_resolve_of_none {} constantly _ _ rfl)

/-- A custom comparator or a wrapped attribute leaves a value without a target, although there
is an update rule that always knows one. -/
theorem ruled_yet_ambiguous :
    (Steps {} constantly (start ()) listed ∧
      Access {} constantly covered (sale.declare ⟨10⟩) (.ok coveredAttribute) listed
        (listed.settled {} covered (sale.declare ⟨10⟩) (.comparator silent)) ∧
      covered.update = some netOnly ∧ coveredAttribute.comparator.DefaultAssign ∧
      (coveredAttribute.assign 16 constantly.update (.literal (.int 5))).run listed.store =
        some (.error (.ambiguousTarget "Sale.covered"), listed.store)) ∧
    (Steps {} constantly (start ()) relisted ∧
      Access {} constantly wrapper (resale.declare ⟨18⟩) (.ok wrapperAttribute) relisted
        (relisted.settled {} wrapper (resale.declare ⟨18⟩) (.clause wrapped)) ∧
      wrapper.update = some netOnly ∧ wrapper.comparator = none ∧
      (wrapperAttribute.assign 16 constantly.update (.literal (.int 5))).run relisted.store =
        some (.error (.ambiguousTarget "Resale.wrapper"), relisted.store)) ∧
    ∀ e value st r st', (constantly.update netOnly e value).run st = some (r, st') →
      ¬ Untargeted r :=
  ⟨⟨listed_reached, covered_access, rfl, rfl, rfl⟩,
    ⟨relisted_reached, wrapper_access, rfl, rfl, rfl⟩, netOnly_targeted⟩

/-- The attribute that the wrapper wraps finds no target, and so neither does the wrapper. -/
theorem refuses_ruled_iff_wrapper :
    wrapperAttribute.Refuses 16 constantly (.literal (.int 5)) relisted.store :=
  (refuses_ruled_iff relisted_reached wrapper_access rfl (.literal (.int 5))
    (netOnly_targeted _ _) nofun relisted.store).mpr
    ⟨by rintro c - ⟨⟩, .inl ⟨doubleAttribute, rfl, _, _, rfl, _, rfl⟩⟩

end Scene
end DualMode
