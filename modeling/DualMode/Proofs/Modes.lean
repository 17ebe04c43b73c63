import DualMode.Proofs.Formula
import DualMode.Proofs.Resolution
import DualMode.Proofs.Yields

/-! Bodies of getters and methods that combine fields and constants by operators. On an entity
such a body gives an expression, on a record a plain value, and the expression means that value
once every column has the value of the field of its name. -/

namespace DualMode

theorem Entity.name_of_column? {e : Entity} {name : String} {c : Column}
    (h : e.column? name = some c) : c.name = name := by
  simpa using List.find?_some h

/-- A field of an entity stands for the value of that name, whether or not it is mapped. -/
theorem Entity.meaning_field (e : Entity) (value : String → Literal) (name : String) :
    (e.field name).toNode.meaning value = some (value name) := by
  unfold Entity.field
  cases h : e.column? name with
  | none => simp [Operand.toNode, Node.meaning]
  | some c => simp [Operand.toNode, name_of_column? h]

theorem Clause.adapt_ofOperand {υ : Type} (limit : Nat) (o : Operand) :
    (ofOperand o : Clause υ).adapt limit = .ok o.toNode := by
  cases o <;> rfl

/-- What a body starts from: a field of its receiver, or a constant. -/
inductive Leaf
  | field (name : String) | constant (l : Literal)

namespace Leaf

def read (fields : String → Operand) : Leaf → Operand
  | field name => fields name
  | constant l => .literal l

def value (values : String → Literal) : Leaf → Literal
  | field name => values name
  | constant l => l

theorem read_literal (values : String → Literal) (a : Leaf) :
    a.read (fun name => .literal (values name)) = .literal (a.value values) := by
  cases a <;> rfl

theorem meaning_read (e : Entity) (values : String → Literal) (a : Leaf) :
    (a.read e.field).toNode.meaning values = some (a.value values) := by
  cases a with
  | field name => exact e.meaning_field values name
  | constant l => exact Node.meaning_literal values l

end Leaf

abbrev Body := Formula Leaf

variable {C : Callbacks}

/-- Operands are among the values of the callbacks, and stand for themselves in an operator. -/
def Behaviour.Holds (b : Behaviour C) (value : Operand → C.Value) : Prop :=
  ∀ o, b.clause (value o) = .ofOperand o

namespace Body

def read (body : Body) (fields : String → Operand) : Operand :=
  (body.map (·.read fields)).operand

def value (body : Body) (values : String → Literal) : Literal :=
  (body.map (·.value values)).result

/-- The callback does what the body says; what it notes in the store is left open. -/
def Describes (body : Body) (value : Operand → C.Value) (callback : Receiver → Run C C.Value) :
    Prop :=
  ∀ this, Yields (callback this) (value (body.read this.field))

theorem read_literal (body : Body) (values : String → Literal) :
    body.read (fun name => .literal (values name)) = .literal (body.value values) := by
  simpa only [read, value, Leaf.read_literal] using Formula.operand_literal body (·.value values)

theorem Describes.onRecord {body : Body} {value : Operand → C.Value}
    {callback : Receiver → Run C C.Value} (described : body.Describes value callback)
    (r : Record) : Yields (callback (.record r)) (value (.literal (body.value r.get))) := by
  rw [← body.read_literal]
  exact described (.record r)

theorem meaning_read (body : Body) (e : Entity) (values : String → Literal) :
    (body.read e.field).toNode.meaning values = some (body.value values) :=
  Formula.meaning_operand (Leaf.meaning_read e values) body

def term : Body → Script.Term
  | .leaf (.field name) => .field name
  | .leaf (.constant l) => .literal l
  | .join op l r => .binary op (term l) (term r)

theorem yields_term (w : Script.World) {s : Script.Scope} (this : Receiver)
    (h : s.place = .ofReceiver this) (body : Body) :
    Yields (body.term.eval w s).run (.ok (body.read this.field)) := by
  induction body with
  | leaf a =>
    cases a with
    | field name =>
      rw [term, Script.Term.eval, h]
      exact Script.yields_field w this name
    | constant l => exact Script.yields_pure _
  | join op l r ihl ihr =>
    rw [term, Script.Term.eval]
    exact Script.yields_bind ihl (Script.yields_bind ihr (Script.yields_combine op _ _))

/-- A getter whose script is the body does what the body says, in every world. -/
theorem describes_script (w : Script.World) (body : Body) (name : String) (token : Nat) :
    body.Describes (C := Script.scripted) id
      ((Script.behaviourIn w).get (⟨name, token, body.term⟩ : Script.Callback Script.Term)) :=
  fun this => (Script.yields_event _).bind
    (Script.yields_operandOr (body.yields_term w this rfl))

end Body

theorem Hybrid.build_of_describes (s : Settings) {b : Behaviour C} {value : Operand → C.Value}
    (held : b.Holds value) {body : Body} {h : Hybrid C}
    (described : body.Describes value (b.get h.getter)) (bare : h.comparator = none)
    (plain : h.expression = none) (e : Entity) (st : Store C) :
    ∃ a st', (h.build s b e).run st = some (.ok a, st') ∧
      a.clauseElement s.adaptLimit = .ok (body.read e.field).toNode := by
  obtain ⟨u, hu⟩ := described (.entity e) st
  have answered : (h.asked.answer b e).run st =
      some (.clause (.ofOperand (body.read e.field)), u) := by
    simp only [asked, bare, plain, Asked.answer, StateT.run_map, hu]
    exact congrArg (fun c => some (Given.clause c, u)) (held _)
  have element : (h.wrap e (.clause (.ofOperand (body.read e.field)))).clauseElement
      s.adaptLimit = .ok (body.read e.field).toNode :=
    Clause.adapt_ofOperand s.adaptLimit _
  refine ⟨h.make s e ⟨u.fresh⟩ _, h.noted s e u, ?_, (clauseElement_make ..).trans element⟩
  rw [run_build, answered, Option.map_some, finish, element]

theorem Method.callOn_of_describes (s : Settings) {b : Behaviour C} {value : Operand → C.Value}
    (held : b.Holds value) {body : Body} {f : Method C} {args : C.Args}
    (described : body.Describes value fun this => b.call f.body this args)
    (plain : f.expression = none) (e : Entity) :
    Yields (f.callOn s b e args) (.ok (body.read e.field).toNode) := by
  have adapted : (b.clause (value (body.read e.field))).adapt s.adaptLimit =
      .ok (body.read e.field).toNode := by
    rw [held, Clause.adapt_ofOperand]
  unfold callOn
  simp only [plain]
  rw [← adapted]
  refine (described (.entity e)).bind ((Yields.pure _).bind ?_)
  exact (Yields.remark _).bind (Yields.pure _)

/-- Both modes agree: the node of a body on an entity means, for any values of the fields, the
plain value of the body on a record with those values. This holds of the body itself, of every
hybrid whose getter it describes, and of every method. -/
theorem expression_means_value (s : Settings) (b : Behaviour C) {value : Operand → C.Value}
    (held : b.Holds value) (body : Body) (e : Entity) :
    ∃ n : Node,
      (Clause.ofOperand (body.read e.field) : Clause C.Update).adapt s.adaptLimit = .ok n ∧
      (∀ values : String → Literal, ∃ v,
        body.read (fun name => .literal (values name)) = .literal v ∧
          n.meaning values = some v) ∧
      (∀ h : Hybrid C, body.Describes value (b.get h.getter) →
        (∀ r : Record, ∃ v,
          Yields (h.value b r) (value (.literal v)) ∧ n.meaning r.get = some v) ∧
        (h.comparator = none → h.expression = none → ∀ st, ∃ a st',
          (h.build s b e).run st = some (.ok a, st') ∧
            a.clauseElement s.adaptLimit = .ok n)) ∧
      ∀ (f : Method C) (args : C.Args),
        (body.Describes value fun this => b.call f.body this args) →
        (∀ r : Record, ∃ v,
          Yields (f.call b r args) (value (.literal v)) ∧ n.meaning r.get = some v) ∧
        (f.expression = none → Yields (f.callOn s b e args) (.ok n)) := by
  refine ⟨(body.read e.field).toNode, Clause.adapt_ofOperand _ _, ?_, ?_, ?_⟩
  · intro values
    exact ⟨body.value values, body.read_literal values, body.meaning_read e values⟩
  · intro h described
    refine ⟨fun r => ⟨_, described.onRecord r, body.meaning_read e r.get⟩, ?_⟩
    intro bare plain st
    exact h.build_of_describes s held described bare plain e st
  · intro f args described
    refine ⟨fun r => ⟨_, described.onRecord r, body.meaning_read e r.get⟩, ?_⟩
    intro plain
    exact f.callOn_of_describes s held described plain e

/-- A whole number beyond 64 bits is lost on the way, and the loss is noticed in the end. -/
def overdrawn : Body :=
  .join .eq
    (.join .sub (.leaf (.field "balance"))
      (.join .add (.leaf (.constant (.int Int64.maxValue))) (.leaf (.constant (.int 1)))))
    (.leaf (.constant .null))

def overdrawnHybrid : Hybrid Script.scripted :=
  { about := { id := ⟨0⟩, name := "overdrawn" }
    getter := (⟨"overdrawn", 1, overdrawn.term⟩ : Script.Callback Script.Term)
    cache := ⟨2⟩ }

def account : Entity :=
  ⟨{ id := ⟨3⟩, name := "Account", table := "account", columns := [⟨"account", "balance"⟩],
     members := [] }, []⟩

/-- On a record the lost value equals null, and the expression means the same. -/
theorem expression_means_value_overdrawn :
    ∃ n : Node,
      (∃ a st', (overdrawnHybrid.build {} (Script.behaviourIn (Script.world {} {} 0)) account).run
          { memory := ({} : Script.Memory) } = some (.ok a, st') ∧
        a.clauseElement 16 = .ok n) ∧
      Yields (overdrawnHybrid.value (Script.behaviourIn (Script.world {} {} 0))
        ⟨[("balance", .int 7)]⟩) (.literal (.bool true)) ∧
      n.meaning (Record.get ⟨[("balance", .int 7)]⟩) = some (.bool true) := by
  obtain ⟨n, -, plain, hybrids, -⟩ :=
    expression_means_value {} (Script.behaviourIn (Script.world {} {} 0)) (fun _ => rfl)
      overdrawn account
  obtain ⟨values, built⟩ := hybrids overdrawnHybrid (overdrawn.describes_script _ _ _)
  obtain ⟨v, hv, hn⟩ := values ⟨[("balance", .int 7)]⟩
  obtain ⟨w, hw, hnw⟩ := plain (Record.get ⟨[("balance", .int 7)]⟩)
  have revived : w = .bool true := Operand.literal.inj (hw.symm.trans rfl)
  have same : v = .bool true := (Option.some.inj (hn.symm.trans hnw)).trans revived
  subst same
  exact ⟨n, built rfl rfl _, hv, hn⟩

end DualMode
