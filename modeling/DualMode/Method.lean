import DualMode.Store

/-! Computed methods: called on a record they run in memory, called on an entity they give
an expression. -/

namespace DualMode

structure Method (C : Callbacks) where
  about : Meta
  body : C.Body
  expression : Option C.CallExpression := none

variable {C : Callbacks}

namespace Method

def name (m : Method C) : String := m.about.name

def create (name : String) (body : C.Body) : Run C (Method C) := do
  return { about := { id := ⟨← mint⟩, name := name }, body := body }

def renew (m : Method C) : Run C (Method C) := do
  return { m with about := { m.about with id := ⟨← mint⟩ } }

def withExpression (m : Method C) (e : C.CallExpression) : Run C (Method C) :=
  renew { m with expression := some e }

def withDoc (m : Method C) (text : String) : Run C (Method C) :=
  renew { m with about := { m.about with doc := some text } }

def call (b : Behaviour C) (m : Method C) (r : Record) (args : C.Args) : Run C C.Value :=
  b.call m.body (.record r) args

/-- The expression builder if there is one, else the body with the entity as its receiver. -/
def callOn (s : Settings) (b : Behaviour C) (m : Method C) (e : Entity) (args : C.Args) :
    Run C (Except Fault Node) := do
  let clause ← match m.expression with
    | some x => b.callExpress x e args
    | none => do pure (b.clause (← b.call m.body (.entity e) args))
  remark (.methodCalled m.name e.name)
  return clause.adapt s.adaptLimit

def inspect (m : Method C) : String :=
  "HybridMethod \x7b name: " ++ Text.quoted m.name ++ ", id: MemberId(_), expression: " ++
    (if m.expression.isSome then "true" else "false") ++ " \x7d"

end Method
end DualMode
