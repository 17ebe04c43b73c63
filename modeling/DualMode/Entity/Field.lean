import DualMode.Entity.Basic
import DualMode.Operand

/-! Fields, read alike from records, entities and aliases. A record gives the value that it
holds, an entity its column. -/

namespace DualMode

/-- A record in memory; a field without a value reads as null. -/
structure Record where
  fields : List (String × Literal)

namespace Record

def get (r : Record) (name : String) : Literal := (r.fields.lookup name).getD .null

def put (r : Record) (name : String) (value : Literal) : Record :=
  ⟨if r.fields.any (·.1 == name) then
      r.fields.map fun f => if f.1 == name then (name, value) else f
    else r.fields ++ [(name, value)]⟩

def field (r : Record) (name : String) : Operand := .literal (r.get name)

end Record

namespace Entity

/-- A name without a column is referred to without a table. -/
def field (e : Entity) (name : String) : Operand :=
  match e.column? name with
  | some c => .column c
  | none => .node (.column none name)

end Entity

/-- An entity seen through a table alias. -/
structure Aliased where
  entity : Entity
  name : String

namespace Aliased

def column? (a : Aliased) (name : String) : Option Column :=
  (a.entity.column? name).map (·.requalified a.name)

def field (a : Aliased) (name : String) : Operand :=
  match a.column? name with
  | some c => .column c
  | none => a.entity.field name

def inspect (a : Aliased) : String :=
  "AliasedClass \x7b class: " ++ a.entity.inspect ++ ", alias: " ++ Text.quoted a.name ++ " \x7d"

@[simp] theorem column_isSome (a : Aliased) (name : String) :
    (a.column? name).isSome = (a.entity.column? name).isSome := by
  simp [column?]

end Aliased

/-- What a computed attribute is asked of: a record, or an entity as a whole. -/
inductive Receiver
  | record (r : Record) | entity (e : Entity)

def Receiver.field : Receiver → String → Operand
  | record r => r.field
  | entity e => e.field

end DualMode
