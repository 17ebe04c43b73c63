import DualMode.Entity.Basic
import DualMode.Text.LowerCase

/-! Declaring entities. -/

namespace DualMode

structure Blueprint where
  name : String
  table : Option String := none
  parent : Option Entity := none
  columns : List String := []
  /-- Registrations in order; a later one under the same name takes the earlier one's place. -/
  members : List (String × MemberId) := []

namespace Entity

def register (members : List (String × MemberId)) (entry : String × MemberId) :
    List (String × MemberId) :=
  if members.any (·.1 == entry.1) then members.map fun m => if m.1 == entry.1 then entry else m
  else members ++ [entry]

def registerAll (entries : List (String × MemberId)) : List (String × MemberId) :=
  entries.foldl register []

end Entity

namespace Blueprint

/-- A derived entity shares its parent's table unless it names one; without either, the
table is the entity's name in lower case. -/
def tableName (b : Blueprint) : String :=
  match b.table, b.parent with
  | some table, _ => table
  | none, some parent => parent.table
  | none, none => Text.lower b.name

def declare (b : Blueprint) (id : EntityId) : Entity :=
  { own :=
      { id := id, name := b.name, table := b.tableName,
        columns := b.columns.map (Column.mk b.tableName),
        members := Entity.registerAll b.members }
    inherited := match b.parent with
      | none => []
      | some parent => parent.lineage }

@[simp] theorem id_declare (b : Blueprint) (id : EntityId) : (b.declare id).id = id := rfl

@[simp] theorem parent_declare (b : Blueprint) (id : EntityId) : (b.declare id).parent? = b.parent := by
  rcases h : b.parent with _ | ⟨d, ds⟩ <;> simp [declare, Entity.parent?, h]

end Blueprint
end DualMode
