import DualMode.Column
import DualMode.Fault
import DualMode.Identity

/-! Mapped entities: a table, its columns, the members registered on it, and the entities it
inherits from. Every look-up goes through the lineage, most derived first. -/

namespace DualMode

/-- What one entity states about itself. -/
structure Declaration where
  id : EntityId
  name : String
  table : String
  columns : List Column
  members : List (String × MemberId)

structure Entity where
  own : Declaration
  inherited : List Declaration

namespace Entity

def id (e : Entity) : EntityId := e.own.id
def name (e : Entity) : String := e.own.name
def table (e : Entity) : String := e.own.table

def lineage (e : Entity) : List Declaration := e.own :: e.inherited

def parent? (e : Entity) : Option Entity :=
  match e.inherited with
  | [] => none
  | own :: inherited => some ⟨own, inherited⟩

/-- Entities are told apart by identity alone. -/
def same (e f : Entity) : Bool := e.id == f.id

def inherits (e f : Entity) : Bool := e.lineage.any fun d => d.id == f.id

def columnsInLineage (e : Entity) : List Column := e.lineage.flatMap (·.columns)

def column? (e : Entity) (name : String) : Option Column :=
  e.columnsInLineage.find? (·.name == name)

def requireColumn (e : Entity) (name : String) : Except Fault Column :=
  match e.column? name with
  | some c => .ok c
  | none => .error (.unknownColumn e.name name)

/-- Leaves out a column when one of its name stands before it. -/
def distinctNames : List Column → List Column
  | [] => []
  | c :: rest => c :: (distinctNames rest).filter (·.name != c.name)

def columns (e : Entity) : List Column := distinctNames e.columnsInLineage

def membersInLineage (e : Entity) : List (String × MemberId) := e.lineage.flatMap (·.members)

def member? (e : Entity) (name : String) : Option MemberId :=
  (e.membersInLineage.find? (·.1 == name)).map (·.2)

def memberKey? (e : Entity) (id : MemberId) : Option String :=
  (e.membersInLineage.find? (·.2 == id)).map (·.1)

def inspect (e : Entity) : String :=
  let parent := match e.parent? with
    | none => "None"
    | some p => "Some(" ++ Text.quoted p.name ++ ")"
  "ModelClass \x7b name: " ++ Text.quoted e.name ++ ", table: " ++ Text.quoted e.table ++
    ", parent: " ++ parent ++ " \x7d"

@[simp] theorem lineage_mk (d : Declaration) (ds : List Declaration) :
    lineage ⟨d, ds⟩ = d :: ds := rfl

theorem lineage_parent {e p : Entity} (h : e.parent? = some p) : e.lineage = e.own :: p.lineage := by
  obtain ⟨own, inherited⟩ := e
  cases inherited with
  | nil => simp [parent?] at h
  | cons d ds => simp [parent?] at h; subst h; rfl

end Entity
end DualMode
