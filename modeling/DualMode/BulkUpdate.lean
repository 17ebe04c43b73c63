import DualMode.Node.Render
import DualMode.Store

/-! Bulk updates name attributes; each turns its value into column assignments. A column
assigned again keeps its place and takes the later value. -/

namespace DualMode

structure BulkUpdate where
  entity : Entity
  assignments : List Assignment := []
  filters : List Node := []

variable {C : Callbacks}

namespace BulkUpdate

def put (assigned : List Assignment) (next : Assignment) : List Assignment :=
  if assigned.any (·.1 == next.1) then assigned.map fun a => if a.1 == next.1 then next else a
  else assigned ++ [next]

def putAll (assigned next : List Assignment) : List Assignment := next.foldl put assigned

def reassigned : List Assignment → List Assignment → List Column
  | _, [] => []
  | assigned, next :: rest =>
    let later := reassigned (put assigned next) rest
    if assigned.any (·.1 == next.1) then next.1 :: later else later

def set (s : Settings) (b : Behaviour C) (u : BulkUpdate) (q : Queryable C.Update)
    (value : Operand) : Run C (Except Fault BulkUpdate) := do
  match ← q.assign s.adaptLimit b.update value with
  | .error f => return .error f
  | .ok next =>
    (reassigned u.assignments next).forM fun c => remark (.reassigned c)
    return .ok { u with assignments := putAll u.assignments next }

def filter (u : BulkUpdate) (condition : Node) : BulkUpdate :=
  { u with filters := u.filters ++ [condition] }

/-- All conditions at once, joined from the left. -/
def condition? (u : BulkUpdate) : Option Node :=
  match u.filters with
  | [] => none
  | f :: rest => some (rest.foldl (fun l r => .join (.op .and) l r) f)

def renderAssignment (a : Assignment) : String :=
  Sql.quoteName a.1.name ++ " = " ++ a.2.toNode.render

/-- The statement; columns are named without their table. -/
def statement (u : BulkUpdate) : String :=
  "UPDATE " ++ Sql.quoteName u.entity.table ++ " SET " ++
    String.intercalate ", " (u.assignments.map renderAssignment) ++
    (match u.condition? with
      | none => ""
      | some e => " WHERE " ++ e.render)

end BulkUpdate
end DualMode
