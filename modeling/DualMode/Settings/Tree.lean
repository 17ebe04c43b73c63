import DualMode.Json.Basic
import DualMode.Settings.Path
import DualMode.Text.LowerCase

/-! Trees of settings, merged from layers. Names are compared in lower case, and what is set
later replaces what was set before, table by table. -/

namespace DualMode

/-- Where a value was written. -/
inductive Origin
  | inline | file | environment
  deriving DecidableEq

def Origin.suffix : Origin → String
  | inline => ""
  | file => " in config/config.toml"
  | environment => " in the environment"

inductive Tree
  | unit (o : Origin) | bool (o : Origin) (b : Bool) | int (o : Origin) (i : Int64)
  | float (o : Origin) (x : Float) | text (o : Origin) (s : String)
  | list (o : Origin) (items : List Tree) | table (o : Origin) (entries : List (String × Tree))

namespace Tree

/-- What stands where nothing was set. -/
def nothing : Tree := unit .inline

def empty : Tree := table .inline []

/-- The tree as a table; any other tree gives way to an empty one. -/
def toTable : Tree → Origin × List (String × Tree)
  | table o es => (o, es)
  | _ => (.inline, [])

def toList : Tree → Origin × List Tree
  | list o items => (o, items)
  | _ => (.inline, [])

def entries (t : Tree) : List (String × Tree) := t.toTable.2

def get? (t : Tree) (name : String) : Option Tree := t.entries.lookup name

def putEntry (es : List (String × Tree)) (name : String) (t : Tree) : List (String × Tree) :=
  if es.any (·.1 == name) then es.map fun e => if e.1 == name then (name, t) else e
  else es ++ [(name, t)]

def put (root : Tree) (key : String) (t : Tree) : Tree :=
  let (o, es) := root.toTable
  table o (putEntry es key t)

/-- The items with room for a place, and where that place then is. -/
def reach (items : List Tree) (i : Int) : List Tree × Nat :=
  if 0 ≤ i then (items ++ List.replicate (i.toNat + 1 - items.length) nothing, i.toNat)
  else if i.natAbs ≤ items.length then (items, items.length - i.natAbs)
  else (List.replicate (i.natAbs - items.length) nothing ++ items, 0)

def changePlace (root : Tree) (i : Int) (f : Tree → Tree) : Tree :=
  let (o, items) := root.toList
  let (items, place) := reach items i
  list o (items.set place (f ((items[place]?).getD nothing)))

mutual

/-- Sets a name below a root, which becomes a table. The entries of a table are set one by
one in what stands there already. -/
def set (name : String) (root : Tree) : Tree → Tree
  | table _ incoming =>
    let key := Text.lower name
    root.put key (setEntries ((root.get? key).getD empty) incoming)
  | unit o => root.put (Text.lower name) (unit o)
  | bool o b => root.put (Text.lower name) (bool o b)
  | int o i => root.put (Text.lower name) (int o i)
  | float o x => root.put (Text.lower name) (float o x)
  | text o s => root.put (Text.lower name) (text o s)
  | list o items => root.put (Text.lower name) (list o items)

def setEntries (root : Tree) : List (String × Tree) → Tree
  | [] => root
  | (name, t) :: rest => setEntries (set name root t) rest

end

/-- Sets a value at the end of a path. What stands on the way and is no table or list, as
the path asks, gives way to one. -/
def setAlong (value : Tree) : PathStep → List PathStep → Tree → Tree
  | .key name, [], root => root.set name value
  | .key name, next :: rest, root =>
    let key := Text.lower name
    root.put key (setAlong value next rest ((root.get? key).getD nothing))
  | .place i, [], root => root.changePlace i fun _ => value
  | .place i, next :: rest, root => root.changePlace i (setAlong value next rest)

def setAt (root : Tree) (p : Path) (value : Tree) : Tree :=
  setAlong value (.key p.first) p.rest root

/-- Merges a layer into what was set before it; the names of its entries may spell paths. -/
def merge (root : Tree) (layer : List (String × Tree)) : Tree :=
  layer.foldl (fun t e => t.setAt (.ofName e.1) e.2) root

mutual

/-- Whole numbers beyond 64 bits become doubles. -/
def ofJson (o : Origin) : Json → Tree
  | .null => unit o
  | .bool b => bool o b
  | .int n =>
    if Int64.minValue.toInt ≤ n ∧ n ≤ Int64.maxValue.toInt then int o (Int64.ofInt n)
    else float o (if n < 0 then -(Float.ofNat n.natAbs) else Float.ofNat n.natAbs)
  | .float x => float o x
  | .text s => text o s
  | .list items => list o (ofItems o items)
  | .object fields => table o (ofFields o fields)

def ofItems (o : Origin) : List Json → List Tree
  | [] => []
  | j :: rest => ofJson o j :: ofItems o rest

def ofFields (o : Origin) : List (String × Json) → List (String × Tree)
  | [] => []
  | (name, j) :: rest => (name, ofJson o j) :: ofFields o rest

end

end Tree
end DualMode
