import DualMode.Settings.Tree
import DualMode.Toml.Document

/-! Files of settings, which are TOML documents. Days and times are known by their text, also
those that are written as a table with a reserved name. -/

namespace DualMode
namespace Tree

/-- A table that begins with this name stands for the date or time in the text behind it. -/
def momentName : String := "$__toml_private_datetime"

def ofMomentText? : Toml.Item → Option Tree
  | .text s => (Toml.momentOfText? s).map fun m => text .file m.text
  | _ => none

mutual

def ofItem? : Toml.Item → Option Tree
  | .text s => some (text .file s)
  | .int i => some (int .file i)
  | .float x => some (float .file x)
  | .bool b => some (bool .file b)
  | .moment m => some (text .file m.text)
  | .list items => (ofItems? items).map (list .file)
  | .table _ es => ofTable? es
  | .tables each => (ofTables? each).map (list .file)

def ofItems? : List Toml.Item → Option (List Tree)
  | [] => some []
  | i :: rest => do return (← ofItem? i) :: (← ofItems? rest)

/-- A table, or the date or time that its first entry holds; then the other entries do not
count. -/
def ofTable? : List (String × Toml.Item) → Option Tree
  | [] => some (table .file [])
  | (name, i) :: rest =>
    if name = momentName then ofMomentText? i
    else do return table .file ((name, ← ofItem? i) :: (← ofEntries? rest))

def ofEntries? : List (String × Toml.Item) → Option (List (String × Tree))
  | [] => some []
  | (name, i) :: rest => do return (name, ← ofItem? i) :: (← ofEntries? rest)

def ofTables? : List (List (String × Toml.Item)) → Option (List Tree)
  | [] => some []
  | es :: rest => do return (← ofTable? es) :: (← ofTables? rest)

end

end Tree

namespace Settings

/-- The entries of a file, unless it is broken or no table at all. -/
def readFile? (text : String) : Option (List (String × Tree)) := do
  match ← Tree.ofTable? (← Toml.parse? text) with
  | .table _ es => return es
  | _ => none

end Settings
end DualMode
