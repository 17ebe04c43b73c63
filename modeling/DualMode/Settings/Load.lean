import DualMode.Settings.Convert
import DualMode.Settings.File

/-! Settings on start: the file first, then the variables of the environment, which win. Where
the file is broken, they are built once more from the environment alone. -/

namespace DualMode
namespace Settings

def variableStart : List Char := "lifeguard__".toList

/-- Two underscores in the name of a variable separate the parts of a dotted name. -/
def dotted : List Char → List Char
  | '_' :: '_' :: rest => '.' :: dotted rest
  | c :: rest => c :: dotted rest
  | [] => []

/-- The dotted name and the value of a variable, if it is a setting. -/
def ofVariable? (v : String × String) : Option (String × Tree) :=
  let name := (Text.lower v.1).toList
  if variableStart.isPrefixOf name then
    some (String.ofList (dotted (name.drop variableStart.length)), .text .environment v.2)
  else none

/-- The tree that the file and the environment give together; none if the file is broken. -/
def build? (file : Option String) (environment : List (String × String)) : Option Tree := do
  let entries ← match file with
    | none => some []
    | some text => readFile? text
  return (Tree.empty.merge entries).merge (environment.filterMap ofVariable?)

/-- The tree of the environment alone, which cannot be broken. -/
def buildEnvironment (environment : List (String × String)) : Tree :=
  Tree.empty.merge (environment.filterMap ofVariable?)

def load (file : Option String) (environment : List (String × String)) : Except Fault Settings :=
  match build? file environment with
  | some root => ofTree root
  | none => ofTree (buildEnvironment environment)

end Settings

/-- The settings of a process. They are fixed when they are first given or first asked for. -/
structure SettingsCell where
  installed : Option Settings := none

namespace SettingsCell

/-- Gives settings; refused once there are some. -/
def install (c : SettingsCell) (s : Settings) : Bool × SettingsCell :=
  match c.installed with
  | none => (true, ⟨some s⟩)
  | some _ => (false, c)

def current (c : SettingsCell) : Settings × SettingsCell :=
  match c.installed with
  | none => ({}, ⟨some {}⟩)
  | some s => (s, c)

end SettingsCell
end DualMode
