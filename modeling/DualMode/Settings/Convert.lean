import DualMode.Decimal.Reading
import DualMode.Fault
import DualMode.Literal.Basic
import DualMode.Settings.Basic
import DualMode.Settings.Tree

/-! Settings from the `hybrid` entry of a tree. Values are converted between types where a
conversion is known. -/

namespace DualMode

structure Mismatch where
  found : String
  expected : String
  origin : Origin
  deriving DecidableEq

def Mismatch.message (m : Mismatch) : String :=
  "invalid type: " ++ m.found ++ ", expected " ++ m.expected ++ " for key `hybrid`" ++
    m.origin.suffix

namespace Tree

def quotedFound (s : String) : String := "string " ++ Text.quoted s

/-- An unsigned number of at most 64 bits, with an optional plus sign. -/
def readCount? (s : String) : Option Nat :=
  let ds := match s.toList with
    | '+' :: rest => rest
    | rest => rest
  if Decimal.allDigits ds ∧ Decimal.value ds < UInt64.size then some (Decimal.value ds) else none

def toCount : Tree → Except Mismatch Nat
  | int o i =>
    if 0 ≤ i.toInt then .ok i.toInt.toNat
    else .error ⟨"64-bit integer `" ++ Decimal.intText i.toInt ++ "`",
      "an unsigned 64 bit or less integer", o⟩
  | text o s =>
    match Text.lower s with
    | "true" | "on" | "yes" => .ok 1
    | "false" | "off" | "no" => .ok 0
    | _ => match readCount? s with
      | some n => .ok n
      | none => .error ⟨quotedFound s, "an integer", o⟩
  | bool _ b => .ok (if b then 1 else 0)
  | float _ x => .ok (Binary64.clampedRound x)
  | unit o => .error ⟨"unit value", "an integer", o⟩
  | list o _ => .error ⟨"sequence", "an integer", o⟩
  | table o _ => .error ⟨"map", "an integer", o⟩

def toTruth : Tree → Except Mismatch Bool
  | bool _ b => .ok b
  | int _ i => .ok (i != 0)
  | float _ x => .ok (x != 0.0)
  | text o s =>
    match Text.lower s with
    | "1" | "true" | "on" | "yes" => .ok true
    | "0" | "false" | "off" | "no" => .ok false
    | low => .error ⟨quotedFound low, "a boolean", o⟩
  | unit o => .error ⟨"unit value", "a boolean", o⟩
  | list o _ => .error ⟨"sequence", "a boolean", o⟩
  | table o _ => .error ⟨"map", "a boolean", o⟩

def toText : Tree → Except Mismatch String
  | text _ s => .ok s
  | bool _ b => .ok (if b then "true" else "false")
  | int _ i => .ok (Decimal.intText i.toInt)
  | float _ x => .ok (Literal.plainLayout.write x)
  | unit o => .error ⟨"unit value", "a string", o⟩
  | list o _ => .error ⟨"sequence", "a string", o⟩
  | table o _ => .error ⟨"map", "a string", o⟩

/-- As plain numbers, with `.0` after a whole one. -/
def pointLayout : Decimal.Layout := { Literal.plainLayout with pointZero := true }

/-- What a value is called where the whole section was expected. -/
def sectionFound : Tree → String
  | unit _ => "unit value"
  | bool _ b => "boolean `" ++ (if b then "true" else "false") ++ "`"
  | int _ i => "integer `" ++ Decimal.intText i.toInt ++ "`"
  | float _ x => "floating point `" ++ pointLayout.write x ++ "`"
  | text _ s => quotedFound s
  | list _ _ => "sequence"
  | table _ _ => "map"

def layerFound : Tree → String
  | int _ i => "64-bit integer `" ++ Decimal.intText i.toInt ++ "`"
  | float _ x => "floating point `" ++ Literal.plainLayout.write x ++ "`"
  | t => t.sectionFound

end Tree

namespace Settings

def orDefault {α : Type} (convert : Tree → Except Mismatch α) (fallback : α) :
    Option Tree → Except Mismatch α
  | none => .ok fallback
  | some t => convert t

def ofValues (key limit warn : Option Tree) : Except Mismatch Settings := do
  let unknownKey ← orDefault Tree.toText ({} : Settings).unknownKey key
  let adaptLimit ← orDefault Tree.toCount ({} : Settings).adaptLimit limit
  let warnUnknownField ← orDefault Tree.toTruth ({} : Settings).warnUnknownField warn
  return { unknownKey, adaptLimit, warnUnknownField }

def notLoaded (detail : String) : Fault :=
  .settings ("hybrid configuration could not be loaded: " ++ detail)

def missing (name : String) : Fault :=
  .settings ("configuration property " ++ Text.quoted name ++ " not found")

/-- The settings in a merged tree. A list gives them in order; without the section all
defaults apply. -/
def ofTree (root : Tree) : Except Fault Settings :=
  let checked := fun (r : Except Mismatch Settings) => r.mapError fun m => notLoaded m.message
  match root.get? "hybrid" with
  | none => .ok {}
  | some (.table _ es) =>
    checked (ofValues (es.lookup "unknown_attribute_key") (es.lookup "max_adapt_depth")
      (es.lookup "warn_on_unknown_field"))
  | some (.list _ items) => checked (ofValues items[0]? items[1]? items[2]?)
  | some t =>
    .error (notLoaded ("invalid type: " ++ t.sectionFound ++ ", expected struct HybridConfig"))

/-- Merges layers in order. A layer that is no table is refused. -/
def mergeLayers : Tree → List Tree → Except Fault Tree
  | root, [] => .ok root
  | root, .table _ es :: rest => mergeLayers (root.merge es) rest
  | _, t :: _ => .error (.settings ("invalid type: " ++ t.layerFound ++ ", expected a map"))

def ofLayers (layers : List Tree) : Except Fault Settings :=
  match mergeLayers .empty layers with
  | .error f => .error f
  | .ok root => ofTree root

end Settings
end DualMode
