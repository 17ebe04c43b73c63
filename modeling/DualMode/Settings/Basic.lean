/-! The settings in force while attributes are resolved. -/

namespace DualMode

structure Settings where
  /-- The key published for a hybrid that is registered nowhere. -/
  unknownKey : String := "<unknown>"
  /-- How many sources in a row are followed to an expression. -/
  adaptLimit : Nat := 16
  warnUnknownField : Bool := true
  deriving DecidableEq

end DualMode
