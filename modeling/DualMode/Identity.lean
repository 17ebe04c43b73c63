/-! Identities. All of them come from one supply, and only their equality is observed. -/

namespace DualMode

structure EntityId where
  index : Nat
  deriving DecidableEq

/-- The identity of a hybrid: copies share it, and every change makes a new one. -/
structure MemberId where
  index : Nat
  deriving DecidableEq

structure AttributeId where
  index : Nat
  deriving DecidableEq

/-- The identity of the views that the copies of a hybrid share. -/
structure CacheId where
  index : Nat
  deriving DecidableEq

end DualMode
