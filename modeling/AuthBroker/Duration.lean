import AuthBroker.Decimal.Digits

namespace AuthBroker

/-! Spans of time. -/

structure Duration where
  seconds : Nat
  nanoseconds : Nat
deriving DecidableEq, Repr

namespace Duration

def ofMillis (millis : Nat) : Duration :=
  ⟨millis / 1000, millis % 1000 * 1000000⟩

def millis (duration : Duration) : Nat :=
  duration.seconds * 1000 + duration.nanoseconds / 1000000

end Duration

end AuthBroker
