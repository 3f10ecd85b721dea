/-!
# Counters

What all engines of a server have done together. The numbers have no bound:
`2 ^ 64` events, where 64 bits would begin again, are out of reach.
-/

set_option autoImplicit false

namespace RenderRelay

structure Stats where
  recordsDispatched : Nat := 0
  driverCalls : Nat := 0
  callsElided : Nat := 0
  errorsRecorded : Nat := 0
  /-- Error queries that went to the driver. -/
  driverErrorQueries : Nat := 0
  deriving DecidableEq, Repr

namespace Stats

def dispatched (s : Stats) : Stats := { s with recordsDispatched := s.recordsDispatched + 1 }

def called (s : Stats) : Stats := { s with driverCalls := s.driverCalls + 1 }

def elided (s : Stats) : Stats := { s with callsElided := s.callsElided + 1 }

def errorRecorded (s : Stats) : Stats := { s with errorsRecorded := s.errorsRecorded + 1 }

def driverAsked (s : Stats) : Stats := { s with driverErrorQueries := s.driverErrorQueries + 1 }

end Stats

end RenderRelay
