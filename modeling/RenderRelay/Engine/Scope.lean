import RenderRelay.Driver
import RenderRelay.NameTable
import RenderRelay.Shadow
import RenderRelay.Stats

/-!
# Scopes

What a rendering command works on once it was let through: the driver, the
name table and the counters of the server, and the shadow of the current
context. Every change a command makes is made by an operation of this module
or to the shadow alone.
-/

set_option autoImplicit false

namespace RenderRelay

structure Scope (δ : Type) where
  driver : δ
  names : NameTable
  stats : Stats
  shadow : Shadow

namespace Scope

variable {δ : Type}

/-- Leaves out a call that would change nothing. -/
def elide (s : Scope δ) : Scope δ := { s with stats := s.stats.elided }

/-- Records an error, unless one is pending. -/
def reject (s : Scope δ) (e : Enum) : Scope δ :=
  { s with
    shadow := s.shadow.recordError e
    stats := if s.shadow.acceptsError then s.stats.errorRecorded else s.stats }

variable [Driver δ]

/-- Makes a call that cannot fail in the driver. -/
def forward (s : Scope δ) (c : Call) : c.Answer × Scope δ :=
  let (answer, driver) := Driver.perform s.driver c
  (answer, { s with driver, stats := s.stats.called })

/-- Makes a call that may fail in the driver: the next error query has to ask there. -/
def submit (s : Scope δ) (c : Call) : c.Answer × Scope δ :=
  { s with shadow := { s.shadow with driverMayKnow := true } }.forward c

/-- A driver limit. The driver is asked once for a context; where it cannot be
asked, the minimum stands in. -/
def limit (s : Scope δ) (limit : Limit) : Int32 × Scope δ :=
  match s.shadow.limits.cached? limit with
  | some value => (value, s)
  | none =>
    if Driver.bound s.driver .getIntegerv then
      let (values, s) := s.forward (.getIntegerv limit.pname [limit.minimum])
      let value := values.headD limit.minimum
      (value, { s with shadow := { s.shadow with limits := s.shadow.limits.record limit value } })
    else (limit.minimum, s)

end Scope

end RenderRelay
