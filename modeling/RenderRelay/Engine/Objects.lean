import RenderRelay.Engine.Scope

/-!
# Objects

Making, binding and deleting objects. Bindings are kept under client names;
a driver name is looked up only when a call goes to the driver, and an object
that the client never asked for is made when it is first bound.
-/

set_option autoImplicit false

namespace RenderRelay.Scope

variable {δ : Type} [Driver δ]

/-- Makes driver objects for client names and records which stands for which. -/
def generate (s : Scope δ) (cls : ObjectClass) (client : List UInt32) : Scope δ :=
  if client.isEmpty then s
  else
    let (driver, s) := s.forward (.generate cls (client.map fun _ => 0))
    { s with names := s.names.insertAll cls client driver }

/-- Drops every binding of the client names, and deletes what stood behind them. -/
def delete (s : Scope δ) (cls : ObjectClass) (client : List UInt32) : Scope δ :=
  if client.isEmpty then s
  else
    let (driver, names) := s.names.takeAll cls client
    let shadow := (client.filter (· ≠ 0)).foldl (·.forget cls ·) s.shadow
    ({ s with names, shadow }.forward (.delete cls driver)).2

/-- The driver name behind a client name. One is made if there is none, or, if
the driver cannot make any, the client name is passed on. -/
def driverName (s : Scope δ) (cls : ObjectClass) (client : UInt32) : UInt32 × Scope δ :=
  match s.names.lookup cls client with
  | some name => (name, s)
  | none =>
    if Driver.bound s.driver (.generate cls) then
      let (fresh, s) := s.forward (.generate cls [0])
      let name := fresh.headD 0
      (name, { s with names := s.names.insert cls client name })
    else (client, s)

/-- Binds a client name, unless it is bound there already. The binding is kept
before the driver has seen the name. -/
def bind (s : Scope δ) (cls : ObjectClass) (target : Enum) (name : UInt32) : Scope δ :=
  match s.shadow.binding? cls target with
  | none => s.reject GL.invalidEnum
  | some held =>
    if held = name then s.elide
    else
      let (driver, s) := s.driverName cls name
      ({ s with shadow := s.shadow.setBinding cls target name }.submit
        (.bind cls target driver)).2

end RenderRelay.Scope
