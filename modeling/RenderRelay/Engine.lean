import RenderRelay.Engine.Rendering
import RenderRelay.Registry

/-!
# Engines

A server has one driver, one registry of contexts, one name table and one
set of counters, which all its workers share. An engine is a worker's view of
them, together with the context that is current on the worker. The driver
decides first: the registry hears only of what the driver has accepted.
-/

set_option autoImplicit false

namespace RenderRelay

/-- What all workers share. -/
structure Server (δ : Type) where
  driver : δ
  registry : Registry := {}
  names : NameTable := {}
  stats : Stats := {}

structure Engine (δ : Type) where
  server : Server δ
  current : Option Current := none

namespace Engine

variable {δ : Type}

def setRegistry (e : Engine δ) (registry : Registry) : Engine δ :=
  { e with server := { e.server with registry } }

/-- Gives the current context back. -/
def release (e : Engine δ) : Engine δ :=
  { e.setRegistry (e.server.registry.giveBack e.current) with current := none }

variable [Driver δ]

/-! Commands of the display system -/

/-- Makes a call whose entry point is bound. -/
def call (e : Engine δ) (c : Call) : c.Answer × Engine δ :=
  let (answer, driver) := Driver.perform e.server.driver c
  (answer, { e with server := { e.server with driver, stats := e.server.stats.called } })

/-- What an unbound entry point of the display system answers. -/
def missing : (c : Call) → c.Answer
  | .eglGetError => EGL.notInitialized
  | c => c.entry.answer.empty

/-- Makes a call if its entry point is bound. -/
def ask (e : Engine δ) (c : Call) : c.Answer × Engine δ :=
  if Driver.bound e.server.driver c.entry then e.call c else (missing c, e)

def initDisplay (e : Engine δ) (display : Display) : Reply × Engine δ :=
  match e.ask (.initDisplay display) with
  | (some (major, minor), e) =>
    (.initialized true major minor, e.setRegistry (e.server.registry.initDisplay display))
  | (none, e) => (.initialized false 0 0, e)

def terminateDisplay (e : Engine δ) (display : Display) : Bool × Engine δ :=
  match e.ask (.terminateDisplay display) with
  | (true, e) =>
    (true, e.setRegistry (e.server.registry.terminateDisplay display e.current).2)
  | (false, e) => (false, e)

def chooseConfig (e : Engine δ) (display : Display) (attribs : List Int32) (max : Int32) :
    List Config × Engine δ :=
  let (configs, e) := e.ask (.chooseConfig display attribs max)
  (configs.getD [], e)

def destroyContext (e : Engine δ) (display : Display) (context : Context) : Bool × Engine δ :=
  match e.ask (.destroyContext display context) with
  | (true, e) => (true, e.setRegistry (e.server.registry.destroyContext display context).2)
  | (false, e) => (false, e)

def destroySurface (e : Engine δ) (display : Display) (surface : Surface) : Bool × Engine δ :=
  match e.ask (.destroySurface display surface) with
  | (true, e) => (true, e.setRegistry (e.server.registry.destroySurface display surface))
  | (false, e) => (false, e)

/-- Whether just this is current already. -/
def holds (e : Engine δ) (display : Display) (draw read : Surface) (context : Context) : Bool :=
  e.current.any (·.matches display draw read context)

/-- Makes a context current on the worker. If the registry refuses what the
driver has accepted, the worker ends without a current context. -/
def makeCurrent (e : Engine δ) (display : Display) (draw read : Surface) (context : Context) :
    Bool × Engine δ :=
  if !Driver.bound e.server.driver .eglMakeCurrent then (false, e)
  else if e.holds display draw read context then
    (true, { e with server := { e.server with stats := e.server.stats.elided } })
  else
    match e.call (.makeCurrent display draw read context) with
    | (false, e) => (false, e)
    | (true, e) =>
      let (result, registry, current) :=
        e.server.registry.makeCurrent display draw read context e.current
      let e := { e.setRegistry registry with current }
      match result with
      | .ok () => (true, e)
      | .error _ => (false, e.release)

def releaseThread (e : Engine δ) : Bool × Engine δ :=
  match e.ask .releaseThread with
  | (true, e) => (true, e.release)
  | (false, e) => (false, e)

def replying {α : Type} (reply : α → Reply) (r : α × Engine δ) : Option Reply × Engine δ :=
  (some (reply r.1), r.2)

/-- Carries out a command of the display system. -/
def manage (e : Engine δ) : Command → Option Reply × Engine δ
  | .getDisplay native => replying .display (e.ask (.getDisplay native))
  | .initDisplay display => replying id (e.initDisplay display)
  | .terminateDisplay display => replying .bool (e.terminateDisplay display)
  | .chooseConfig display attribs max => replying .configs (e.chooseConfig display attribs max)
  | .createContext display config share attribs =>
    replying .context (e.ask (.createContext display config share attribs))
  | .destroyContext display context => replying .bool (e.destroyContext display context)
  | .createWindowSurface display config window attribs =>
    replying .surface (e.ask (.createWindowSurface display config window attribs))
  | .createPbufferSurface display config attribs =>
    replying .surface (e.ask (.createPbufferSurface display config attribs))
  | .destroySurface display surface => replying .bool (e.destroySurface display surface)
  | .makeCurrent display draw read context =>
    replying .bool (e.makeCurrent display draw read context)
  | .releaseThread => replying .bool e.releaseThread
  | .swapBuffers display surface => replying .bool (e.ask (.swapBuffers display surface))
  | .eglGetError => replying .int (e.ask .eglGetError)
  | _ => (none, e)

/-! All commands -/

/-- The current context's shadow with what the server shares. -/
def scope (e : Engine δ) (current : Current) : Scope δ :=
  ⟨e.server.driver, e.server.names, e.server.stats, current.shadow⟩

/-- Takes over what a command has made of the scope. -/
def leave (e : Engine δ) (current : Current) (s : Scope δ) : Engine δ where
  server := { e.server with driver := s.driver, names := s.names, stats := s.stats }
  current := some { current with shadow := s.shadow }

/-- Carries out a command. A rendering command does nothing without a current context. -/
def execute (e : Engine δ) (c : Command) : Option Reply × Engine δ :=
  match c.entry? with
  | none => e.manage c
  | some entry =>
    match e.current with
    | none => (c.droppedReply, e)
    | some current =>
      let (reply, s) := (e.scope current).enter entry c
      (reply, e.leave current s)

end Engine

end RenderRelay
