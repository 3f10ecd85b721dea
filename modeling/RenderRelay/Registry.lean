import RenderRelay.Handle
import RenderRelay.Registry.Arena
import RenderRelay.Shadow
import RenderRelay.Text.Hex

/-!
# The context registry

One record for each rendering context that was made current. While a context
is current, its shadow is with the worker it is current on and the record is
active. Destroying what an active record stands for is only noted; it takes
effect when the worker lets go.
-/

set_option autoImplicit false

namespace RenderRelay

inductive RegistryError where
  | staleHandle (handle : Handle)
  | contextBusy (display : Display) (context : Context)
  deriving DecidableEq, Repr

def RegistryError.message : RegistryError → String
  | .staleHandle h =>
    "stale context handle (slot " ++ toString h.index.toNat ++ ", generation "
      ++ toString h.generation.toNat ++ ")"
  | .contextBusy d c =>
    "context " ++ Text.hex c.id.toNat ++ " on display " ++ Text.hex d.id.toNat
      ++ " is current on another thread"

/-- What was destroyed while a record was active. -/
structure Doom where
  display : Bool := false
  context : Bool := false
  draw : Bool := false
  read : Bool := false
  deriving DecidableEq, Repr

namespace Doom

/-- Whether the record itself goes. A context outlives its surfaces. -/
def reaps (d : Doom) : Bool := d.display || d.context

def union (a b : Doom) : Doom :=
  ⟨a.display || b.display, a.context || b.context, a.draw || b.draw, a.read || b.read⟩

end Doom

structure ContextRecord where
  display : Display
  context : Context
  draw : Surface
  read : Surface
  active : Bool
  doom : Doom := {}
  /-- The shadow, unless a worker has it. -/
  shadow : Option Shadow
  deriving DecidableEq, Repr

/-- Takes away the surfaces of an inactive record that were destroyed. -/
def ContextRecord.settled (c : ContextRecord) : ContextRecord :=
  { c with
    draw := if c.doom.draw then .none else c.draw
    read := if c.doom.read then .none else c.read
    doom := { c.doom with draw := false, read := false } }

/-- What a worker holds of the context that is current on it. -/
structure Current where
  handle : Handle
  display : Display
  context : Context
  draw : Surface
  read : Surface
  shadow : Shadow
  deriving DecidableEq, Repr

def Current.matches (c : Current) (display : Display) (draw read : Surface) (context : Context) :
    Bool :=
  c.display = display && c.draw = draw && c.read = read && c.context = context

structure Registry where
  arena : Arena ContextRecord := {}
  initialized : Bool := false
  deriving DecidableEq, Repr

namespace Registry

def size (r : Registry) : Nat := r.arena.count

def isEmpty (r : Registry) : Bool := r.size == 0

def record? (r : Registry) (h : Handle) : Option ContextRecord := r.arena.get? h

/-- All records with their handles, in slot order. -/
def records (r : Registry) : List (Handle × ContextRecord) := r.arena.entries

def set (r : Registry) (h : Handle) (record : ContextRecord) : Registry :=
  { r with arena := r.arena.set h record }

def reap (r : Registry) (h : Handle) : Registry := { r with arena := r.arena.erase h }

/-! Letting go -/

/-- Lets what was destroyed take effect on the record at `h`, unless it is active. -/
def settle (r : Registry) (h : Handle) : Registry :=
  match r.record? h with
  | none => r
  | some c =>
    if c.active then r
    else if c.doom.reaps then r.reap h
    else r.set h (c.settled)

/-- Takes a context back from its worker. If the record is gone, so is the shadow. -/
def release (r : Registry) (current : Current) : Registry :=
  match r.record? current.handle with
  | none => r
  | some c =>
    (r.set current.handle { c with active := false, shadow := some current.shadow }).settle
      current.handle

/-! Making current -/

/-- Hands the record at `h` to a worker, with new surfaces. -/
def activate (r : Registry) (h : Handle) (draw read : Surface) :
    Except RegistryError Current × Registry :=
  match r.record? h with
  | none => (.error (.staleHandle h), r)
  | some c =>
    match c.active, c.shadow with
    | false, some shadow =>
      (.ok ⟨h, c.display, c.context, draw, read, shadow⟩,
       r.set h { c with active := true, draw, read, shadow := none })
    | _, _ => (.error (.contextBusy c.display c.context), r)

/-- The inactive record with exactly these handles whose display is not going. -/
def matchExisting (r : Registry) (display : Display) (draw read : Surface) (context : Context) :
    Option Handle :=
  (r.arena.find? fun c =>
    c.display = display && c.context = context && c.draw = draw && c.read = read
      && !c.active && !c.doom.display).map Prod.fst

/-- Hands out the record of a context, which is made if there is none. -/
def findOrCreate (r : Registry) (display : Display) (draw read : Surface) (context : Context) :
    Except RegistryError Current × Registry :=
  match r.arena.find? fun c => c.display = display && c.context = context with
  | some (h, _) => r.activate h draw read
  | none =>
    let (h, arena) := r.arena.insert
      { display, context, draw, read, active := false, shadow := some .fresh }
    { r with arena }.activate h draw read

/-- Whether the first active record of a context is another than `own`. -/
def busyElsewhere (r : Registry) (display : Display) (context : Context) (own : Option Handle) :
    Bool :=
  match r.arena.find? fun c => c.display = display && c.context = context && c.active with
  | some (holder, _) => some holder ≠ own
  | none => false

def giveBack (r : Registry) : Option Current → Registry
  | none => r
  | some current => r.release current

/-- Makes a context current on a worker that holds `current`, which it gives
back. Without a display or a context it then holds nothing. A context that is
current on another worker is refused before anything changes. -/
def makeCurrent (r : Registry) (display : Display) (draw read : Surface) (context : Context)
    (current : Option Current) : Except RegistryError Unit × Registry × Option Current :=
  if display = .none ∨ context = .none then
    (.ok (), r.giveBack current, none)
  else if r.busyElsewhere display context (current.map Current.handle) then
    (.error (.contextBusy display context), r, current)
  else
    let r := r.giveBack current
    let (result, r) := match r.matchExisting display draw read context with
      | some h => r.activate h draw read
      | none => r.findOrCreate display draw read context
    match result with
    | .ok next => (.ok (), r, some next)
    | .error e => (.error e, r, none)

/-! Destruction -/

/-- Notes on each record what `doomed` says of it, and settles it. Gives also
the number of records that went at once. -/
def mark (r : Registry) (doomed : Handle → ContextRecord → Option Doom) : Nat × Registry :=
  let marked := r.arena.handles.foldl (fun r h =>
    match r.record? h with
    | none => r
    | some c =>
      match doomed h c with
      | none => r
      | some d => (r.set h { c with doom := c.doom.union d }).settle h) r
  (r.size - marked.size, marked)

/-- A display comes up: its termination no longer counts. -/
def initDisplay (r : Registry) (display : Display) : Registry where
  initialized := true
  arena := r.arena.map fun c =>
    if c.display = display then { c with doom := { c.doom with display := false } } else c

/-- A display goes: its idle records at once, the caller's own when it lets go.
Records that are current on other workers stay. -/
def terminateDisplay (r : Registry) (display : Display) (caller : Option Current) :
    Nat × Registry :=
  let own := caller.map Current.handle
  r.mark fun h c =>
    if c.display = display ∧ (c.active = false ∨ own = some h) then some { display := true }
    else none

def destroyContext (r : Registry) (display : Display) (context : Context) : Nat × Registry :=
  r.mark fun _ c =>
    if c.display = display ∧ c.context = context then some { context := true } else none

def destroySurface (r : Registry) (display : Display) (surface : Surface) : Registry :=
  (r.mark fun _ c =>
    if c.display = display ∧ (c.draw = surface ∨ c.read = surface) then
      some { draw := c.draw = surface, read := c.read = surface }
    else none).2

/-- Drops all records, active or not, and gives their number. -/
def teardown (r : Registry) : Nat × Registry :=
  (r.size, { r.arena.handles.foldl Registry.reap r with initialized := false })

end Registry

end RenderRelay
