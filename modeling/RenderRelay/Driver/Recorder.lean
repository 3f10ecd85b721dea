import RenderRelay.Driver

/-!
# Recording drivers

A driver in memory. It keeps the calls it has answered, gives out names and
handles that it never gave before, and can be told what to answer, what to
fail and what to leave unbound.
-/

set_option autoImplicit false

namespace RenderRelay

structure Recorder where
  /-- The calls so far, latest first. -/
  log : List Call := []
  unbound : List EntryPoint := []
  /-- Entry points whose calls fail. They are made and recorded all the same. -/
  failing : List EntryPoint := []
  /-- Answers to integer queries; of two for one parameter the first counts. -/
  integers : List (Enum × List Int32) := []
  /-- Errors to be told, one at each error query. -/
  errors : List Enum := []
  /-- The name that is given out next. -/
  nextName : UInt32 := 1000
  /-- The handle that was given out last. -/
  lastHandle : UInt64 := 0x100
  refusesCurrent : Bool := false
  deriving Repr

namespace Recorder

def bound (r : Recorder) (e : EntryPoint) : Bool := !r.unbound.contains e

/-- The calls so far, in order. -/
def calls (r : Recorder) : List Call := r.log.reverse

def count (r : Recorder) (e : EntryPoint) : Nat := r.log.countP (·.entry == e)

def last? (r : Recorder) (e : EntryPoint) : Option Call := r.log.find? (·.entry == e)

/-! Telling it what to do -/

def unbind (r : Recorder) (e : EntryPoint) : Recorder := { r with unbound := e :: r.unbound }

def fail (r : Recorder) (e : EntryPoint) (on : Bool) : Recorder :=
  { r with failing := if on then e :: r.failing else r.failing.filter (· ≠ e) }

def setInteger (r : Recorder) (pname : Enum) (values : List Int32) : Recorder :=
  { r with integers := (pname, values) :: r.integers }

def pushError (r : Recorder) (e : Enum) : Recorder := { r with errors := r.errors ++ [e] }

def clearCalls (r : Recorder) : Recorder := { r with log := [] }

/-! Answering -/

/-- `values` cut or filled up with zeros to the length `n`. -/
def fitted (n : Nat) (values : List Int32) : List Int32 :=
  values.take n ++ List.replicate (n - values.length) 0

def takeHandle (r : Recorder) : UInt64 × Recorder :=
  (r.lastHandle + 1, { r with lastHandle := r.lastHandle + 1 })

/-- Whether there are `n` names and one after them to go on with. -/
def hasNames (r : Recorder) (n : Nat) : Bool := r.nextName.toNat + n < UInt32.size

/-- The next names, counted up. If they run out, the count stays at the last. -/
def takeNames (r : Recorder) (n : Nat) : List UInt32 × Recorder :=
  ((List.range n).map fun i => r.nextName + UInt32.ofNat i,
   { r with nextName := if r.hasNames n then r.nextName + UInt32.ofNat n else 0xFFFFFFFF })

def takeError (r : Recorder) : Enum × Recorder :=
  match r.errors with
  | [] => (GL.noError, r)
  | e :: errors => (e, { r with errors })

/-- Built-in variables have no location; any other name has its length in bytes. -/
def locationOf (name : String) : Int32 :=
  if "gl_".isPrefixOf name then -1 else Int32.ofNat name.utf8ByteSize

def answer (r : Recorder) : (c : Call) → c.Answer × Recorder
  | .getDisplay native => (⟨native.id + 1⟩, r)
  | .initDisplay _ => (some (1, 4), r)
  | .terminateDisplay _ => (true, r)
  | .chooseConfig _ _ max =>
    (some ((List.range (min max.toInt.toNat 2)).map fun i => ⟨UInt64.ofNat (i + 1)⟩), r)
  | .createContext .. =>
    let (h, r) := r.takeHandle
    (⟨h⟩, r)
  | .destroyContext .. => (true, r)
  | .createWindowSurface .. =>
    let (h, r) := r.takeHandle
    (⟨h⟩, r)
  | .createPbufferSurface .. =>
    let (h, r) := r.takeHandle
    (⟨h⟩, r)
  | .destroySurface .. => (true, r)
  | .makeCurrent .. => (!r.refusesCurrent, r)
  | .releaseThread => (true, r)
  | .swapBuffers .. => (true, r)
  | .eglGetError => (EGL.success, r)
  | .getError => r.takeError
  | .getIntegerv pname values =>
    (fitted values.length ((r.integers.lookup pname).getD []), r)
  | .generate _ names => r.takeNames names.length
  | .checkFramebufferStatus _ => (GL.framebufferComplete, r)
  | .createShader _ =>
    let (h, r) := r.takeHandle
    (h.toUInt32, r)
  | .createProgram =>
    let (h, r) := r.takeHandle
    (h.toUInt32, r)
  | .location _ _ name => (locationOf name, r)
  | c => (c.entry.answer.empty, r)

/-- The answer where nothing is bound. The error query of the display system never fails. -/
def silent : (c : Call) → c.Answer
  | .eglGetError => EGL.success
  | c => c.unanswered

def perform (r : Recorder) (c : Call) : c.Answer × Recorder :=
  let (a, r) := if r.bound c.entry then { r with log := c :: r.log }.answer c else (silent c, r)
  (if r.failing.contains c.entry then c.failed else a, r)

instance : Driver Recorder := ⟨bound, perform⟩

/-! Running out -/

/-- A number is wanted that is larger than numbers of its kind can be. -/
structure Overflow where
  deriving DecidableEq, Repr

def Overflow.message (_ : Overflow) : String := "attempt to add with overflow"

/-- Whether the call, which is recorded all the same, has no answer for want
of numbers: a display is one above its native display, and a name is given out
only if there is one after it. -/
def overflow? (r : Recorder) (c : Call) : Option Overflow :=
  let wants : Bool := match c with
    | .getDisplay native => native.id == 0xFFFFFFFFFFFFFFFF
    | .generate _ names => !r.hasNames names.length
    | _ => false
  if wants && r.bound c.entry then some ⟨⟩ else none

theorem log_answer (r : Recorder) (c : Call) : (r.answer c).2.log = r.log := by
  cases c
  case getError =>
    show r.takeError.2.log = r.log
    unfold takeError
    split <;> rfl
  all_goals exact rfl

/-- A call is recorded exactly if its entry point is bound. -/
theorem log_perform (r : Recorder) (c : Call) :
    (r.perform c).2.log = if r.bound c.entry then c :: r.log else r.log := by
  unfold perform
  by_cases h : r.bound c.entry <;> simp [h, log_answer]

end Recorder

end RenderRelay
