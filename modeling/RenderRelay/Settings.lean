import RenderRelay.Ring
import RenderRelay.Text.Blank
import RenderRelay.Text.Quoted

/-!
# Settings from the environment

Ring and library settings are read from variables. A variable that is unset,
is no text, or is blank leaves the default; numbers that do not read are
errors that quote the value as it was given.
-/

set_option autoImplicit false

namespace RenderRelay

/-- Variables with their values as bytes. -/
abbrev Environment := List (String × Bytes)

/-- The value of a variable, if it is set to a text. -/
def Environment.text? (env : Environment) (key : String) : Option String := do
  String.fromUTF8? ⟨(← env.lookup key).toArray⟩

namespace Settings

structure InvalidValue where
  value : String
  key : String
  deriving DecidableEq, Repr

def InvalidValue.message (e : InvalidValue) : String :=
  "invalid value " ++ Text.quoted e.value ++ " for " ++ e.key

/-! Reading values -/

def digit? (c : Char) : Option Nat :=
  if '0' ≤ c ∧ c ≤ '9' then some (c.toNat - '0'.toNat) else none

/-- The value of decimal digits behind those that make up `value`. -/
def digits? : Nat → List Char → Option Nat
  | value, [] => some value
  | value, c :: cs => do digits? (10 * value + (← digit? c)) cs

/-- One digit at least. -/
def natural? : List Char → Option Nat
  | [] => none
  | cs => digits? 0 cs

/-- A decimal number between `min` and `max`. A plus sign may stand before it,
and a minus sign if there are numbers below zero. -/
def integer? (min max : Int) (s : String) : Option Int := do
  let n : Int ← match s.toList with
    | '+' :: cs => Int.ofNat <$> natural? cs
    | '-' :: cs => if min < 0 then (fun n => -Int.ofNat n) <$> natural? cs else none
    | cs => Int.ofNat <$> natural? cs
  if min ≤ n ∧ n ≤ max then some n else none

/-- How many numbers have at most that many binary digits. -/
def span (bits : Nat) : Int := Int.ofNat (1 <<< bits)

def unsigned? (bits : Nat) : String → Option Int := integer? 0 (span bits - 1)

def signed? (bits : Nat) : String → Option Int :=
  integer? (-span (bits - 1)) (span (bits - 1) - 1)

def boolean? : String → Option Bool
  | "true" => some true
  | "false" => some false
  | _ => none

/-- The value of a variable, read without the blanks around it. -/
def read {α : Type} (parse : String → Option α) (env : Environment) (key : String) :
    Except InvalidValue (Option α) :=
  match env.text? key with
  | none => .ok none
  | some raw =>
    let trimmed := Text.trim raw
    if trimmed.isEmpty then .ok none
    else match parse trimmed with
      | some value => .ok (some value)
      | none => .error ⟨raw, key⟩

/-- Words that switch something on, in any case of ASCII letters. -/
def isTruthy (s : String) : Bool :=
  let s := Text.trim s
  s == "1" || ["true", "yes", "on"].contains (s.map Char.toLower)

/-! The variables -/

def blockingVariable : String := "SHADOWGL_TRANSPORT_BLOCKING"

def capacityVariable : String := "SHADOWGL_RING_BYTES"

def directoryVariable : String := "SHADOWGL_SHM_DIR"

def pollVariable : String := "SHADOWGL_POLL_INTERVAL_NS"

def displayLibraryVariable : String := "SHADOWGL_LIBEGL_PATH"

def renderLibraryVariable : String := "SHADOWGL_LIBGLES_PATH"

def waitMode (env : Environment) : WaitMode :=
  match env.text? blockingVariable with
  | some raw => if isTruthy raw then .blocking else .busyPoll
  | none => .busyPoll

/-- The settings of every ring. -/
def ring (env : Environment) : Except InvalidValue Ring.Settings := do
  let capacity ← read (unsigned? 64) env capacityVariable
  let poll ← read (unsigned? 64) env pollVariable
  let defaults : Ring.Settings := {}
  return {
    capacity := (capacity.map Int.toNat).getD defaults.capacity
    mode := waitMode env
    directory := match env.text? directoryVariable with
      | some dir => if (Text.trim dir).isEmpty then defaults.directory else dir
      | none => defaults.directory
    pollInterval := (poll.map fun n => UInt64.ofNat n.toNat).getD defaults.pollInterval }

structure Server where
  displayLibrary : String
  renderLibrary : String
  ring : Ring.Settings
  deriving DecidableEq, Repr

/-- A path without the blanks around it. -/
def path (env : Environment) (key fallback : String) : String :=
  match env.text? key with
  | some raw =>
    let trimmed := Text.trim raw
    if trimmed.isEmpty then fallback else trimmed
  | none => fallback

/-- The settings of a server: its two libraries and the rings of its channels. -/
def server (env : Environment) : Except InvalidValue Server := do
  return {
    displayLibrary := path env displayLibraryVariable "libEGL.so"
    renderLibrary := path env renderLibraryVariable "libGLESv2.so"
    ring := ← ring env }

end Settings

end RenderRelay
