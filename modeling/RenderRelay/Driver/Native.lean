import RenderRelay.Driver

/-!
# Native drivers

A driver that calls functions of loaded libraries. A rendering function is
asked for at the display library's symbol lookup and then looked up in the
rendering library, symbol by symbol; one that is found under none of its
symbols stays unbound.
-/

set_option autoImplicit false

namespace RenderRelay

namespace Native

/-- A function in memory: where it comes from and the symbol it is there under. -/
structure Function where
  provider : String
  symbol : String
  deriving DecidableEq, Repr

/-- What a call of a function leaves behind. -/
structure Outcome where
  /-- The register that a result is returned in. -/
  value : UInt64 := 0
  /-- The elements written to the output array, from its start on. -/
  written : List UInt64 := []
  /-- The count written to a separate output. -/
  count : Int32 := 0
  deriving DecidableEq, Repr

/-- The machine that libraries are opened and called on. -/
class Host (η : Type) where
  opens : η → EntryPoint.Library → Bool
  /-- The function that a library exports under a symbol. -/
  exported : η → EntryPoint.Library → String → Option Function
  /-- What a lookup function answers for a symbol. -/
  procAddress : η → Function → String → Option Function × η
  invoke : η → Function → Call → Outcome × η

structure LoadError where
  library : EntryPoint.Library
  deriving DecidableEq, Repr

end Native

structure Native (η : Type) where
  host : η
  /-- The functions behind the bound entry points. -/
  table : List (EntryPoint × Native.Function)
  deriving Repr

namespace Native

variable {η : Type} [Host η]

/-! Finding functions -/

/-- The first function found under one of the symbols. `lookup` is asked
before the library for rendering functions. -/
def resolve (host : η) (lookup : Option Function) (library : EntryPoint.Library) :
    List String → Option Function × η
  | [] => (none, host)
  | symbol :: symbols =>
    let (told, host) := match library, lookup with
      | .gles, some f => Host.procAddress host f symbol
      | _, _ => (none, host)
    match told <|> Host.exported host library symbol with
    | some f => (some f, host)
    | none => resolve host lookup library symbols

/-- The functions behind the entry points that have one. -/
def resolveAll (host : η) (lookup : Option Function) :
    List EntryPoint → List (EntryPoint × Function) × η
  | [] => ([], host)
  | e :: es =>
    let (found, host) := resolve host lookup e.library e.candidates
    let (table, host) := resolveAll host lookup es
    (match found with
      | some f => (e, f) :: table
      | none => table,
     host)

/-- Opens both libraries and looks for every entry point. Without the
rendering library its functions can still be told by the lookup function. -/
def load (host : η) : Except LoadError (Native η) :=
  if Host.opens host .egl then
    let (lookup, host) := resolve host none .egl EntryPoint.eglGetProcAddress.candidates
    let (table, host) := resolveAll host lookup EntryPoint.all
    .ok ⟨host, table⟩
  else .error ⟨.egl⟩

def function? (n : Native η) (e : EntryPoint) : Option Function := n.table.lookup e

def bound (n : Native η) (e : EntryPoint) : Bool := (n.function? e).isSome

/-! Passing arguments -/

/-- An attribute list as it is passed: with an end marker behind it, unless
one is the last of an odd number of words. -/
def terminated (attribs : List Int32) : List Int32 :=
  if attribs.length % 2 = 1 ∧ attribs.getLast? = some EGL.none then attribs
  else attribs ++ [EGL.none]

/-- The call as the function sees it. No more bytes are announced than there
are, and no array has less than no elements. -/
def passed : Call → Call
  | .chooseConfig display attribs max => .chooseConfig display (terminated attribs) (if max < 0 then 0 else max)
  | .createContext display config share attribs =>
    .createContext display config share (terminated attribs)
  | .createWindowSurface display config window attribs =>
    .createWindowSurface display config window (terminated attribs)
  | .createPbufferSurface display config attribs =>
    .createPbufferSurface display config (terminated attribs)
  | .bufferData target size (some data) usage =>
    .bufferData target (min size (Int64.ofNat data.length)) (some data) usage
  | c => c

/-- Whether the arguments can be passed: names end at their first zero byte. -/
def passable : Call → Bool
  | .location _ _ name => !name.toList.contains '\x00'
  | _ => true

/-! Taking answers -/

/-- An array after its first elements were written over. -/
def overwritten {α : Type} (written array : List α) : List α :=
  written.take array.length ++ array.drop written.length

namespace Outcome

def word (o : Outcome) : UInt32 := o.value.toUInt32

def succeeded (o : Outcome) : Bool := o.word != 0

def words (o : Outcome) : List UInt32 := o.written.map UInt64.toUInt32

def ints (o : Outcome) : List Int32 := o.words.map UInt32.toInt32

/-- The first `n` handles of an array of zeros that was written to. -/
def handles (o : Outcome) (n : Nat) : List UInt64 :=
  o.written.take n ++ List.replicate (n - o.written.length) 0

end Outcome

def answer (o : Outcome) : (c : Call) → c.Answer
  | .getDisplay _ => ⟨o.value⟩
  | .initDisplay _ => if o.succeeded then some (o.ints.getD 0 0, o.ints.getD 1 0) else none
  | .terminateDisplay _ => o.succeeded
  | .chooseConfig _ _ max =>
    if o.succeeded then
      some ((o.handles (min o.count.toInt.toNat max.toInt.toNat)).map Config.mk)
    else none
  | .createContext .. => ⟨o.value⟩
  | .destroyContext .. => o.succeeded
  | .createWindowSurface .. => ⟨o.value⟩
  | .createPbufferSurface .. => ⟨o.value⟩
  | .destroySurface .. => o.succeeded
  | .makeCurrent .. => o.succeeded
  | .releaseThread => o.succeeded
  | .swapBuffers .. => o.succeeded
  | .eglGetError => o.word.toInt32
  | .getError => o.word
  | .isEnabled _ => o.value.toUInt8 != 0
  | .getIntegerv _ values => overwritten o.ints values
  | .generate _ names => overwritten o.words names
  | .checkFramebufferStatus _ => o.word
  | .createShader _ => o.word
  | .createProgram => o.word
  | .location .. => o.word.toInt32
  | c => c.entry.answer.empty

/-- The answer where no function was called. -/
def silent : (c : Call) → c.Answer
  | .eglGetError => EGL.notInitialized
  | c => c.unanswered

def perform (n : Native η) (c : Call) : c.Answer × Native η :=
  match n.function? c.entry, passable c with
  | some f, true =>
    let (outcome, host) := Host.invoke n.host f (passed c)
    (answer outcome c, { n with host })
  | _, _ => (silent c, n)

instance : Driver (Native η) := ⟨bound, perform⟩

end Native

end RenderRelay
