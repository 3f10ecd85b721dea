import RenderRelay.Command
import RenderRelay.Text.Hex
import RenderRelay.Wire.Bytes

/-!
# Record fields

The kinds of argument a record carries, and how each is written and read.
Lists, texts and blobs are a 32-bit count followed by their elements. A
flag is written as zero or one and read as "not zero". Reading never looks
past the bytes it is given and reports the first thing that is wrong.
-/

set_option autoImplicit false

namespace RenderRelay.Wire

inductive DecodeError where
  | unexpectedEnd
  | unknownOpcode (opcode : UInt32)
  | unknownReply (kind : UInt32)
  | badSize (size : UInt32)
  | invalidText
  | trailingBytes (count : Nat)
  deriving DecidableEq, Repr

def DecodeError.message : DecodeError → String
  | .unexpectedEnd => "unexpected end of record"
  | .unknownOpcode n => "unknown opcode " ++ Text.hexPadded 4 n.toNat
  | .unknownReply n => "unknown reply kind " ++ toString n.toNat
  | .badSize n => "record size " ++ toString n.toNat ++ " is invalid"
  | .invalidText => "invalid UTF-8 in string argument"
  | .trailingBytes n => toString n ++ " trailing bytes after payload"

/-- Reads a value off the front of the input. -/
abbrev Reader (α : Type) := StateT Bytes (Except DecodeError) α

namespace Reader

def fail {α : Type} (e : DecodeError) : Reader α := fun _ => .error e

def bytes (n : Nat) : Reader Bytes := fun input =>
  match chop n input with
  | some (front, rest) => .ok (front, rest)
  | none => .error .unexpectedEnd

def word : Reader UInt32 := (UInt32.ofNat <| natLE ·) <$> bytes 4

def wide : Reader UInt64 := (UInt64.ofNat <| natLE ·) <$> bytes 8

def flag : Reader Bool := (natLE · != 0) <$> bytes 1

def int : Reader Int32 := UInt32.toInt32 <$> word

def long : Reader Int64 := UInt64.toInt64 <$> wide

def single : Reader Single := Single.mk <$> word

/-- An element count. Every element takes a byte at least, so a count above
the number of bytes left is refused before anything is read. -/
def count : Reader Nat := do
  let n ← word
  if (← get).length < n.toNat then fail .unexpectedEnd else pure n.toNat

/-- `n` values in order, behind those in `done`, which are in reverse. -/
def times {α : Type} (item : Reader α) : Nat → List α → Reader (List α)
  | 0, done => pure done.reverse
  | n + 1, done => do
    let a ← item
    times item n (a :: done)

def list {α : Type} (item : Reader α) : Reader (List α) := do
  times item (← count) []

def blob : Reader Bytes := do
  bytes (← count)

def text : Reader String := do
  let n ← word
  match String.fromUTF8? ⟨(← bytes n.toNat).toArray⟩ with
  | some s => pure s
  | none => fail .invalidText

end Reader

/-- The kinds of argument. -/
inductive Field where
  | flag
  | mask
  | word
  | int
  | long
  | wide
  | single
  | color
  | words
  | ints
  | wides
  | text
  | texts
  | blob
  | optionalBlob
  deriving DecidableEq, Repr

namespace Field

@[reducible] def Value : Field → Type
  | flag => Bool
  | mask => ChannelMask
  | word => UInt32
  | int => Int32
  | long => Int64
  | wide => UInt64
  | single => Single
  | color => Color
  | words => List UInt32
  | ints => List Int32
  | wides => List UInt64
  | text => String
  | texts => List String
  | blob => Bytes
  | optionalBlob => Option Bytes

def writeFlag (b : Bool) : Bytes := [if b then 1 else 0]

def writeWord (n : UInt32) : Bytes := bytesLE 4 n.toNat

def writeWide (n : UInt64) : Bytes := bytesLE 8 n.toNat

def writeSingle (x : Single) : Bytes := writeWord x.bits

/-- The count is written modulo 2^32. -/
def writeList {α : Type} (item : α → Bytes) (xs : List α) : Bytes :=
  bytesLE 4 xs.length ++ xs.flatMap item

def writeBlob (bs : Bytes) : Bytes := bytesLE 4 bs.length ++ bs

def writeText (s : String) : Bytes := writeBlob s.toByteArray.data.toList

def write : (f : Field) → f.Value → Bytes
  | flag, b => writeFlag b
  | mask, m => writeFlag m.red ++ writeFlag m.green ++ writeFlag m.blue ++ writeFlag m.alpha
  | word, n => writeWord n
  | int, n => writeWord n.toUInt32
  | long, n => writeWide n.toUInt64
  | wide, n => writeWide n
  | single, x => writeSingle x
  | color, c => writeSingle c.red ++ writeSingle c.green ++ writeSingle c.blue ++ writeSingle c.alpha
  | words, ns => writeList writeWord ns
  | ints, ns => writeList (fun n => writeWord n.toUInt32) ns
  | wides, ns => writeList writeWide ns
  | text, s => writeText s
  | texts, ss => writeList writeText ss
  | blob, bs => writeBlob bs
  | optionalBlob, none => writeFlag false
  | optionalBlob, some bs => writeFlag true ++ writeBlob bs

def read : (f : Field) → Reader f.Value
  | flag => Reader.flag
  | mask => return ⟨← Reader.flag, ← Reader.flag, ← Reader.flag, ← Reader.flag⟩
  | word => Reader.word
  | int => Reader.int
  | long => Reader.long
  | wide => Reader.wide
  | single => Reader.single
  | color => return ⟨← Reader.single, ← Reader.single, ← Reader.single, ← Reader.single⟩
  | words => Reader.list Reader.word
  | ints => Reader.list Reader.int
  | wides => Reader.list Reader.wide
  | text => Reader.text
  | texts => Reader.list Reader.text
  | blob => Reader.blob
  | optionalBlob => do
    if ← Reader.flag then
      return some (← Reader.blob)
    else
      return none

end Field

/-- The arguments of a record whose fields have the given kinds. -/
@[reducible] def Arguments : List Field → Type
  | [] => Unit
  | f :: fs => f.Value × Arguments fs

namespace Arguments

def write : (fs : List Field) → Arguments fs → Bytes
  | [], () => []
  | f :: fs, (v, vs) => f.write v ++ write fs vs

def read : (fs : List Field) → Reader (Arguments fs)
  | [] => pure ()
  | f :: fs => do
    let v ← f.read
    let vs ← read fs
    return (v, vs)

end Arguments

end RenderRelay.Wire
