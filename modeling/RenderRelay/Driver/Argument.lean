import RenderRelay.Driver.Call

/-!
# Call reports

The arguments of a call as reports show them.
-/

set_option autoImplicit false

namespace RenderRelay

inductive Argument where
  | int (value : Int)
  | single (value : Single)
  | flag (value : Bool)
  | text (value : String)
  | bytes (value : Bytes)
  | absent
  | list (items : List Argument)
  deriving Repr

namespace Argument

open Wire (Field Arguments)

def nat (n : Nat) : Argument := int n

def ofOption : Option Argument → Argument
  | none => absent
  | some a => a

def ofValue : (f : Field) → f.Value → Argument
  | .flag, b => flag b
  | .mask, m => list [flag m.red, flag m.green, flag m.blue, flag m.alpha]
  | .word, n => nat n.toNat
  | .int, n => int n.toInt
  | .long, n => int n.toInt
  | .wide, n => nat n.toNat
  | .single, x => single x
  | .color, c => list [single c.red, single c.green, single c.blue, single c.alpha]
  | .words, ns => list (ns.map fun n => nat n.toNat)
  | .ints, ns => list (ns.map fun n => int n.toInt)
  | .wides, ns => list (ns.map fun n => nat n.toNat)
  | .text, s => text s
  | .texts, ss => list (ss.map text)
  | .blob, bs => bytes bs
  | .optionalBlob, bs => ofOption (bs.map bytes)

def ofArguments : (fs : List Field) → Arguments fs → List Argument
  | [], _ => []
  | f :: fs, (v, vs) => ofValue f v :: ofArguments fs vs

/-- All arguments of a call. -/
def ofCall (c : Call) : List Argument := ofArguments c.entry.signature c.arguments

/-- The arguments of a call without what is stored or filled: blobs and arrays
of names to be given show their lengths, the array of a query not at all. -/
def summary : Call → List Argument
  | .generate _ names => [nat names.length]
  | .getIntegerv pname _ => [nat pname.toNat]
  | .bufferData target size data usage =>
    [nat target.toNat, int size.toInt, ofOption (data.map fun d => nat d.length),
     nat usage.toNat]
  | .bufferSubData target offset data => [nat target.toNat, int offset.toInt, nat data.length]
  | .texImage2D image =>
    (ofCall (.texImage2D image)).dropLast ++ [ofOption (image.pixels.map fun d => nat d.length)]
  | c => ofCall c

end Argument

end RenderRelay
