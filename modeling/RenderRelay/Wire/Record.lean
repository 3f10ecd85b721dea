import RenderRelay.Command.Opcode
import RenderRelay.Reply

/-!
# Records

A record is a header of three words, opcode, size and token, followed by the
payload and zeros up to the next multiple of four. The size covers all of
it, so a reader can step over a record without understanding its payload.
Reply records carry the kind of reply in place of the opcode.
-/

set_option autoImplicit false

namespace RenderRelay.Wire

def headerSize : Nat := 12

def alignment : Nat := 4

def alignUp (n : Nat) : Nat := (n + (alignment - 1)) / alignment * alignment

/-- Bytes that a record with a payload of `n` bytes takes. -/
def recordSize (n : Nat) : Nat := alignUp (headerSize + n)

theorem le_alignUp (n : Nat) : n ≤ alignUp n := by
  simp only [alignUp, alignment]
  omega

theorem alignUp_lt (n : Nat) : alignUp n < n + alignment := by
  simp only [alignUp, alignment]
  omega

theorem alignUp_mod (n : Nat) : alignUp n % alignment = 0 := by
  simp [alignUp]

structure Header where
  opcode : UInt32
  size : UInt32
  token : UInt32
  deriving DecidableEq, Repr

namespace Header

def length (h : Header) : Nat := h.size.toNat

/-- Whether the record has no payload. -/
def isEmpty (h : Header) : Bool := h.length == headerSize

def write (h : Header) : Bytes :=
  bytesLE 4 h.opcode.toNat ++ bytesLE 4 h.size.toNat ++ bytesLE 4 h.token.toNat

def ofBytes (bs : Bytes) : Header where
  opcode := UInt32.ofNat (natLE (bs.take 4))
  size := UInt32.ofNat (natLE ((bs.drop 4).take 4))
  token := UInt32.ofNat (natLE ((bs.drop 8).take 4))

/-- The header at the start of the input. A size must cover the header and be
a multiple of the alignment. -/
def parse (input : Bytes) : Except DecodeError Header :=
  match chop headerSize input with
  | none => .error .unexpectedEnd
  | some (front, _) =>
    let h := ofBytes front
    if h.length < headerSize || h.length % alignment != 0 then .error (.badSize h.size) else .ok h

end Header

/-- The record with the given payload. -/
def record (opcode token : UInt32) (payload : Bytes) : Bytes :=
  let size := recordSize payload.length
  (Header.mk opcode (UInt32.ofNat size) token).write ++ payload ++
    List.replicate (size - headerSize - payload.length) 0

theorem length_record (opcode token : UInt32) (payload : Bytes) :
    (record opcode token payload).length = recordSize payload.length := by
  have := le_alignUp (headerSize + payload.length)
  simp only [record, Header.write, List.length_append, length_bytesLE, List.length_replicate,
    recordSize, headerSize] at *
  omega

/-- Puts bytes in the place of as many that stand at `start`. -/
def overwrite (out : Bytes) (start : Nat) (bs : Bytes) : Bytes :=
  out.take start ++ bs ++ out.drop (start + bs.length)

/-- Writes a record behind what is there already. Its size is put in once the
end of the payload is known. -/
def appendRecord (opcode token : UInt32) (payload out : Bytes) : Bytes :=
  let written := out ++ (Header.mk opcode 0 token).write ++ payload
  let size := alignUp (written.length - out.length)
  let padded := written ++ List.replicate (out.length + size - written.length) 0
  overwrite padded (out.length + 4) (bytesLE 4 (UInt32.ofNat size).toNat)

theorem overwrite_append (front gap back bs : Bytes) (h : gap.length = bs.length) :
    overwrite (front ++ (gap ++ back)) front.length bs = front ++ (bs ++ back) := by
  have hd : (front ++ (gap ++ back)).drop (front.length + bs.length) = back := by
    rw [← List.append_assoc, List.drop_left' (by rw [List.length_append, h])]
  rw [overwrite, hd, List.take_left, List.append_assoc]

/-- What is there already stays, and the record follows. -/
theorem appendRecord_eq (opcode token : UInt32) (payload out : Bytes) :
    appendRecord opcode token payload out = out ++ record opcode token payload := by
  have hlength : (out ++ (Header.mk opcode 0 token).write ++ payload).length =
      out.length + (headerSize + payload.length) := by
    simp only [Header.write, List.length_append, length_bytesLE, headerSize]
    omega
  have hsize : alignUp (out.length + (headerSize + payload.length) - out.length) =
      recordSize payload.length := by
    rw [Nat.add_sub_cancel_left, recordSize]
  have hzeros : out.length + recordSize payload.length -
      (out.length + (headerSize + payload.length)) =
      recordSize payload.length - headerSize - payload.length := by omega
  have hplace : out.length + 4 = (out ++ bytesLE 4 opcode.toNat).length := by simp
  -- The size stands between the opcode and the token.
  have hparts : ∀ opcode size token zeros : Bytes,
      out ++ (opcode ++ size ++ token) ++ payload ++ zeros =
        (out ++ opcode) ++ (size ++ (token ++ payload ++ zeros)) := by
    intro opcode size token zeros
    simp only [List.append_assoc]
  unfold appendRecord
  dsimp only
  rw [hlength, hsize, hzeros, hplace, Header.write, hparts,
    overwrite_append _ _ _ _ (by simp), ← hparts, record]
  simp only [Header.write, List.append_assoc]

/-- What follows the header in a record that starts the input. -/
def body (h : Header) (input : Bytes) : Except DecodeError Bytes :=
  match chop (h.length - headerSize) (input.drop headerSize) with
  | none => .error .unexpectedEnd
  | some (bs, _) => .ok bs

/-- Reads a whole payload. Only padding, fewer bytes than the alignment, may
be left over. -/
def readPayload (fs : List Field) (bs : Bytes) : Except DecodeError (Arguments fs) :=
  match Arguments.read fs bs with
  | .error e => .error e
  | .ok (args, rest) =>
    if alignment ≤ rest.length then .error (.trailingBytes rest.length) else .ok args

def encodeCommand (token : UInt32) (c : Command) : Bytes :=
  record c.opcode.number token (Arguments.write c.opcode.signature c.arguments)

def appendCommand (token : UInt32) (c : Command) (out : Bytes) : Bytes :=
  appendRecord c.opcode.number token (Arguments.write c.opcode.signature c.arguments) out

theorem appendCommand_eq (token : UInt32) (c : Command) (out : Bytes) :
    appendCommand token c out = out ++ encodeCommand token c :=
  appendRecord_eq ..

/-- The command record that starts the input; what follows it is not looked at. -/
def decodeCommand (input : Bytes) : Except DecodeError (Header × Command) := do
  let h ← Header.parse input
  let bs ← body h input
  match Opcode.ofNumber? h.opcode with
  | none => .error (.unknownOpcode h.opcode)
  | some op => return (h, Command.ofArguments op (← readPayload op.signature bs))

def encodeReply (token : UInt32) (r : Reply) : Bytes :=
  record r.kind.number token (Arguments.write r.kind.signature r.arguments)

def appendReply (token : UInt32) (r : Reply) (out : Bytes) : Bytes :=
  appendRecord r.kind.number token (Arguments.write r.kind.signature r.arguments) out

theorem appendReply_eq (token : UInt32) (r : Reply) (out : Bytes) :
    appendReply token r out = out ++ encodeReply token r :=
  appendRecord_eq ..

/-- The reply record that starts the input; what follows it is not looked at. -/
def decodeReply (input : Bytes) : Except DecodeError (Header × Reply) := do
  let h ← Header.parse input
  let bs ← body h input
  match Reply.Kind.ofNumber? h.opcode with
  | none => .error (.unknownReply h.opcode)
  | some k => return (h, Reply.ofArguments k (← readPayload k.signature bs))

end RenderRelay.Wire
