import RenderRelay.Ring
import RenderRelay.Wire.Record

/-!
# Channels

A channel is two rings, one for commands and one for replies. The client
numbers its commands with tokens; the server acknowledges the token of each
command it has handled and posts replies under the token of their command.
-/

set_option autoImplicit false

namespace RenderRelay

open Wire (Header DecodeError)

inductive TransportError where
  | tooLarge (length capacity : Nat)
  | malformed (cause : DecodeError)
  | unexpectedReply (expected got : UInt32)
  deriving DecidableEq, Repr

def TransportError.message : TransportError → String
  | .tooLarge n capacity =>
    "record of " ++ toString n ++ " bytes does not fit in a ring of " ++ toString capacity ++ " bytes"
  | .malformed e => "malformed record: " ++ e.message
  | .unexpectedReply expected got =>
    "expected reply for token " ++ toString expected.toNat ++ ", got token " ++ toString got.toNat

/-- The token after `t`. Tokens wrap around and leave out the one of no record. -/
def nextToken (t : UInt32) : UInt32 := if t + 1 = Ring.noToken then 1 else t + 1

/-- Whether `last` has reached `token`: it is at most half of all tokens ahead. -/
def tokenReached (last token : UInt32) : Bool := (last - token).toNat < 0x80000000

theorem nextToken_ne (t : UInt32) : nextToken t ≠ Ring.noToken := by
  unfold nextToken
  split
  · decide
  · assumption

theorem tokenReached_self (t : UInt32) : tokenReached t t = true := by
  simp [tokenReached]

/-- Takes the record at the reader's cursor, waiting for its header and then
for all of it. A header that makes no sense stays where it is; a record whose
payload does not decode is stepped over. -/
def Ring.takeRecord {α : Type} (decode : Bytes → Except DecodeError (Header × α)) (r : Ring) :
    Attempt (Except TransportError (Header × α) × Ring) :=
  if r.fill < Wire.headerSize then .waits
  else match Header.parse (r.peek Wire.headerSize) with
    | .error e => .ready (.error (.malformed e), r)
    | .ok h =>
      .persist (h.length ≤ r.fill)
        ((decode (r.peek (min h.length r.fill))).mapError TransportError.malformed, r.skip h.length)

structure Channel where
  commands : Ring
  replies : Ring
  /-- The token given out last. -/
  issued : UInt32
  deriving Repr

namespace Channel

def create (settings : Ring.Settings) (usable : String → Bool) :
    Except Ring.SetupError Channel := do
  let commands ← Ring.create 0 settings usable
  let replies ← Ring.create 1 settings usable
  return ⟨commands, replies, Ring.noToken⟩

/-! The client's end -/

/-- Sends a command. A token is used up even by a command that does not fit. -/
def send (c : Channel) (command : Command) : Attempt (Except TransportError UInt32 × Channel) :=
  let token := nextToken c.issued
  let record := Wire.encodeCommand token command
  match c.commands.push record with
  | .ready (.ok commands) => .ready (.ok token, { c with commands, issued := token })
  | .ready (.error _) =>
    .ready (.error (.tooLarge record.length c.commands.capacity), { c with issued := token })
  | _ => .waits

/-- Takes the reply to the command with the given token. -/
def takeReply (c : Channel) (token : UInt32) : Attempt (Except TransportError Reply × Channel) :=
  (c.replies.takeRecord Wire.decodeReply).map fun (result, replies) =>
    (match result with
      | .error e => .error e
      | .ok (h, reply) =>
        if h.token = token then .ok reply else .error (.unexpectedReply token h.token),
     { c with replies })

/-- Sends a command and takes its reply. -/
def call (c : Channel) (command : Command) : Attempt (Except TransportError Reply × Channel) :=
  match c.send command with
  | .ready (.ok token, c) => c.takeReply token
  | .ready (.error e, c) => .ready (.error e, c)
  | _ => .waits

/-- Waits until the command with the given token has been handled. -/
def waitForToken (c : Channel) (token : UInt32) : Attempt Unit :=
  .persist (tokenReached c.commands.lastToken token) ()

/-- Sends a command and waits until it has been handled. -/
def settle (c : Channel) (command : Command) : Attempt (Except TransportError Unit × Channel) :=
  match c.send command with
  | .ready (.ok token, c) => (c.waitForToken token).map fun () => (.ok (), c)
  | .ready (.error e, c) => .ready (.error e, c)
  | _ => .waits

def sync (c : Channel) : Attempt (Except TransportError Unit × Channel) := c.settle .nop

def shutdown (c : Channel) : Attempt (Except TransportError Unit × Channel) := c.settle .shutdown

/-! The server's end -/

def postReply (c : Channel) (token : UInt32) (reply : Reply) :
    Attempt (Except TransportError Unit × Channel) :=
  let record := Wire.encodeReply token reply
  match c.replies.push record with
  | .ready (.ok replies) => .ready (.ok (), { c with replies })
  | .ready (.error _) => .ready (.error (.tooLarge record.length c.replies.capacity), c)
  | _ => .waits

/-- Asks for the command at the reader's cursor and steps over it if it decodes. -/
def readCommand (c : Channel) : Attempt (Except DecodeError (Header × Command) × Channel) :=
  (c.commands.waitReadable Wire.headerSize).map fun bytes =>
    match Wire.decodeCommand bytes with
    | .ok (h, command) => (.ok (h, command), { c with commands := c.commands.skip h.length })
    | .error e => (.error e, c)

/-- Acknowledges that the command with the given token has been handled. -/
def acknowledge (c : Channel) (token : UInt32) : Channel :=
  { c with commands := c.commands.acknowledge token }

end Channel

end RenderRelay
