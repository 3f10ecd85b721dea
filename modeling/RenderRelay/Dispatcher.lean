import RenderRelay.Channel
import RenderRelay.Engine

/-!
# Dispatchers

A dispatcher serves one channel with one engine. Each step handles the record
at the cursor: it is decoded and carried out, its reply is posted, and only
then is the record given back and its token acknowledged. A record that does
not decode is skipped; a header that makes no sense stops the dispatcher.
-/

set_option autoImplicit false

namespace RenderRelay

open Wire (Header DecodeError)

inductive DispatchError where
  | corruptRecord (cause : DecodeError)
  | reply (cause : TransportError)
  deriving DecidableEq, Repr

def DispatchError.message : DispatchError → String
  | .corruptRecord e => "corrupt record header: " ++ e.message
  | .reply e => "failed to post reply: " ++ e.message

/-- What a handled record says about the next one. -/
inductive Outcome where
  | goOn
  | shutdown
  deriving DecidableEq, Repr

def Outcome.ofCommand : Command → Outcome
  | .shutdown => shutdown
  | _ => goOn

/-- Why a run came to its end. -/
inductive Halt where
  | shutdown
  | failed (cause : DispatchError)
  /-- The next step has to wait. -/
  | starved
  deriving DecidableEq, Repr

structure Dispatcher (δ : Type) where
  channel : Channel
  engine : Engine δ

namespace Dispatcher

variable {δ : Type}

/-- The header at the cursor, once its bytes are there. A record that the
ring cannot hold is never waited for. -/
def header (d : Dispatcher δ) : Attempt (Except DispatchError Header) :=
  let ring := d.channel.commands
  if ring.fill < Wire.headerSize then .waits
  else match Header.parse (ring.peek Wire.headerSize) with
    | .error e => .ready (.error (.corruptRecord e))
    | .ok h =>
      if ring.capacity < h.length then .ready (.error (.corruptRecord (.badSize h.size)))
      else .persist (h.length ≤ ring.fill) (.ok h)

/-- Gives a handled record back and acknowledges it. -/
def finish (d : Dispatcher δ) (h : Header) : Dispatcher δ where
  channel := { d.channel with
    commands := (d.channel.commands.skip h.length).acknowledge h.token }
  engine := { d.engine with
    server := { d.engine.server with stats := d.engine.server.stats.dispatched } }

variable [Driver δ]

/-- Carries out a command and posts its reply. The record stays if the reply
does not fit. -/
def handle (d : Dispatcher δ) (h : Header) (c : Command) :
    Attempt (Except DispatchError Outcome × Dispatcher δ) :=
  let (reply, engine) := d.engine.execute c
  let d := { d with engine }
  match reply with
  | none => .ready (.ok (.ofCommand c), d.finish h)
  | some reply =>
    (d.channel.postReply h.token reply).map fun (posted, channel) =>
      match posted with
      | .ok () => (.ok (.ofCommand c), { d with channel }.finish h)
      | .error e => (.error (.reply e), d)

/-- Handles one record. -/
def step (d : Dispatcher δ) : Attempt (Except DispatchError Outcome × Dispatcher δ) :=
  match d.header with
  | .ready (.error e) => .ready (.error e, d)
  | .ready (.ok h) =>
    match Wire.decodeCommand (d.channel.commands.peek h.length) with
    | .error _ => .ready (.ok .goOn, d.finish h)
    | .ok (_, c) => d.handle h c
  | _ => .waits

/-- Handles records until something stops it. -/
def run (d : Dispatcher δ) : Halt × Dispatcher δ := go d.channel.commands.fill d
where
  /-- Each record has a byte at least, so there are no more records than bytes. -/
  go : Nat → Dispatcher δ → Halt × Dispatcher δ
    | 0, d => (.starved, d)
    | n + 1, d =>
      match d.step with
      | .ready (.ok .goOn, d) => go n d
      | .ready (.ok .shutdown, d) => (.shutdown, d)
      | .ready (.error e, d) => (.failed e, d)
      | _ => (.starved, d)

/-- Handles records, `limit` at most, until one fails or the next would have to
wait, whatever they say. -/
def drain : (limit : Nat) → Dispatcher δ → List (Except DispatchError Outcome) × Dispatcher δ
  | 0, d => ([], d)
  | n + 1, d =>
    match d.step with
    | .ready (.ok outcome, d) =>
      let (rest, d) := drain n d
      (.ok outcome :: rest, d)
    | .ready (.error e, d) => ([.error e], d)
    | _ => ([], d)

/-! With the client on the other side -/

/-- The client sends a command, the dispatcher serves, and the client waits
for what it needs. A command that does not fit is not served. -/
def exchange {α β : Type} (d : Dispatcher δ) (c : Command)
    (serve : Dispatcher δ → Attempt (β × Dispatcher δ))
    (wait : Channel → UInt32 → Attempt (Except TransportError α × Channel)) :
    Attempt ((Except TransportError α × Option β) × Dispatcher δ) :=
  match d.channel.send c with
  | .ready (.error e, channel) => .ready ((.error e, none), { d with channel })
  | .ready (.ok token, channel) =>
    match serve { d with channel } with
    | .ready (served, d) =>
      (wait d.channel token).map fun (result, channel) =>
        ((result, some served), { d with channel })
    | _ => .waits
  | _ => .waits

/-- A call, served by one step. -/
def serveCall (d : Dispatcher δ) (c : Command) :
    Attempt ((Except TransportError Reply × Option (Except DispatchError Outcome))
      × Dispatcher δ) :=
  d.exchange c step Channel.takeReply

def settled (c : Channel) (token : UInt32) : Attempt (Except TransportError Unit × Channel) :=
  (c.waitForToken token).map fun () => (.ok (), c)

/-- A synchronisation, served by one step. -/
def serveSync (d : Dispatcher δ) :
    Attempt ((Except TransportError Unit × Option (Except DispatchError Outcome))
      × Dispatcher δ) :=
  d.exchange .nop step settled

/-- A shutdown, served by a run. -/
def serveShutdown (d : Dispatcher δ) :
    Attempt ((Except TransportError Unit × Option Halt) × Dispatcher δ) :=
  d.exchange .shutdown (fun d => .ready d.run) settled

end Dispatcher

end RenderRelay
