import RenderRelay.Dispatcher
import RenderRelay.Proofs.Engine.Direct

/-!
# Relays

A client and a dispatcher at the two ends of a channel. The client issues its
commands in order; after one that is answered it waits for the reply before
it issues the next. The dispatcher's step is taken apart: accepting a record
carries its command out, then the reply is posted, then the record is given
back and acknowledged, and the client may move in between. After a shutdown
the dispatcher accepts no more.
-/

set_option autoImplicit false

namespace RenderRelay

open Wire (Header)

variable {δ : Type}

def Dispatcher.fetch (d : Dispatcher δ) :
    Attempt (Except DispatchError (Header × Option Command)) :=
  match d.header with
  | .ready (.error e) => .ready (.error e)
  | .ready (.ok h) =>
    match Wire.decodeCommand (d.channel.commands.peek h.length) with
    | .error _ => .ready (.ok (h, none))
    | .ok (_, c) => .ready (.ok (h, some c))
  | _ => .waits

theorem Dispatcher.step_eq [Driver δ] (d : Dispatcher δ) :
    d.step = match d.fetch with
      | .ready (.error e) => .ready (.error e, d)
      | .ready (.ok (h, none)) => .ready (.ok .goOn, d.finish h)
      | .ready (.ok (h, some c)) => d.handle h c
      | _ => .waits := by
  rw [step, fetch]
  cases d.header with
  | absent | waits => rfl
  | ready result =>
    cases result with
    | error e => rfl
    | ok h =>
      dsimp only
      cases Wire.decodeCommand (d.channel.commands.peek h.length) <;> rfl

inductive Phase where
  | idle
  /-- The command was carried out, and its reply is to be posted. -/
  | replying (header : Header) (command : Command) (reply : Reply)
  /-- The record is to be given back. -/
  | finishing (header : Header) (command : Command)
  | ended (cause : Halt)
  deriving DecidableEq, Repr

namespace Phase

def after : Except DispatchError Outcome → Phase
  | .ok .goOn => idle
  | .ok .shutdown => ended .shutdown
  | .error e => ended (.failed e)

theorem after_ofCommand (c : Command) :
    after (.ok (.ofCommand c)) = if c = .shutdown then ended .shutdown else idle := by
  cases c <;> rfl

def answering (h : Header) (c : Command) : Option Reply → Phase
  | none => finishing h c
  | some reply => replying h c reply

/-- The command that was carried out and whose record was not given back. -/
def begun : Phase → List Command
  | replying _ c _ | finishing _ c => [c]
  | _ => []

@[simp] theorem begun_idle : idle.begun = [] := rfl

@[simp] theorem begun_ended (cause : Halt) : (ended cause).begun = [] := rfl

def due? : Phase → Option Reply
  | replying _ _ reply => some reply
  | _ => none

def ends : Phase → Nat
  | ended _ => 1
  | _ => 0

@[simp] theorem ends_ended (cause : Halt) : (ended cause).ends = 1 := rfl

theorem ends_le (p : Phase) : p.ends ≤ 1 := by
  cases p <;> simp [ends]

end Phase

structure Relay (δ : Type) where
  dispatcher : Dispatcher δ
  /-- What the client has still to issue. -/
  todo : List Command
  /-- The call that the client waits for, with its token. -/
  awaiting : Option (Command × UInt32) := none
  phase : Phase := .idle
  /-- The tokens of the commands that were sent. -/
  tokens : List UInt32 := []
  /-- What the calls returned. -/
  returned : List (Command × Except TransportError Reply) := []
  /-- What the dispatcher did. -/
  log : List Event := []

namespace Relay

def start (ch : Channel) (e : Engine δ) (cs : List Command) : Relay δ :=
  { dispatcher := ⟨ch, e⟩, todo := cs }

/-! The client's moves -/

def issue (r : Relay δ) : Option (Relay δ) :=
  match r.awaiting, r.todo with
  | none, c :: todo =>
    match r.dispatcher.channel.send c with
    | .ready (.ok token, channel) =>
      some { r with
        dispatcher := { r.dispatcher with channel }
        todo
        awaiting := if c.expectsReply then some (c, token) else none
        tokens := r.tokens ++ [token] }
    | .ready (.error e, channel) =>
      some { r with
        dispatcher := { r.dispatcher with channel }
        todo
        returned := r.returned ++ [(c, .error e)] }
    | _ => none
  | _, _ => none

def collect (r : Relay δ) : Option (Relay δ) :=
  match r.awaiting with
  | some (c, token) =>
    match r.dispatcher.channel.takeReply token with
    | .ready (result, channel) =>
      some { r with
        dispatcher := { r.dispatcher with channel }
        awaiting := none
        returned := r.returned ++ [(c, result)] }
    | _ => none
  | none => none

/-! The dispatcher's moves -/

def finish (r : Relay δ) : Option (Relay δ) :=
  match r.phase with
  | .finishing h c =>
    some { r with
      dispatcher := r.dispatcher.finish h
      phase := .after (.ok (.ofCommand c))
      log := r.log ++ [.acknowledged h.token] }
  | _ => none

def post (r : Relay δ) : Option (Relay δ) :=
  match r.phase with
  | .replying h c reply =>
    match r.dispatcher.channel.postReply h.token reply with
    | .ready (.ok (), channel) =>
      some { r with
        dispatcher := { r.dispatcher with channel }
        phase := .finishing h c
        log := r.log ++ [.posted h.token reply] }
    | .ready (.error e, _) => some { r with phase := .ended (.failed (.reply e)) }
    | _ => none
  | _ => none

variable [Driver δ]

/-- Passes the command at the cursor to the engine, or steps over what is none. -/
def accept (r : Relay δ) : Option (Relay δ) :=
  match r.phase, r.dispatcher.fetch with
  | .idle, .ready (.error e) => some { r with phase := .ended (.failed e) }
  | .idle, .ready (.ok (h, none)) =>
    some { r with
      dispatcher := r.dispatcher.finish h
      log := r.log ++ [.acknowledged h.token] }
  | .idle, .ready (.ok (h, some c)) =>
    some { r with
      dispatcher := { r.dispatcher with engine := (r.dispatcher.engine.execute c).2 }
      phase := .answering h c (r.dispatcher.engine.execute c).1
      log := r.log ++ [.passed c] }
  | _, _ => none

def serve (r : Relay δ) : Option (Relay δ) :=
  r.accept.bind fun s =>
    (if s.phase.due?.isSome then s.post else some s).bind fun t =>
      if t.phase.begun.isEmpty then some t else t.finish

inductive Move where
  | issue
  | collect
  | accept
  | post
  | finish
  /-- A whole step of the dispatcher at once. -/
  | serve
  deriving DecidableEq, Repr

def move (r : Relay δ) : Move → Option (Relay δ)
  | .issue => r.issue
  | .collect => r.collect
  | .accept => r.accept
  | .post => r.post
  | .finish => r.finish
  | .serve => r.serve

def run (r : Relay δ) : List Move → Option (Relay δ)
  | [] => some r
  | m :: ms => (r.move m).bind fun s => s.run ms

/-- What a step of the dispatcher is of the relay's moves: it leaves what the
dispatcher's own step leaves, and waits if that waits. -/
def ServesStep (r : Relay δ) : Prop :=
  match r.dispatcher.step with
  | .ready (result, d) =>
    ∃ events, r.serve =
      some { r with dispatcher := d, phase := .after result, log := r.log ++ events }
  | _ => r.serve = none

theorem serves_step {r : Relay δ} (h : r.phase = .idle) : r.ServesStep := by
  rw [ServesStep, Dispatcher.step_eq, serve, accept, h]
  cases r.dispatcher.fetch with
  | absent | waits => rfl
  | ready result =>
    rcases result with e | ⟨hd, _ | c⟩
    · exact ⟨[], by simp [Phase.due?, Phase.begun, Phase.after]⟩
    · exact ⟨[.acknowledged hd.token], by simp [Phase.due?, Phase.begun, Phase.after]⟩
    · dsimp only
      rw [Dispatcher.handle]
      cases r.dispatcher.engine.execute c with
      | mk answer engine =>
        cases answer with
        | none =>
          exact ⟨[.passed c, .acknowledged hd.token],
            by simp [Phase.answering, Phase.due?, Phase.begun, finish]⟩
        | some reply =>
          simp only [Phase.answering, Phase.due?, post, Option.bind_some, Option.isSome_some, if_true]
          cases r.dispatcher.channel.postReply hd.token reply with
          | absent | waits => rfl
          | ready posted =>
            obtain ⟨_ | _, channel⟩ := posted
            · exact ⟨[.passed c], by simp [Phase.after, Phase.begun]⟩
            · exact ⟨[.passed c, .posted hd.token reply, .acknowledged hd.token],
                by simp [Phase.begun, finish]⟩

end Relay

end RenderRelay
