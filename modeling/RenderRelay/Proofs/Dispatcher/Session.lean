import RenderRelay.Dispatcher

/-!
# Sessions

A client and a dispatcher at the two ends of a channel, each taken apart into
the steps between which the other may act: seeing a header and having the
whole record are two steps, and so are giving a record back and acknowledging
it. The client does one thing at a time: it sends, it calls and awaits the
reply, or it waits for a token.
-/

set_option autoImplicit false

namespace RenderRelay

open Wire (Header DecodeError)

def Ring.sight (r : Ring) : Attempt (Except DecodeError Header) :=
  .persist (Wire.headerSize ≤ r.fill) (Header.parse (r.peek Wire.headerSize))

inductive Stage where
  | idle
  /-- The header was seen. -/
  | reading (header : Header)
  /-- The command was carried out, and its reply is to be posted. -/
  | replying (header : Header) (outcome : Outcome) (reply : Reply)
  /-- The record is to be given back. -/
  | finishing (header : Header) (outcome : Outcome)
  /-- It was given back, and is to be acknowledged. -/
  | released (token : UInt32) (outcome : Outcome)
  | ended (cause : Halt)
  deriving DecidableEq, Repr

namespace Stage

def after : Except DispatchError Outcome → Stage
  | .ok .goOn => idle
  | .ok .shutdown => ended .shutdown
  | .error e => ended (.failed e)

def answering (h : Header) (c : Command) : Option Reply → Stage
  | none => finishing h (.ofCommand c)
  | some reply => replying h (.ofCommand c) reply

def header? : Stage → Option Header
  | reading h | replying h _ _ | finishing h _ => some h
  | _ => none

def isEnded : Stage → Bool
  | ended _ => true
  | _ => false

end Stage

inductive Client where
  | free
  /-- It waits for room for a command, whose reply it will await if this is a call. -/
  | sending (command : Command) (calls : Bool)
  /-- It waits for the reply to a command, whose header it may have seen. -/
  | reading (command : Command) (token : UInt32) (seen : Option Header)
  | waiting (token : UInt32)
  deriving DecidableEq, Repr

structure Session (δ : Type) where
  dispatcher : Dispatcher δ
  stage : Stage := .idle
  client : Client := .free
  /-- The tokens of the commands that were sent, latest first. -/
  tokens : List UInt32 := []

namespace Session

variable {δ : Type}

def start (ch : Channel) (e : Engine δ) : Session δ := { dispatcher := ⟨ch, e⟩ }

def withChannel (s : Session δ) (channel : Channel) : Session δ :=
  { s with dispatcher := { s.dispatcher with channel } }

/-! The client's side -/

inductive Op where
  | send (command : Command)
  | call (command : Command)
  | wait (token : UInt32)
  deriving DecidableEq, Repr

def Op.command? : Op → Option Command
  | send c | call c => some c
  | wait _ => none

/-- How many of the latest tokens may be waited for: tokens are compared around the half of
them, and one is left out. -/
def recent : Nat := 0x7FFFFFFF

/-- The client takes something up. A call asserts that its command is answered, nothing else
is sent that is answered, and a token that is waited for is a recent one of the client's own. -/
def undertake (s : Session δ) (op : Op) : Option (Session δ) :=
  match s.client, op with
  | .free, .send c => if c.expectsReply then none else some { s with client := .sending c false }
  | .free, .call c => if c.expectsReply then some { s with client := .sending c true } else none
  | .free, .wait t =>
    if t ∈ s.tokens.take recent then some { s with client := .waiting t } else none
  | _, _ => none

def proceed (s : Session δ) : Option (Session δ) :=
  let channel := s.dispatcher.channel
  match s.client with
  | .free => none
  | .sending c calls =>
    match channel.send c with
    | .ready (.ok token, channel) =>
      some { s.withChannel channel with
        client := if calls then .reading c token none else .free
        tokens := token :: s.tokens }
    | .ready (.error _, channel) => some { s.withChannel channel with client := .free }
    | _ => none
  | .reading c token none =>
    match channel.replies.sight with
    | .ready (.ok h) => some { s with client := .reading c token (some h) }
    | .ready (.error _) => some { s with client := .free }
    | _ => none
  | .reading _ _ (some h) =>
    if h.length ≤ channel.replies.fill then
      some { s.withChannel { channel with replies := channel.replies.skip h.length } with
        client := .free }
    else none
  | .waiting t =>
    match channel.waitForToken t with
    | .ready () => some { s with client := .free }
    | _ => none

/-! The dispatcher's side -/

/-- Gives a record back without acknowledging it. -/
def release (d : Dispatcher δ) (h : Header) : Dispatcher δ where
  channel := { d.channel with commands := d.channel.commands.skip h.length }
  engine := { d.engine with
    server := { d.engine.server with stats := d.engine.server.stats.dispatched } }

def acknowledge (d : Dispatcher δ) (token : UInt32) : Dispatcher δ :=
  { d with channel := d.channel.acknowledge token }

variable [Driver δ]

def advance (s : Session δ) : Option (Session δ) :=
  let d := s.dispatcher
  match s.stage with
  | .idle =>
    match d.channel.commands.sight with
    | .ready (.error e) => some { s with stage := .ended (.failed (.corruptRecord e)) }
    | .ready (.ok h) =>
      some { s with
        stage :=
          if d.channel.commands.capacity < h.length then
            .ended (.failed (.corruptRecord (.badSize h.size)))
          else .reading h }
    | _ => none
  | .reading h =>
    if h.length ≤ d.channel.commands.fill then
      match Wire.decodeCommand (d.channel.commands.peek h.length) with
      | .error _ => some { s with stage := .finishing h .goOn }
      | .ok (_, c) =>
        some { s with
          dispatcher := { d with engine := (d.engine.execute c).2 }
          stage := .answering h c (d.engine.execute c).1 }
    else none
  | .replying h outcome reply =>
    match d.channel.postReply h.token reply with
    | .ready (.ok (), channel) =>
      some { s.withChannel channel with stage := .finishing h outcome }
    | .ready (.error e, _) => some { s with stage := .ended (.failed (.reply e)) }
    | _ => none
  | .finishing h outcome =>
    some { s with dispatcher := release d h, stage := .released h.token outcome }
  | .released token outcome =>
    some { s with dispatcher := acknowledge d token, stage := .after (.ok outcome) }
  | .ended _ => none

inductive Move where
  | undertake (op : Op)
  | client
  | dispatcher
  deriving DecidableEq, Repr

def Move.command? : Move → Option Command
  | undertake op => op.command?
  | _ => none

def move (s : Session δ) : Move → Option (Session δ)
  | .undertake op => s.undertake op
  | .client => s.proceed
  | .dispatcher => s.advance

def run (s : Session δ) : List Move → Option (Session δ)
  | [] => some s
  | m :: ms => (s.move m).bind (·.run ms)

def ClientWaits (s : Session δ) : Prop := s.client ≠ .free ∧ s.proceed = none

def DispatcherWaits (s : Session δ) : Prop := s.stage.isEnded = false ∧ s.advance = none

variable {s t u : Session δ}

theorem run_dispatcher (h : s.advance = some t) (n : Nat) :
    s.run (List.replicate (n + 1) .dispatcher) = t.run (List.replicate n .dispatcher) := by
  rw [List.replicate_succ, run, move, h]
  rfl

/-! ## The dispatcher's step -/

def LeadsTo (s : Session δ) : Attempt (Except DispatchError Outcome × Dispatcher δ) → Prop
  | .ready (result, d) =>
    ∃ n, s.run (List.replicate n .dispatcher) =
      some { s with dispatcher := d, stage := .after result }
  | _ => ∃ n t, s.run (List.replicate n .dispatcher) = some t ∧ t.DispatcherWaits

def ServesStep (s : Session δ) : Prop := s.LeadsTo s.dispatcher.step

variable {attempt : Attempt (Except DispatchError Outcome × Dispatcher δ)}

theorem leadsTo_waits (hw : s.DispatcherWaits) : s.LeadsTo .waits := ⟨0, s, rfl, hw⟩

theorem leadsTo_after {result : Except DispatchError Outcome} (hs : s.stage = .after result) :
    s.LeadsTo (.ready (result, s.dispatcher)) := by
  refine ⟨0, ?_⟩
  rw [← hs]
  rfl

theorem leadsTo_of_advance {d : Dispatcher δ} {stage : Stage}
    (h : s.advance = some { s with dispatcher := d, stage })
    (ht : LeadsTo { s with dispatcher := d, stage } attempt) : s.LeadsTo attempt := by
  cases attempt with
  | ready =>
    obtain ⟨n, hn⟩ := ht
    exact ⟨n + 1, (run_dispatcher h n).trans hn⟩
  | absent | waits =>
    obtain ⟨n, t, hn, ht⟩ := ht
    exact ⟨n + 1, t, (run_dispatcher h n).trans hn, ht⟩

omit [Driver δ] in
theorem header_eq_sight (d : Dispatcher δ) :
    d.header = match d.channel.commands.sight with
      | .ready (.error e) => .ready (.error (.corruptRecord e))
      | .ready (.ok h) =>
        if d.channel.commands.capacity < h.length then
          .ready (.error (.corruptRecord (.badSize h.size)))
        else .persist (h.length ≤ d.channel.commands.fill) (.ok h)
      | _ => .waits := by
  unfold Dispatcher.header Ring.sight
  dsimp only
  by_cases hf : d.channel.commands.fill < Wire.headerSize
  · rw [if_pos hf, Attempt.persist, if_neg (by simpa using hf)]
  · rw [if_neg hf, Attempt.persist, if_pos (by simpa using hf)]
    cases Header.parse (d.channel.commands.peek Wire.headerSize) <;> rfl

theorem finishing_leadsTo {h : Header} {outcome : Outcome} (hs : s.stage = .finishing h outcome) :
    s.LeadsTo (.ready (.ok outcome, s.dispatcher.finish h)) := by
  have hrelease : s.advance = some { s with
      dispatcher := release s.dispatcher h, stage := .released h.token outcome } := by
    rw [advance, hs]
  have hacknowledge : advance { s with
      dispatcher := release s.dispatcher h, stage := .released h.token outcome } =
        some { s with dispatcher := s.dispatcher.finish h, stage := .after (.ok outcome) } := rfl
  exact leadsTo_of_advance hrelease (leadsTo_of_advance hacknowledge (leadsTo_after rfl))

theorem replying_leadsTo {h : Header} {c : Command} {reply : Reply}
    (hs : s.stage = .replying h (.ofCommand c) reply) :
    s.LeadsTo ((s.dispatcher.channel.postReply h.token reply).map fun (posted, channel) =>
      match posted with
      | .ok () => (.ok (.ofCommand c), { s.dispatcher with channel }.finish h)
      | .error e => (.error (.reply e), s.dispatcher)) := by
  cases hp : s.dispatcher.channel.postReply h.token reply with
  | absent | waits =>
    refine leadsTo_waits ⟨?_, ?_⟩
    · rw [hs]
      rfl
    · simp only [advance, hs, hp]
  | ready posted =>
    obtain ⟨e | _, channel⟩ := posted
    · have hnext : s.advance = some { s with stage := .ended (.failed (.reply e)) } := by
        simp only [advance, hs, hp]
      exact leadsTo_of_advance hnext (leadsTo_after rfl)
    · have hnext : s.advance = some { s with
          dispatcher := { s.dispatcher with channel }, stage := .finishing h (.ofCommand c) } := by
        simp only [advance, hs, hp, withChannel]
      exact leadsTo_of_advance hnext (finishing_leadsTo rfl)

theorem reading_leadsTo {h : Header} (hs : s.stage = .reading h)
    (hw : h.length ≤ s.dispatcher.channel.commands.fill) :
    s.LeadsTo (match Wire.decodeCommand (s.dispatcher.channel.commands.peek h.length) with
      | .error _ => .ready (.ok .goOn, s.dispatcher.finish h)
      | .ok (_, c) => s.dispatcher.handle h c) := by
  cases hd : Wire.decodeCommand (s.dispatcher.channel.commands.peek h.length) with
  | error e =>
    have hnext : s.advance = some { s with stage := .finishing h .goOn } := by
      simp only [advance, hs, if_pos hw, hd]
    exact leadsTo_of_advance hnext (finishing_leadsTo rfl)
  | ok decoded =>
    obtain ⟨h', c⟩ := decoded
    have hnext : s.advance = some { s with
        dispatcher := { s.dispatcher with engine := (s.dispatcher.engine.execute c).2 }
        stage := .answering h c (s.dispatcher.engine.execute c).1 } := by
      simp only [advance, hs, if_pos hw, hd]
    refine leadsTo_of_advance hnext ?_
    dsimp only
    unfold Dispatcher.handle
    generalize s.dispatcher.engine.execute c = answered
    obtain ⟨_ | reply, engine⟩ := answered
    · exact finishing_leadsTo rfl
    · exact replying_leadsTo rfl

/-- Taken together the moves are the dispatcher's step. -/
theorem serves_step (hs : s.stage = .idle) : s.ServesStep := by
  unfold ServesStep Dispatcher.step
  rw [header_eq_sight]
  cases hsight : s.dispatcher.channel.commands.sight with
  | absent | waits =>
    refine leadsTo_waits ⟨?_, ?_⟩
    · rw [hs]
      rfl
    · simp only [advance, hs, hsight]
  | ready seen =>
    cases seen with
    | error e =>
      have hnext : s.advance = some { s with stage := .ended (.failed (.corruptRecord e)) } := by
        simp only [advance, hs, hsight]
      exact leadsTo_of_advance hnext (leadsTo_after rfl)
    | ok h =>
      have hnext : s.advance = some { s with
          stage :=
            if s.dispatcher.channel.commands.capacity < h.length then
              .ended (.failed (.corruptRecord (.badSize h.size)))
            else .reading h } := by
        simp only [advance, hs, hsight]
      refine leadsTo_of_advance hnext ?_
      dsimp only
      by_cases hc : s.dispatcher.channel.commands.capacity < h.length
      · rw [if_pos hc, if_pos hc]
        exact leadsTo_after rfl
      · rw [if_neg hc, if_neg hc]
        by_cases hw : h.length ≤ s.dispatcher.channel.commands.fill
        · rw [Attempt.persist, if_pos (by simpa using hw)]
          exact reading_leadsTo rfl hw
        · rw [Attempt.persist, if_neg (by simpa using hw)]
          exact leadsTo_waits ⟨rfl, by simp only [advance, if_neg hw]⟩

/-! ## The client's reading of a reply -/

omit [Driver δ] in
theorem takeReply_eq_sight (c : Channel) (token : UInt32) :
    c.takeReply token = match c.replies.sight with
      | .ready (.error e) => .ready (.error (.malformed e), c)
      | .ready (.ok h) =>
        (Attempt.persist (h.length ≤ c.replies.fill)
          ((Wire.decodeReply (c.replies.peek (min h.length c.replies.fill))).mapError
            TransportError.malformed)).map fun result =>
          (result.bind fun (h, reply) =>
            if h.token = token then .ok reply else .error (.unexpectedReply token h.token),
           { c with replies := c.replies.skip h.length })
      | _ => .waits := by
  unfold Channel.takeReply Ring.takeRecord Ring.sight
  by_cases hf : c.replies.fill < Wire.headerSize
  · rw [if_pos hf, Attempt.persist, if_neg (by simpa using hf)]
    rfl
  · rw [if_neg hf, Attempt.persist, if_pos (by simpa using hf)]
    cases Header.parse (c.replies.peek Wire.headerSize) with
    | error e => rfl
    | ok h =>
      dsimp only
      by_cases hw : h.length ≤ c.replies.fill
      · simp only [Attempt.persist, decide_eq_true hw, if_true, Attempt.map]
        cases (Wire.decodeReply (c.replies.peek (min h.length c.replies.fill))).mapError
          TransportError.malformed <;> rfl
      · simp only [Attempt.persist, decide_eq_false hw, Bool.false_eq_true, if_false, Attempt.map]

theorem run_client (h : s.proceed = some t) (n : Nat) :
    s.run (List.replicate (n + 1) .client) = t.run (List.replicate n .client) := by
  rw [List.replicate_succ, run, move, h]
  rfl

def TakesReply (s : Session δ) (token : UInt32) : Prop :=
  match s.dispatcher.channel.takeReply token with
  | .ready (_, channel) =>
    ∃ n, s.run (List.replicate n .client) = some { s.withChannel channel with client := .free }
  | _ => ∃ n t, s.run (List.replicate n .client) = some t ∧ t.ClientWaits

/-- Seeing the header and taking the record make what takes a reply. -/
theorem takes_reply {c : Command} {token : UInt32} (hs : s.client = .reading c token none) :
    s.TakesReply token := by
  unfold TakesReply
  rw [takeReply_eq_sight]
  cases hsight : s.dispatcher.channel.replies.sight with
  | absent | waits =>
    refine ⟨0, s, rfl, ?_, ?_⟩
    · rw [hs]
      exact Client.noConfusion
    · simp only [proceed, hs, hsight]
  | ready seen =>
    cases seen with
    | error e =>
      have hnext : s.proceed = some { s with client := .free } := by
        simp only [proceed, hs, hsight]
      exact ⟨1, run_client hnext 0⟩
    | ok h =>
      have hnext : s.proceed = some { s with client := .reading c token (some h) } := by
        simp only [proceed, hs, hsight]
      dsimp only
      by_cases hw : h.length ≤ s.dispatcher.channel.replies.fill
      · rw [Attempt.persist, if_pos (by simpa using hw)]
        refine ⟨2, (run_client hnext 1).trans (run_client ?_ 0)⟩
        simp only [proceed, if_pos hw, withChannel]
      · rw [Attempt.persist, if_neg (by simpa using hw)]
        refine ⟨1, _, run_client hnext 0, Client.noConfusion, ?_⟩
        simp only [proceed, if_neg hw]

end Session

end RenderRelay
