import RenderRelay.Proofs.Dispatcher.Cursor
import RenderRelay.Proofs.Dispatcher.Faithful
import RenderRelay.Proofs.Dispatcher.Session

/-!
# Sessions follow relays

Each move of a session is one of a relay's, or leaves the relay where it is:
taking something up, seeing a header and waiting for a token are no moves of
a relay's, and a record that is given back counts as acknowledged at once. So
what links a relay to its commands says what is in the rings of a session.
-/

set_option autoImplicit false

namespace RenderRelay

open Wire

/-! ## Records in a ring -/

theorem Ring.sight_of_empty {r : Ring} (h : r.contents = []) : r.sight = .waits := by
  have hf : r.fill = 0 := by rw [← length_contents, h, List.length_nil]
  rw [sight, hf]
  rfl

theorem Ring.sight_of_contents {r : Ring} {record rest : Bytes} {h : Header}
    (hp : Header.parse record = .ok h) (hl : h.length = record.length)
    (hc : r.contents = record ++ rest) : r.sight = .ready (.ok h) := by
  have hf := fill_of_contents hc
  have hcovers := (Header.parse_eq_ok_iff.mp hp).1
  rw [sight, Attempt.persist, if_pos (by simp only [decide_eq_true_eq]; omega),
    peek_eq_take _ _ (by omega), hc, List.take_append_of_le_length (by omega),
    Header.parse_take (by omega), hp]

theorem Ring.push_acknowledge (r : Ring) (token : UInt32) (record : Bytes) :
    (r.acknowledge token).push record = (r.push record).map (.map (·.acknowledge token)) :=
  push_map (·.acknowledge token) rfl rfl rfl

namespace Wire

variable {t : UInt32} {c : Command} {reply : Reply}

theorem parse_encodeCommand (hl : (encodeCommand t c).length < UInt32.size) :
    Header.parse (encodeCommand t c) = .ok (commandHeader t c) := by
  have h := parse_record hl []
  rwa [List.append_nil] at h

theorem parse_encodeReply (hl : (encodeReply t reply).length < UInt32.size) :
    Header.parse (encodeReply t reply) = .ok (replyHeader t reply) := by
  have h := parse_record hl []
  rwa [List.append_nil] at h

end Wire

/-! ## The two sides of a session within a relay -/

namespace Stage

def settle : Stage → Channel → Channel
  | released token _, ch => ch.acknowledge token
  | _, ch => ch

variable (p : Stage) (ch : Channel)

@[simp] theorem settle_replies : (p.settle ch).replies = ch.replies := by cases p <;> rfl

@[simp] theorem settle_contents : (p.settle ch).commands.contents = ch.commands.contents := by
  cases p <;> rfl

@[simp] theorem settle_capacity : (p.settle ch).commands.capacity = ch.commands.capacity := by
  cases p <;> rfl

theorem settle_take (n : Nat) :
    p.settle { ch with replies := ch.replies.skip n } =
      { p.settle ch with replies := (p.settle ch).replies.skip n } := by
  cases p <;> rfl

/-- Whether a command is sent before or after that makes no difference. -/
theorem send_settle (c : Command) :
    (p.settle ch).send c = (ch.send c).map fun (sent, ch) => (sent, p.settle ch) := by
  have hself : (ch.send c).map (fun (sent, ch) => (sent, ch)) = ch.send c := by
    cases ch.send c <;> rfl
  cases p with
  | released token =>
    unfold settle Channel.send
    dsimp only [Channel.acknowledge]
    rw [Ring.push_acknowledge]
    cases ch.commands.push (encodeCommand (nextToken ch.issued) c) with
    | absent | waits => rfl
    | ready pushed => cases pushed <;> rfl
  | idle | reading | replying | finishing | ended => exact hself.symm

/-- The stages of a dispatcher that are in a phase of a relay's, with the records of `done`
given back and those of `queued` in the ring. -/
def Within (done queued : List Command) : Stage → Phase → Prop
  | idle, phase => phase = .idle
  | reading h, phase =>
    phase = .idle ∧ ∃ c rest, queued = c :: rest ∧ h = commandHeader (tokenAfter (done.length + 1)) c
  | replying h outcome reply, phase => ∃ c, outcome = .ofCommand c ∧ phase = .replying h c reply
  | finishing h outcome, phase => ∃ c, outcome = .ofCommand c ∧ phase = .finishing h c
  | released _ outcome, phase => phase = .after (.ok outcome)
  | ended cause, phase => cause = .shutdown ∧ phase = .ended .shutdown

variable {p ch} {done queued : List Command} {phase : Phase}

theorem Within.append (h : p.Within done queued phase) (more : List Command) :
    p.Within done (queued ++ more) phase := by
  cases p with
  | reading =>
    obtain ⟨hp, c, rest, rfl, hh⟩ := h
    exact ⟨hp, c, rest ++ more, rfl, hh⟩
  | idle | replying | finishing | released | ended => exact h

theorem within_after (outcome : Outcome) :
    (after (.ok outcome)).Within done queued (.after (.ok outcome)) := by
  cases outcome with
  | goOn => rfl
  | shutdown => exact ⟨rfl, rfl⟩

theorem within_answering (h : Header) (c : Command) (answer : Option Reply) :
    (answering h c answer).Within done queued (.answering h c answer) := by
  cases answer with
  | none => exact ⟨c, rfl, rfl⟩
  | some reply => exact ⟨c, rfl, rfl⟩

theorem settle_after (outcome : Outcome) : (after (.ok outcome)).settle ch = ch := by
  cases outcome <;> rfl

theorem settle_answering (h : Header) (c : Command) (answer : Option Reply) :
    (answering h c answer).settle ch = ch := by
  cases answer <;> rfl

end Stage

namespace Client

def pending : Client → List Command
  | sending c _ => [c]
  | _ => []

def awaiting : Client → Option (Command × UInt32)
  | reading c token _ => some (c, token)
  | _ => none

/-- The client awaits the replies of its calls and no others, a header that it has seen is
that of its reply, and a token that it waits for is a recent one. -/
def Proper (tokens : List UInt32) (replies : Bytes) : Client → Prop
  | sending c calls => calls = c.expectsReply
  | reading _ token (some h) =>
    ∃ reply, replies = encodeReply token reply ∧ h = replyHeader token reply
  | waiting t => t ∈ tokens.take Session.recent
  | free | reading _ _ none => True

theorem Proper.of_empty {client : Client} {tokens : List UInt32} (h : client.Proper tokens [])
    (replies : Bytes) : client.Proper tokens replies := by
  cases client with
  | reading c token seen =>
    cases seen with
    | none => trivial
    | some h' =>
      obtain ⟨reply, hempty, -⟩ := h
      exact absurd hempty.symm (encodeReply_ne_nil token reply)
  | free | sending | waiting => exact h

end Client

namespace Relay

theorem Serving.cause_eq {δ : Type} [Driver δ] {e : Engine δ} {done queued : List Command}
    {cause : Halt} {engine : Engine δ} {log : List Event}
    (h : Serving e done queued (.ended cause) engine log) : cause = .shutdown := by
  cases h with
  | ended => rfl

end Relay

namespace Session

variable {δ : Type} [Driver δ] {ch : Channel} {e : Engine δ} {cs more done queued : List Command}
  {s t : Session δ} {r : Relay δ} {c : Command} {rest : List Command}

/-- The session is where a relay is that has still to issue `more`. -/
structure Follows (ch : Channel) (e : Engine δ) (cs more : List Command) (s : Session δ)
    (done queued : List Command) (r : Relay δ) : Prop where
  linked : r.Linked ch e cs done queued
  channel : r.dispatcher.channel = s.stage.settle s.dispatcher.channel
  engine : r.dispatcher.engine = s.dispatcher.engine
  stage : s.stage.Within done queued r.phase
  todo : r.todo = s.client.pending ++ more
  awaiting : r.awaiting = s.client.awaiting
  client : s.client.Proper s.tokens s.dispatcher.channel.replies.contents
  tokens : s.tokens = r.tokens.reverse

/-! ### What is in the rings -/

theorem Follows.contents_eq (hk : Follows ch e cs more s done queued r) :
    s.dispatcher.channel.commands.contents = records done.length queued := by
  rw [← Stage.settle_contents s.stage, ← hk.channel]
  exact hk.linked.commands_eq

theorem Follows.command_le (hk : Follows ch e cs more s done queued r) (hf : Fits ch e cs)
    (hm : c ∈ queued) (t : UInt32) :
    (encodeCommand t c).length ≤ s.dispatcher.channel.commands.capacity ∧
      (encodeCommand t c).length < UInt32.size := by
  have hle := hf.command c (by rw [hk.linked.split]; simp [hm]) t
  have hsmall := hk.linked.commands_small
  rw [← Stage.settle_capacity s.stage, ← hk.channel, hk.linked.commands_capacity]
  exact ⟨hle, by omega⟩

/-- The first record that was not given back is at the cursor, all of it. -/
theorem Follows.at_front (hk : Follows ch e cs more s done (c :: rest) r) (hf : Fits ch e cs) :
    s.dispatcher.At (commandHeader (tokenAfter (done.length + 1)) c) := by
  obtain ⟨hle, hlt⟩ := hk.command_le hf List.mem_cons_self (tokenAfter (done.length + 1))
  exact Dispatcher.at_of_contents (parse_encodeCommand hlt) (length_headerOf hlt) hle hk.contents_eq

theorem Follows.decode_front (hk : Follows ch e cs more s done (c :: rest) r) (hf : Fits ch e cs) :
    decodeCommand (s.dispatcher.channel.commands.peek
        (commandHeader (tokenAfter (done.length + 1)) c).length) =
      .ok (commandHeader (tokenAfter (done.length + 1)) c, c) :=
  Dispatcher.decode_of_contents (hk.command_le hf List.mem_cons_self _).2 hk.contents_eq

theorem Follows.sight_front (hk : Follows ch e cs more s done (c :: rest) r) (hf : Fits ch e cs) :
    s.dispatcher.channel.commands.sight =
      .ready (.ok (commandHeader (tokenAfter (done.length + 1)) c)) := by
  have hlt := (hk.command_le hf List.mem_cons_self (tokenAfter (done.length + 1))).2
  exact Ring.sight_of_contents (parse_encodeCommand hlt) (length_headerOf hlt) hk.contents_eq

/-- The reply ring is empty or holds just the reply that the client waits for. -/
theorem Follows.replies_eq (hk : Follows ch e cs more s done queued r) (hf : Fits ch e cs) :
    s.dispatcher.channel.replies.contents = [] ∨
      ∃ c token seen reply, s.client = .reading c token seen ∧
        s.dispatcher.channel.replies.contents = encodeReply token reply ∧
        (encodeReply token reply).length < UInt32.size := by
  have hasking := hk.linked.asking
  have hreplies : r.dispatcher.channel.replies = s.dispatcher.channel.replies := by
    rw [hk.channel, Stage.settle_replies]
  rw [hk.awaiting] at hasking
  cases hc : s.client with
  | free | sending | waiting =>
    rw [hc] at hasking
    exact .inl (hreplies ▸ hasking.returned_of_resting.2)
  | reading c token seen =>
    rw [hc] at hasking
    obtain ⟨htoken, hempty | ⟨reply, hm, hcontents, -⟩⟩ := hasking.collect_cases
    · exact .inl (hreplies ▸ hempty)
    · have hle := hk.linked.fits_reply hf hm token
      have hsmall := hk.linked.replies_small
      rw [hk.linked.replies_capacity] at hle
      refine .inr ⟨c, token, seen, reply, rfl, ?_, by dsimp only at hle; omega⟩
      rw [← hreplies, hcontents, htoken]

/-! ### The client's moves -/

def Kept (ch : Channel) (e : Engine δ) (cs more : List Command) (s : Session δ) : Prop :=
  ∃ done queued r, Follows ch e cs more s done queued r

/-- The client turns to something else that the relay takes for the same. -/
theorem Follows.turn {rest : List Command} (hk : Follows ch e cs more s done queued r)
    (client : Client) (htodo : s.client.pending ++ more = client.pending ++ rest)
    (hawaiting : s.client.awaiting = client.awaiting)
    (hproper : client.Proper s.tokens s.dispatcher.channel.replies.contents) :
    Follows ch e cs rest { s with client } done queued r :=
  { hk with
    todo := hk.todo.trans htodo
    awaiting := hk.awaiting.trans hawaiting
    client := hproper }

theorem kept_undertake {op : Op} (hk : Kept ch e cs (op.command?.toList ++ more) s)
    (hm : s.undertake op = some t) : Kept ch e cs more t := by
  obtain ⟨done, queued, r, hk⟩ := hk
  unfold undertake at hm
  split at hm
  case h_1 c hc =>
    split at hm
    · cases hm
    · next hasks =>
      cases hm
      exact ⟨done, queued, r, hk.turn (.sending c false) (by rw [hc]; rfl) (by rw [hc]; rfl)
        ((Bool.not_eq_true _).mp hasks).symm⟩
  case h_2 c hc =>
    split at hm
    · next hasks =>
      cases hm
      exact ⟨done, queued, r, hk.turn (.sending c true) (by rw [hc]; rfl) (by rw [hc]; rfl)
        hasks.symm⟩
    · cases hm
  case h_3 token hc =>
    split at hm
    · next hrecent =>
      cases hm
      exact ⟨done, queued, r, hk.turn (.waiting token) (by rw [hc]; rfl) (by rw [hc]; rfl)
        hrecent⟩
    · cases hm
  case h_4 => cases hm

/-- A command is sent once there is room for its record, and only then. -/
theorem Follows.send_cases (hk : Follows ch e cs more s done queued r) (hf : Fits ch e cs)
    {todo : List Command} (ht : r.todo = c :: todo) :
    let token := tokenAfter (done.length + queued.length + 1)
    ((encodeCommand token c).length ≤ r.dispatcher.channel.commands.free ∧
      ∃ channel, s.dispatcher.channel.send c = .ready (.ok token, channel) ∧
        r.dispatcher.channel.send c = .ready (.ok token, s.stage.settle channel)) ∨
    (¬ (encodeCommand token c).length ≤ r.dispatcher.channel.commands.free ∧
      s.dispatcher.channel.send c = .waits) := by
  have hsettle : r.dispatcher.channel.send c =
      (s.dispatcher.channel.send c).map fun (sent, ch) => (sent, s.stage.settle ch) := by
    rw [hk.channel, Stage.send_settle]
  have hsend := hk.linked.send_eq hf ht
  dsimp only at hsend ⊢
  rw [hsettle] at hsend
  by_cases hroom : (encodeCommand (tokenAfter (done.length + queued.length + 1)) c).length ≤
      r.dispatcher.channel.commands.free
  · rw [if_pos hroom] at hsend
    obtain ⟨⟨sent, channel⟩, hs, hsent⟩ := Attempt.map_eq_ready hsend
    obtain rfl := (Prod.mk.inj hsent).1
    exact .inl ⟨hroom, channel, hs, by rw [hsettle, hs]; rfl⟩
  · rw [if_neg hroom] at hsend
    refine .inr ⟨hroom, ?_⟩
    cases hs : s.dispatcher.channel.send c with
    | waits => rfl
    | ready | absent =>
      rw [hs] at hsend
      cases hsend

theorem Follows.proceed_sending (hk : Follows ch e cs more s done queued r) (hf : Fits ch e cs)
    {calls : Bool} (hc : s.client = .sending c calls) (hm : s.proceed = some t) :
    Kept ch e cs more t := by
  have htodo : r.todo = c :: more := by rw [hk.todo, hc]; rfl
  have hawaiting : r.awaiting = none := by rw [hk.awaiting, hc]; rfl
  have hcalls : calls = c.expectsReply := by
    have h := hk.client
    rwa [hc] at h
  rw [proceed, hc] at hm
  dsimp only at hm
  rcases hk.send_cases hf htodo with ⟨hroom, channel, hs, hr⟩ | ⟨-, hs⟩
  · obtain ⟨r', hr', hl⟩ := hk.linked.issue_of_room hf hawaiting htodo hroom
    rw [Relay.issue, hawaiting, htodo] at hr'
    dsimp only at hr'
    rw [hr] at hr'
    cases hr'
    rw [hs] at hm
    cases hm
    refine ⟨done, queued ++ [c], _, {
      linked := hl
      channel := rfl
      engine := hk.engine
      stage := hk.stage.append [c]
      todo := ?todo
      awaiting := ?awaiting
      client := ?client
      tokens := ?tokens }⟩
    case todo => cases calls <;> rfl
    case awaiting =>
      rw [← hcalls]
      cases calls <;> rfl
    case client => cases calls <;> exact trivial
    case tokens =>
      dsimp only [withChannel]
      rw [hk.tokens, List.reverse_concat]
  · rw [hs] at hm
    cases hm

theorem Follows.sight_cases (hk : Follows ch e cs more s done queued r) (hf : Fits ch e cs)
    {token : UInt32} {seen : Option Header} (hc : s.client = .reading c token seen) :
    (s.dispatcher.channel.replies.contents = [] ∧ s.dispatcher.channel.replies.sight = .waits) ∨
    ∃ reply, s.dispatcher.channel.replies.contents = encodeReply token reply ∧
      (encodeReply token reply).length < UInt32.size ∧
      s.dispatcher.channel.replies.sight = .ready (.ok (replyHeader token reply)) := by
  rcases hk.replies_eq hf with hempty | ⟨c', token', seen', reply, hc', hcontents, hlt⟩
  · exact .inl ⟨hempty, Ring.sight_of_empty hempty⟩
  · obtain ⟨-, rfl, -⟩ := Client.reading.inj (hc.symm.trans hc')
    have hfront : s.dispatcher.channel.replies.contents = encodeReply token reply ++ [] := by
      rw [hcontents, List.append_nil]
    exact .inr ⟨reply, hcontents, hlt,
      Ring.sight_of_contents (parse_encodeReply hlt) (length_headerOf hlt) hfront⟩

theorem Follows.proceed_sight (hk : Follows ch e cs more s done queued r) (hf : Fits ch e cs)
    {token : UInt32} (hc : s.client = .reading c token none) (hm : s.proceed = some t) :
    Kept ch e cs more t := by
  rw [proceed, hc] at hm
  dsimp only at hm
  rcases hk.sight_cases hf hc with ⟨-, hs⟩ | ⟨reply, hcontents, -, hs⟩
  · rw [hs] at hm
    cases hm
  · rw [hs] at hm
    cases hm
    exact ⟨done, queued, r, hk.turn _ (by rw [hc]; rfl) (by rw [hc]; rfl)
      ⟨reply, hcontents, rfl⟩⟩

theorem Follows.reply_whole (hk : Follows ch e cs more s done queued r) (hf : Fits ch e cs)
    {token : UInt32} {h : Header} (hc : s.client = .reading c token (some h)) :
    ∃ reply, s.dispatcher.channel.replies.contents = encodeReply token reply ∧
      (encodeReply token reply).length < UInt32.size ∧ h.length = (encodeReply token reply).length ∧
      h.length ≤ s.dispatcher.channel.replies.fill := by
  have hproper := hk.client
  rw [hc] at hproper
  obtain ⟨reply, hcontents, rfl⟩ := hproper
  rcases hk.sight_cases hf hc with ⟨hempty, -⟩ | ⟨reply', hcontents', hlt', hs⟩
  · exact absurd (hcontents.symm.trans hempty) (encodeReply_ne_nil token reply)
  · have hlt : (encodeReply token reply).length < UInt32.size := by
      rwa [← hcontents, hcontents']
    have hlength : (replyHeader token reply).length = (encodeReply token reply).length :=
      length_headerOf hlt
    refine ⟨reply, hcontents, hlt, hlength, ?_⟩
    rw [← Ring.length_contents, hcontents, hlength]

theorem Follows.proceed_seen (hk : Follows ch e cs more s done queued r) (hf : Fits ch e cs)
    {token : UInt32} {h : Header} (hc : s.client = .reading c token (some h))
    (hm : s.proceed = some t) : Kept ch e cs more t := by
  have htodo := hk.todo
  have hawaiting := hk.awaiting
  rw [hc] at htodo hawaiting
  obtain ⟨reply, hcontents, hlt, hlength, hthere⟩ := hk.reply_whole hf hc
  have hreplies : r.dispatcher.channel.replies.contents = encodeReply token reply ++ [] := by
    rw [hk.channel, Stage.settle_replies, hcontents, List.append_nil]
  rw [proceed, hc] at hm
  dsimp only at hm
  rw [if_pos hthere, hlength] at hm
  cases hm
  obtain ⟨r', hr, hl⟩ := hk.linked.collect_of_posted hf hawaiting
    (by rw [hreplies, List.append_nil]; exact encodeReply_ne_nil token reply)
  rw [Relay.collect, hawaiting] at hr
  dsimp only [Client.awaiting] at hr
  rw [Channel.takeReply_of_contents hlt hreplies] at hr
  cases hr
  refine ⟨done, queued, _, { hk with
    linked := hl
    channel := ?channel
    todo := htodo
    awaiting := rfl
    client := trivial }⟩
  case channel =>
    dsimp only [withChannel]
    rw [hk.channel, Stage.settle_take]

theorem Follows.proceed_waiting (hk : Follows ch e cs more s done queued r) {token : UInt32}
    (hc : s.client = .waiting token) (hm : s.proceed = some t) : Kept ch e cs more t := by
  rw [proceed, hc] at hm
  dsimp only at hm
  split at hm
  · cases hm
    exact ⟨done, queued, r, hk.turn .free (by rw [hc]; rfl) (by rw [hc]; rfl) trivial⟩
  · cases hm

theorem kept_proceed (hf : Fits ch e cs) (hk : Kept ch e cs more s) (hm : s.proceed = some t) :
    Kept ch e cs more t := by
  obtain ⟨done, queued, r, hk⟩ := hk
  cases hc : s.client with
  | free =>
    rw [proceed, hc] at hm
    cases hm
  | sending c calls => exact hk.proceed_sending hf hc hm
  | waiting token => exact hk.proceed_waiting hc hm
  | reading c token seen =>
    cases seen with
    | none => exact hk.proceed_sight hf hc hm
    | some h => exact hk.proceed_seen hf hc hm

/-! ### The dispatcher's moves -/

theorem Follows.advance_idle (hk : Follows ch e cs more s done queued r) (hf : Fits ch e cs)
    (hs : s.stage = .idle) (hm : s.advance = some t) : Kept ch e cs more t := by
  have hstage := hk.stage
  have hchannel := hk.channel
  rw [hs] at hstage hchannel
  rw [advance, hs] at hm
  dsimp only at hm
  cases queued with
  | nil =>
    rw [Ring.sight_of_empty hk.contents_eq] at hm
    cases hm
  | cons c rest =>
    rw [hk.sight_front hf] at hm
    dsimp only at hm
    rw [if_neg (Nat.not_lt.mpr (hk.at_front hf).fits)] at hm
    cases hm
    exact ⟨done, c :: rest, r, { hk with
      channel := hchannel
      stage := ⟨hstage, c, rest, rfl, rfl⟩ }⟩

theorem Follows.advance_reading (hk : Follows ch e cs more s done queued r) (hf : Fits ch e cs)
    {h : Header} (hs : s.stage = .reading h) (hm : s.advance = some t) : Kept ch e cs more t := by
  have hstage := hk.stage
  have hchannel := hk.channel
  rw [hs] at hstage hchannel
  obtain ⟨hp, c, rest, rfl, rfl⟩ := hstage
  rw [advance, hs] at hm
  dsimp only at hm
  rw [if_pos (hk.at_front hf).whole, hk.decode_front hf] at hm
  cases hm
  obtain ⟨r', hr, hl⟩ := hk.linked.accept_of_cons hf hp
  rw [Relay.accept, hp, hk.linked.fetch_eq hf] at hr
  cases hr
  refine ⟨done, c :: rest, _, { hk with
    linked := hl
    channel := ?channel
    engine := ?engine
    stage := ?stage }⟩
  case channel =>
    dsimp only
    rw [Stage.settle_answering]
    exact hchannel
  case engine =>
    dsimp only
    rw [hk.engine]
  case stage =>
    dsimp only
    rw [hk.engine]
    exact Stage.within_answering _ c _

theorem Follows.post_eq (hk : Follows ch e cs more s done queued r) (hf : Fits ch e cs)
    {h : Header} {outcome : Outcome} {reply : Reply} (hs : s.stage = .replying h outcome reply) :
    s.dispatcher.channel.replies.contents = [] ∧
      ∃ channel, s.dispatcher.channel.postReply h.token reply = .ready (.ok (), channel) := by
  have hchannel : r.dispatcher.channel = s.dispatcher.channel := by rw [hk.channel, hs]; rfl
  have hstage := hk.stage
  rw [hs] at hstage
  obtain ⟨c, -, hp⟩ := hstage
  have hasking := hk.linked.asking
  rw [hp, hchannel] at hasking
  refine ⟨hasking.due_cases.2.1, ?_⟩
  obtain ⟨r', hr, hl⟩ := hk.linked.post_of_replying hf hp
  rw [Relay.post, hp] at hr
  dsimp only at hr
  rw [hchannel] at hr
  cases hpost : s.dispatcher.channel.postReply h.token reply with
  | absent | waits =>
    rw [hpost] at hr
    cases hr
  | ready posted =>
    obtain ⟨e | _, channel⟩ := posted
    · rw [hpost] at hr
      cases hr
      exact Halt.noConfusion hl.serving.cause_eq
    · exact ⟨channel, rfl⟩

theorem Follows.advance_replying (hk : Follows ch e cs more s done queued r) (hf : Fits ch e cs)
    {h : Header} {outcome : Outcome} {reply : Reply} (hs : s.stage = .replying h outcome reply)
    (hm : s.advance = some t) : Kept ch e cs more t := by
  obtain ⟨hempty, channel, hpost⟩ := hk.post_eq hf hs
  have hchannel : r.dispatcher.channel = s.dispatcher.channel := by rw [hk.channel, hs]; rfl
  have hstage := hk.stage
  have hclient := hk.client
  rw [hs] at hstage
  rw [hempty] at hclient
  obtain ⟨c, rfl, hp⟩ := hstage
  rw [advance, hs] at hm
  dsimp only at hm
  rw [hpost] at hm
  cases hm
  obtain ⟨r', hr, hl⟩ := hk.linked.post_of_replying hf hp
  rw [Relay.post, hp] at hr
  dsimp only at hr
  rw [hchannel, hpost] at hr
  cases hr
  exact ⟨done, queued, _, { hk with
    linked := hl
    channel := rfl
    stage := ⟨c, rfl, rfl⟩
    client := hclient.of_empty _ }⟩

theorem Follows.advance_finishing (hk : Follows ch e cs more s done queued r) (hf : Fits ch e cs)
    {h : Header} {outcome : Outcome} (hs : s.stage = .finishing h outcome)
    (hm : s.advance = some t) : Kept ch e cs more t := by
  have hstage := hk.stage
  have hchannel := hk.channel
  rw [hs] at hstage hchannel
  obtain ⟨c, rfl, hp⟩ := hstage
  rw [advance, hs] at hm
  cases hm
  obtain ⟨r', rest, hr, hl⟩ := hk.linked.finish_of_finishing hf hp
  rw [Relay.finish, hp] at hr
  cases hr
  refine ⟨done ++ [c], rest, _, { hk with
    linked := hl
    channel := ?channel
    engine := ?engine
    stage := rfl }⟩
  case channel =>
    dsimp only [Dispatcher.finish]
    rw [hchannel]
    rfl
  case engine =>
    dsimp only [Dispatcher.finish]
    rw [hk.engine]
    rfl

theorem Follows.advance_released (hk : Follows ch e cs more s done queued r) {token : UInt32}
    {outcome : Outcome} (hs : s.stage = .released token outcome) (hm : s.advance = some t) :
    Kept ch e cs more t := by
  have hstage := hk.stage
  have hchannel := hk.channel
  rw [hs] at hstage hchannel
  rw [advance, hs] at hm
  cases hm
  refine ⟨done, queued, r, { hk with
    channel := ?channel
    stage := ?stage }⟩
  case channel =>
    dsimp only
    rw [Stage.settle_after]
    exact hchannel
  case stage =>
    dsimp only
    rw [show r.phase = Phase.after (.ok outcome) from hstage]
    exact Stage.within_after outcome

theorem kept_advance (hf : Fits ch e cs) (hk : Kept ch e cs more s) (hm : s.advance = some t) :
    Kept ch e cs more t := by
  obtain ⟨done, queued, r, hk⟩ := hk
  cases hs : s.stage with
  | idle => exact hk.advance_idle hf hs hm
  | reading h => exact hk.advance_reading hf hs hm
  | replying h outcome reply => exact hk.advance_replying hf hs hm
  | finishing h outcome => exact hk.advance_finishing hf hs hm
  | released token outcome => exact hk.advance_released hs hm
  | ended cause =>
    rw [advance, hs] at hm
    cases hm

/-! ### Any moves -/

theorem kept_move (hf : Fits ch e cs) {m : Move} (hk : Kept ch e cs (m.command?.toList ++ more) s)
    (hm : s.move m = some t) : Kept ch e cs more t := by
  cases m with
  | undertake op => exact kept_undertake hk hm
  | client => exact kept_proceed hf hk hm
  | dispatcher => exact kept_advance hf hk hm

theorem kept_run (hf : Fits ch e cs) {ms : List Move}
    (hk : Kept ch e cs (ms.filterMap Move.command?) s) (hm : s.run ms = some t) :
    Kept ch e cs [] t := by
  induction ms generalizing s with
  | nil =>
    cases hm
    exact hk
  | cons m ms ih =>
    obtain ⟨u, hu, hm⟩ := Option.bind_eq_some_iff.mp hm
    have hsplit : (m :: ms).filterMap Move.command? =
        m.command?.toList ++ ms.filterMap Move.command? := by
      rw [List.filterMap_cons]
      cases m.command? <;> rfl
    rw [hsplit] at hk
    exact ih (kept_move hf hk hu) hm

theorem kept_start {settings : Ring.Settings} {usable : String → Bool}
    (hch : Channel.create settings usable = .ok ch) (e : Engine δ) (cs : List Command) :
    Kept ch e cs cs (start ch e) :=
  ⟨[], [], .start ch e cs, {
    linked := Relay.start_linked hch e cs
    channel := rfl
    engine := rfl
    stage := rfl
    todo := rfl
    awaiting := rfl
    client := trivial
    tokens := rfl }⟩

end Session

end RenderRelay
