import RenderRelay.Proofs.Channel.Tokens
import RenderRelay.Proofs.Dispatcher.Following

/-!
# Client and dispatcher do not wait on each other

The rings hold whole records, so that a dispatcher that has to wait has given
back all that was sent. Then there is room for any command, a reply that is
awaited was posted, and every token that was given out is acknowledged.
-/

set_option autoImplicit false

namespace RenderRelay

open Wire

/-! ## Records in a ring -/

structure Ring.Frames (r : Ring) (rs : List Bytes) : Prop where
  whole : ∀ record ∈ rs, Whole record
  contents : r.contents = rs.flatten

namespace Wire

variable {t : UInt32} {c : Command} {reply : Reply}

theorem whole_encodeCommand (hl : (encodeCommand t c).length < UInt32.size) :
    Whole (encodeCommand t c) :=
  whole_iff.mpr ⟨_, parse_encodeCommand hl, length_headerOf hl⟩

theorem whole_encodeReply (hl : (encodeReply t reply).length < UInt32.size) :
    Whole (encodeReply t reply) :=
  whole_iff.mpr ⟨_, parse_encodeReply hl, length_headerOf hl⟩

def recordsOf (k : Nat) : List Command → List Bytes
  | [] => []
  | c :: cs => encodeCommand (tokenAfter (k + 1)) c :: recordsOf (k + 1) cs

theorem flatten_recordsOf (k : Nat) (cs : List Command) :
    (recordsOf k cs).flatten = records k cs := by
  induction cs generalizing k with
  | nil => rfl
  | cons c cs ih => rw [recordsOf, records, List.flatten_cons, ih]

theorem recordsOf_concat (k : Nat) (cs : List Command) (c : Command) :
    recordsOf k (cs ++ [c]) =
      recordsOf k cs ++ [encodeCommand (tokenAfter (k + cs.length + 1)) c] := by
  induction cs generalizing k with
  | nil => rfl
  | cons d cs ih =>
    rw [List.cons_append, recordsOf, recordsOf, ih, List.cons_append, List.length_cons,
      Nat.add_assoc k 1, Nat.add_comm 1]

theorem whole_recordsOf {k : Nat} {cs : List Command}
    (hl : ∀ c ∈ cs, ∀ t, (encodeCommand t c).length < UInt32.size) :
    ∀ record ∈ recordsOf k cs, Whole record := by
  induction cs generalizing k with
  | nil => exact fun _ hm => absurd hm List.not_mem_nil
  | cons c cs ih =>
    intro record hm
    rcases List.mem_cons.mp hm with rfl | hm
    · exact whole_encodeCommand (hl c List.mem_cons_self _)
    · exact ih (fun d hd => hl d (List.mem_cons_of_mem c hd)) record hm

end Wire

namespace Relay

/-- A call that is awaited is the last command that was sent, and its record is in the ring
until its reply is. -/
theorem Linked.queued_of_empty {δ : Type} [Driver δ] {ch : Channel} {e : Engine δ}
    {cs done queued : List Command} {r : Relay δ} {c : Command} {token : UInt32}
    (hl : r.Linked ch e cs done queued) (ha : r.awaiting = some (c, token))
    (hempty : r.dispatcher.channel.replies.contents = []) :
    ∃ front, queued = front ++ [c] ∧ token = tokenAfter (done.length + front.length + 1) := by
  have hasking := hl.asking
  have hserving := hl.serving
  have hlast : ∀ {front}, queued = front ++ [c] →
      r.dispatcher.channel.issued = tokenAfter (done.length + front.length + 1) := by
    intro front hq
    rw [hl.issued_eq, hq, List.length_append, List.length_singleton, Nat.add_assoc]
  rw [ha, hempty] at hasking
  generalize r.dispatcher.engine = engine at hserving
  generalize r.log = log at hserving
  generalize hfresh : queued.drop r.phase.begun.length = fresh at hasking
  generalize hcalls : e.calls (done ++ r.phase.begun) = calls at hasking
  generalize hdue : r.phase.due? = due at hasking
  generalize hr : ([] : Bytes) = replies at hasking
  generalize r.returned = returned at hasking
  cases hasking with
  | @sent front =>
    have hq : queued = (queued.take r.phase.begun.length ++ front) ++ [c] := by
      rw [List.append_assoc, ← hfresh, List.take_append_drop]
    exact ⟨_, hq, hlast hq⟩
  | posted => exact absurd hr.symm (encodeReply_ne_nil _ _)
  | @due _ reply earlier =>
    cases hp : r.phase with
    | idle | finishing | ended =>
      rw [hp] at hdue
      cases hdue
    | replying h c' reply' =>
      rw [hp] at hserving hfresh hcalls
      cases hserving with
      | @replying _ rest _ quiet answer =>
        rw [Phase.begun, Engine.calls_append, Engine.calls_singleton, answer] at hcalls
        obtain ⟨-, hlastCall⟩ := List.append_inj' hcalls rfl
        obtain ⟨rfl, -⟩ := Prod.mk.inj (List.singleton_inj.mp hlastCall)
        have hq : c' :: rest = [] ++ [c'] := by
          rw [show rest = [] from hfresh]
          rfl
        exact ⟨[], hq, hlast hq⟩

end Relay

namespace Session

/-- Of the recent tokens all are reached once the last of them is. -/
theorem tokenReached_of_recent {n i : Nat} (hi : i < recent) :
    tokenReached (tokenAfter (n + 1 + i)) (tokenAfter (n + 1)) = true := by
  rw [recent] at hi
  exact (tokenReached_tokenAfter (by omega) (by omega) (by rw [tokenSpan]; omega)).mpr (by omega)

variable {δ : Type} [Driver δ] {ch : Channel} {e : Engine δ} {cs more done queued : List Command}
  {s t : Session δ} {r : Relay δ} {c : Command} {rest : List Command}

/-! ## Waiting -/

/-- A dispatcher that has to wait has given back all that was sent. -/
theorem Follows.idle_of_waits (hk : Follows ch e cs more s done queued r) (hf : Fits ch e cs)
    (hw : s.DispatcherWaits) : s.stage = .idle ∧ queued = [] := by
  obtain ⟨hended, hm⟩ := hw
  have hstage := hk.stage
  cases hs : s.stage with
  | idle =>
    refine ⟨rfl, ?_⟩
    cases queued with
    | nil => rfl
    | cons c rest =>
      rw [advance, hs] at hm
      dsimp only at hm
      rw [hk.sight_front hf] at hm
      cases hm
  | reading h =>
    rw [hs] at hstage
    obtain ⟨-, c, rest, rfl, rfl⟩ := hstage
    rw [advance, hs] at hm
    dsimp only at hm
    rw [if_pos (hk.at_front hf).whole, hk.decode_front hf] at hm
    cases hm
  | replying h outcome reply =>
    obtain ⟨-, channel, hpost⟩ := hk.post_eq hf hs
    rw [advance, hs] at hm
    dsimp only at hm
    rw [hpost] at hm
    cases hm
  | finishing | released =>
    rw [advance, hs] at hm
    cases hm
  | ended =>
    rw [hs] at hended
    cases hended

/-- The token was given out by the client, no more than so many tokens ago. -/
theorem Follows.token_eq (hk : Follows ch e cs more s done queued r) {token : UInt32}
    (hm : token ∈ s.tokens.take recent) :
    ∃ n i, done.length + queued.length = n + 1 + i ∧ i < recent ∧ token = tokenAfter (n + 1) := by
  rw [hk.tokens, hk.linked.tokens_eq] at hm
  obtain ⟨i, hi, htoken⟩ := List.mem_take_iff_getElem.mp hm
  rw [List.length_reverse, List.length_map, List.length_range] at hi
  rw [List.getElem_reverse, List.getElem_map, List.getElem_range, List.length_map,
    List.length_range] at htoken
  exact ⟨_, i, by omega, by omega, htoken.symm⟩

/-- A command that has to wait for room waits for a record to be given back. -/
theorem Follows.queued_of_full (hk : Follows ch e cs more s done queued r) (hf : Fits ch e cs)
    {calls : Bool} (hc : s.client = .sending c calls) (hm : s.proceed = none) : queued ≠ [] := by
  rintro rfl
  have htodo : r.todo = c :: more := by rw [hk.todo, hc]; rfl
  have hroom : (encodeCommand (tokenAfter (done.length + 0 + 1)) c).length ≤
      r.dispatcher.channel.commands.free := by
    rw [Ring.free_of_empty hk.linked.commands_eq, hk.linked.commands_capacity]
    exact hf.command c (by rw [hk.linked.split, htodo]; simp) _
  rw [proceed, hc] at hm
  dsimp only at hm
  rcases hk.send_cases hf htodo with ⟨-, channel, hsend, -⟩ | ⟨hfull, -⟩
  · rw [hsend] at hm
    cases hm
  · exact hfull hroom

/-- With nothing left to give back the client has what it waits for. -/
theorem Follows.proceed_of_idle (hk : Follows ch e cs more s done [] r) (hf : Fits ch e cs)
    (hs : s.stage = .idle) (hc : s.client ≠ .free) : s.proceed ≠ none := by
  have hchannel : r.dispatcher.channel = s.dispatcher.channel := by rw [hk.channel, hs]; rfl
  intro hm
  cases hclient : s.client with
  | free => exact hc hclient
  | sending c calls => exact hk.queued_of_full hf hclient hm rfl
  | waiting token =>
    have hproper := hk.client
    rw [hclient] at hproper
    obtain ⟨n, i, hsent, hi, rfl⟩ := hk.token_eq hproper
    have hlast := hk.linked.last_eq
    rw [hchannel, show done.length = n + 1 + i from hsent] at hlast
    rw [proceed, hclient] at hm
    dsimp only at hm
    rw [Channel.waitForToken, hlast, tokenReached_of_recent hi] at hm
    cases hm
  | reading c token seen =>
    cases seen with
    | some h =>
      obtain ⟨-, -, -, -, hthere⟩ := hk.reply_whole hf hclient
      rw [proceed, hclient] at hm
      dsimp only at hm
      rw [if_pos hthere] at hm
      cases hm
    | none =>
      rcases hk.sight_cases hf hclient with ⟨hempty, -⟩ | ⟨reply, -, -, hsight⟩
      · have hp : r.phase = .idle := by
          have hstage := hk.stage
          rwa [hs] at hstage
        have hasking := hk.linked.asking
        rw [hp, hchannel, hempty, hk.awaiting, hclient] at hasking
        exact Option.some_ne_none _ hasking.awaiting_of_empty
      · rw [proceed, hclient] at hm
        dsimp only at hm
        rw [hsight] at hm
        cases hm

/-! ## The statement -/

structure Unblocked (s : Session δ) : Prop where
  /-- Each ring holds whole records, and that of the replies holds one at most. -/
  commands : ∃ rs, s.dispatcher.channel.commands.Frames rs
  replies : ∃ rs, rs.length ≤ 1 ∧ s.dispatcher.channel.replies.Frames rs
  /-- A record whose header was seen is there as a whole. -/
  whole : ∀ h, s.stage.header? = some h → s.dispatcher.At h
  reply_whole : ∀ c token h, s.client = .reading c token (some h) →
    h.length ≤ s.dispatcher.channel.replies.fill
  /-- A reply is posted without waiting. -/
  posts : ∀ h outcome reply, s.stage = .replying h outcome reply →
    ∃ channel, s.dispatcher.channel.postReply h.token reply = .ready (.ok (), channel)
  /-- If a command has to wait for room, there is a whole record for the dispatcher. -/
  room : ∀ c calls, s.client = .sending c calls → s.proceed = none → ∃ h, s.dispatcher.At h
  /-- As long as a call awaits its reply, the command or the reply is in a ring. -/
  call : ∀ c token seen, s.client = .reading c token seen →
    (∃ rs, s.dispatcher.channel.commands.Frames rs ∧ encodeCommand token c ∈ rs) ∨
      ∃ reply, s.dispatcher.channel.replies.Frames [encodeReply token reply]
  /-- The dispatcher comes to its end by a shutdown only. -/
  ends : ∀ cause, s.stage = .ended cause → cause = .shutdown
  moves : ¬ (s.ClientWaits ∧ s.DispatcherWaits)
  /-- What the moves make together is the dispatcher's step, and the taking of a reply. -/
  serves : s.stage = .idle → s.ServesStep
  takes : ∀ c token, s.client = .reading c token none → s.TakesReply token

theorem Follows.commands_frames (hk : Follows ch e cs more s done queued r) (hf : Fits ch e cs) :
    s.dispatcher.channel.commands.Frames (recordsOf done.length queued) where
  whole := whole_recordsOf fun _ hm t => (hk.command_le hf hm t).2
  contents := by rw [hk.contents_eq, flatten_recordsOf]

theorem frames_reply {ring : Ring} {token : UInt32} {reply : Reply}
    (hcontents : ring.contents = encodeReply token reply)
    (hlt : (encodeReply token reply).length < UInt32.size) :
    ring.Frames [encodeReply token reply] where
  whole record hm := by
    rw [List.mem_singleton.mp hm]
    exact whole_encodeReply hlt
  contents := by rw [hcontents, List.flatten_singleton]

theorem Follows.replies_frames (hk : Follows ch e cs more s done queued r) (hf : Fits ch e cs) :
    ∃ rs, rs.length ≤ 1 ∧ s.dispatcher.channel.replies.Frames rs := by
  rcases hk.replies_eq hf with hempty | ⟨c, token, seen, reply, -, hcontents, hlt⟩
  · exact ⟨[], Nat.zero_le 1, fun _ hm => absurd hm List.not_mem_nil, hempty⟩
  · exact ⟨[encodeReply token reply], Nat.le_refl 1, frames_reply hcontents hlt⟩

theorem Follows.call_frames (hk : Follows ch e cs more s done queued r) (hf : Fits ch e cs)
    {token : UInt32} {seen : Option Header} (hc : s.client = .reading c token seen) :
    (∃ rs, s.dispatcher.channel.commands.Frames rs ∧ encodeCommand token c ∈ rs) ∨
      ∃ reply, s.dispatcher.channel.replies.Frames [encodeReply token reply] := by
  rcases hk.sight_cases hf hc with ⟨hempty, -⟩ | ⟨reply, hcontents, hlt, -⟩
  · have hawaiting : r.awaiting = some (c, token) := by rw [hk.awaiting, hc]; rfl
    obtain ⟨front, rfl, rfl⟩ := hk.linked.queued_of_empty hawaiting
      (by rw [hk.channel, Stage.settle_replies, hempty])
    refine .inl ⟨_, hk.commands_frames hf, ?_⟩
    rw [recordsOf_concat]
    exact List.mem_append_right _ (List.mem_singleton_self _)
  · exact .inr ⟨reply, frames_reply hcontents hlt⟩

theorem Follows.at_header (hk : Follows ch e cs more s done queued r) (hf : Fits ch e cs)
    {h : Header} (hs : s.stage.header? = some h) : s.dispatcher.At h := by
  have hserving := hk.linked.serving
  have hstage := hk.stage
  cases hcase : s.stage with
  | idle | released | ended =>
    rw [hcase] at hs
    cases hs
  | reading =>
    rw [hcase] at hs hstage
    cases hs
    obtain ⟨-, c, rest, rfl, rfl⟩ := hstage
    exact hk.at_front hf
  | replying | finishing =>
    rw [hcase] at hs hstage
    cases hs
    obtain ⟨c, -, hp⟩ := hstage
    generalize r.dispatcher.engine = engine at hserving
    generalize r.log = log at hserving
    rw [hp] at hserving
    cases hserving
    exact hk.at_front hf

theorem Follows.at_of_full (hk : Follows ch e cs more s done queued r) (hf : Fits ch e cs)
    {calls : Bool} (hc : s.client = .sending c calls) (hm : s.proceed = none) :
    ∃ h, s.dispatcher.At h := by
  cases queued with
  | nil => exact absurd rfl (hk.queued_of_full hf hc hm)
  | cons d rest => exact ⟨_, hk.at_front hf⟩

theorem Follows.cause_eq (hk : Follows ch e cs more s done queued r) {cause : Halt}
    (hs : s.stage = .ended cause) : cause = .shutdown := by
  have hstage := hk.stage
  rw [hs] at hstage
  exact hstage.1

theorem Follows.unblocked (hk : Follows ch e cs more s done queued r) (hf : Fits ch e cs) :
    Unblocked s where
  commands := ⟨_, hk.commands_frames hf⟩
  replies := hk.replies_frames hf
  whole _ hs := hk.at_header hf hs
  reply_whole _ _ _ hc := by
    obtain ⟨-, -, -, -, hthere⟩ := hk.reply_whole hf hc
    exact hthere
  posts _ _ _ hs := (hk.post_eq hf hs).2
  room _ _ hc hm := hk.at_of_full hf hc hm
  call _ _ _ hc := hk.call_frames hf hc
  ends _ hs := hk.cause_eq hs
  moves := by
    rintro ⟨⟨hc, hm⟩, hw⟩
    obtain ⟨hs, rfl⟩ := hk.idle_of_waits hf hw
    exact hk.proceed_of_idle hf hs hc hm
  serves := serves_step
  takes _ _ := takes_reply

/-- Whatever moves the two sides make in whatever order: if every record and every reply has
room in its ring, they do not come to wait on each other. -/
theorem run_unblocked {settings : Ring.Settings} {usable : String → Bool}
    (hch : Channel.create settings usable = .ok ch) (e : Engine δ) {ms : List Move}
    (hf : Fits ch e (ms.filterMap Move.command?)) (hr : (start ch e).run ms = some s) :
    Unblocked s := by
  obtain ⟨done, queued, r, hk⟩ := kept_run hf (kept_start hch e _) hr
  exact hk.unblocked hf

namespace Errand

/-- The client waits for the shutdown to be handled, whose header the dispatcher has seen. -/
def moves : List Move :=
  [.undertake (.send (.clearStencil 3)), .client, .undertake (.call (.getDisplay ⟨4⟩)), .client,
    .dispatcher, .dispatcher, .dispatcher, .dispatcher, .dispatcher, .dispatcher, .dispatcher,
    .client, .client, .undertake (.send .shutdown), .client, .dispatcher, .dispatcher,
    .undertake (.send .nop), .client, .undertake (.wait 3), .dispatcher]

end Errand

theorem run_unblocked_of_errand :
    ∃ s : Session Recorder,
      Channel.create { capacity := 1 } (fun _ => true) = .ok Relay.Errand.channel ∧
        Fits Relay.Errand.channel Relay.Errand.engine (Errand.moves.filterMap Move.command?) ∧
        (start Relay.Errand.channel Relay.Errand.engine).run Errand.moves = some s ∧
        (s.client, s.stage) = (.waiting 3, .reading (commandHeader 3 .shutdown)) ∧
        Unblocked s := by
  have hch : Channel.create { capacity := 1 } (fun _ => true) = .ok Relay.Errand.channel := rfl
  have hwhere : ((start Relay.Errand.channel Relay.Errand.engine).run Errand.moves).map
      (fun s => (s.client, s.stage)) =
        some (.waiting 3, .reading (commandHeader 3 .shutdown)) := by
    decide +kernel
  obtain ⟨s, hs, hwhere⟩ := Option.map_eq_some_iff.mp hwhere
  exact ⟨s, hch, Relay.Errand.fits, hs, hwhere, run_unblocked hch _ Relay.Errand.fits hs⟩

end Session

end RenderRelay
