import RenderRelay.Driver.Recorder
import RenderRelay.Proofs.Dispatcher.Refinement

/-!
# What both sides see of a relay

From the invariant: at any time the engine is that of the direct run of the
commands passed to it, with the records given back counted, and the client
has the replies of its own calls. A relay in which neither side can move has
done all that there is to do, and it comes to that after boundedly many moves.
-/

set_option autoImplicit false

namespace RenderRelay

open Wire

namespace Relay

variable {δ : Type} [Driver δ] {ch : Channel} {e : Engine δ} {cs done queued : List Command}
  {r : Relay δ}

/-! What the dispatcher's phase tells of its log and its engine -/

section

variable {p : Phase} {engine : Engine δ} {log : List Event}

theorem Serving.passed_eq (h : Serving e done queued p engine log) :
    passedOf log = done ++ p.begun := by
  cases h with
  | idle | ended => rw [Engine.passedOf_script]; exact (List.append_nil done).symm
  | replying => rw [passedOf_append, Engine.passedOf_script]; rfl
  | finishing => rw [passedOf_append, Engine.passedOf_script, Engine.passedOf_handling]; rfl

theorem Serving.handled_eq (h : Serving e done queued p engine log) :
    handledOf log = done.length := by
  cases h with
  | idle | ended => exact Engine.handledOf_script ..
  | replying => rw [handledOf_append, Engine.handledOf_script]; rfl
  | finishing => rw [handledOf_append, Engine.handledOf_script, Engine.handledOf_handling]; rfl

theorem Serving.engine_eq (h : Serving e done queued p engine log) :
    engine = (e.after (done ++ p.begun)).noted done.length := by
  cases h with
  | idle | ended => rw [show Phase.begun _ = [] from rfl, List.append_nil]
  | replying | finishing => rw [Phase.begun, Engine.after_append, Engine.after_singleton]

theorem Serving.log_prefix (h : Serving e done queued p engine log) :
    log <+: e.script 0 (done ++ p.begun) := by
  cases h with
  | idle | ended => exact e.script_prefix (List.prefix_append ..) 0
  | replying =>
    rw [Phase.begun, Engine.script_append_singleton]
    exact (List.prefix_append_right_inj _).mpr ⟨_, rfl⟩
  | finishing =>
    rw [Phase.begun, Engine.script_append_singleton]
    exact (List.prefix_append_right_inj _).mpr (List.prefix_append ..)

end

/-! What the client has -/

section

variable {issued : UInt32} {fresh : List Command} {calls : List (Command × Reply)}
  {due : Option Reply} {replies : Bytes} {awaiting : Option (Command × UInt32)}
  {returned : List (Command × Except TransportError Reply)}

theorem Asking.returned_prefix (h : Asking issued fresh calls due replies awaiting returned) :
    returned <+: results calls := by
  cases h with
  | resting | sent => exact List.prefix_rfl
  | due | posted =>
    rw [results, results, List.map_append]
    exact List.prefix_append ..

theorem Asking.returned_of_resting (h : Asking issued fresh calls due replies none returned) :
    returned = results calls ∧ replies = [] := by
  cases h with
  | resting => exact ⟨rfl, rfl⟩

/-- With all commands carried out and no reply on its way, none is awaited. -/
theorem Asking.awaiting_of_empty (h : Asking issued [] calls none [] awaiting returned) :
    awaiting = none := by
  generalize hq : ([] : List Command) = queue at h
  generalize hr : ([] : Bytes) = replies at h
  cases h with
  | resting => rfl
  | sent => exact absurd hq.symm (List.append_ne_nil_of_right_ne_nil _ (List.cons_ne_nil _ _))
  | posted => exact absurd hr.symm (encodeReply_ne_nil _ _)

/-- Once no reply is due or in the ring, every reply there was has been returned. -/
theorem Asking.returned_of_empty (h : Asking issued fresh calls none [] awaiting returned) :
    returned = results calls := by
  generalize hr : ([] : Bytes) = replies at h
  cases h with
  | resting | sent => rfl
  | posted => exact absurd hr.symm (encodeReply_ne_nil _ _)

end

/-! Relays in which neither side can move -/

theorem Linked.replies_of_stuck (hl : Linked ch e cs done queued r) (hf : Fits ch e cs)
    (hs : ∀ m, r.move m = none) : r.dispatcher.channel.replies.contents = [] := by
  by_contra hposted
  cases ha : r.awaiting with
  | none =>
    have hasking := hl.asking
    rw [ha] at hasking
    exact hposted hasking.returned_of_resting.2
  | some call =>
    obtain ⟨c, token⟩ := call
    obtain ⟨s, hm, -⟩ := hl.collect_of_posted hf ha hposted
    exact Option.some_ne_none s (hm.symm.trans (hs .collect))

/-- An idle dispatcher is stuck only when all commands were given back. -/
theorem Linked.todo_of_stuck (hl : Linked ch e cs done queued r) (hf : Fits ch e cs)
    (hp : r.phase = .idle) (hs : ∀ m, r.move m = none) : cs = done := by
  cases queued with
  | cons c rest =>
    obtain ⟨s, hm, -⟩ := hl.accept_of_cons hf hp
    exact absurd (hm.symm.trans (hs .accept)) (Option.some_ne_none s)
  | nil =>
    have hasking := hl.asking
    rw [hl.replies_of_stuck hf hs, hp] at hasking
    have ha := hasking.awaiting_of_empty
    cases ht : r.todo with
    | nil => rw [hl.split, ht, List.append_nil, List.append_nil]
    | cons c todo =>
      have hroom : (encodeCommand (tokenAfter (done.length + 0 + 1)) c).length ≤
          r.dispatcher.channel.commands.free := by
        rw [Ring.free_of_empty hl.commands_eq, hl.commands_capacity]
        exact hf.command c (by rw [hl.split, ht]; simp) _
      obtain ⟨s, hm, -⟩ := hl.issue_of_room hf ha ht hroom
      exact absurd (hm.symm.trans (hs .issue)) (Option.some_ne_none s)

/-- Where neither side can move, all commands up to the first shutdown were
handled, and every call among them has returned. -/
theorem Linked.complete_of_stuck (hl : Linked ch e cs done queued r) (hf : Fits ch e cs)
    (hs : ∀ m, r.move m = none) :
    r.log = e.script 0 (Command.untilShutdown cs) ∧
      r.returned = results (e.calls (Command.untilShutdown cs)) := by
  have hserving := hl.serving
  have hasking := hl.asking
  rw [hl.replies_of_stuck hf hs] at hasking
  cases hp : r.phase with
  | replying h c reply =>
    obtain ⟨s, hm, -⟩ := hl.post_of_replying hf hp
    exact absurd (hm.symm.trans (hs .post)) (Option.some_ne_none s)
  | finishing h c =>
    obtain ⟨s, rest, hm, -⟩ := hl.finish_of_finishing hf hp
    exact absurd (hm.symm.trans (hs .finish)) (Option.some_ne_none s)
  | idle =>
    have hdone := hl.todo_of_stuck hf hp hs
    rw [hp] at hserving hasking
    have hreturned := hasking.returned_of_empty
    rw [Phase.begun_idle, List.append_nil] at hreturned
    generalize r.dispatcher.engine = engine at hserving
    generalize r.log = log at hserving
    cases hserving with
    | idle quiet =>
      rw [hdone, Command.untilShutdown_of_not_mem quiet]
      exact ⟨rfl, hreturned⟩
  | ended cause =>
    rw [hp] at hserving hasking
    have hreturned := hasking.returned_of_empty
    rw [Phase.begun_ended, List.append_nil] at hreturned
    generalize r.dispatcher.engine = engine at hserving
    generalize r.log = log at hserving
    cases hserving with
    | ended quiet last =>
      have hu := Command.untilShutdown_append_shutdown quiet (queued ++ r.todo)
      rw [List.append_cons, ← last, ← hl.split] at hu
      rw [hu]
      exact ⟨rfl, hreturned⟩

/-! How many moves there are -/

section

variable {δ : Type} {r s : Relay δ}

def traces (r : Relay δ) : Nat :=
  r.tokens.length + r.returned.length + r.log.length + r.phase.ends

theorem traces_lt_issue (hm : r.issue = some s) : r.traces < s.traces := by
  rw [issue] at hm
  split at hm
  · split at hm
    · cases hm
      simp only [traces, List.length_append, List.length_singleton]
      omega
    · cases hm
      simp only [traces, List.length_append, List.length_singleton]
      omega
    · cases hm
  · cases hm

theorem traces_lt_collect (hm : r.collect = some s) : r.traces < s.traces := by
  rw [collect] at hm
  split at hm
  · split at hm
    · cases hm
      simp only [traces, List.length_append, List.length_singleton]
      omega
    · cases hm
  · cases hm

theorem traces_lt_post (hm : r.post = some s) : r.traces < s.traces := by
  rw [post] at hm
  split at hm
  · next hp =>
    have h0 : r.phase.ends = 0 := by rw [hp]; rfl
    split at hm
    · cases hm
      simp only [traces, h0, List.length_append, List.length_singleton]
      omega
    · cases hm
      simp only [traces, h0, Phase.ends_ended]
      omega
    · cases hm
  · cases hm

theorem traces_lt_finish (hm : r.finish = some s) : r.traces < s.traces := by
  rw [finish] at hm
  split at hm
  · next hp =>
    have h0 : r.phase.ends = 0 := by rw [hp]; rfl
    cases hm
    simp only [traces, h0, List.length_append, List.length_singleton]
    omega
  · cases hm

theorem traces_lt_accept [Driver δ] (hm : r.accept = some s) : r.traces < s.traces := by
  rw [accept] at hm
  split at hm
  · next hp _ =>
    have h0 : r.phase.ends = 0 := by rw [hp]; rfl
    cases hm
    simp only [traces, h0, Phase.ends_ended]
    omega
  · cases hm
    simp only [traces, List.length_append, List.length_singleton]
    omega
  · next hp _ =>
    have h0 : r.phase.ends = 0 := by rw [hp]; rfl
    cases hm
    simp only [traces, h0, List.length_append, List.length_singleton]
    omega
  · cases hm

end

theorem traces_lt_move {s : Relay δ} {m : Move} (hm : r.move m = some s) :
    r.traces < s.traces := by
  cases m with
  | issue => exact traces_lt_issue hm
  | collect => exact traces_lt_collect hm
  | accept => exact traces_lt_accept hm
  | post => exact traces_lt_post hm
  | finish => exact traces_lt_finish hm
  | serve =>
    obtain ⟨t, ht, hm⟩ := Option.bind_eq_some_iff.mp hm
    obtain ⟨u, hu, hm⟩ := Option.bind_eq_some_iff.mp hm
    have hrt := traces_lt_accept ht
    have htu : t.traces ≤ u.traces := by
      split at hu
      · exact (traces_lt_post hu).le
      · cases hu
        exact Nat.le_refl _
    have hus : u.traces ≤ s.traces := by
      split at hm
      · cases hm
        exact Nat.le_refl _
      · exact (traces_lt_finish hm).le
    omega

theorem length_add_traces_le {ms : List Move} {s : Relay δ} (hm : r.run ms = some s) :
    ms.length + r.traces ≤ s.traces := by
  induction ms generalizing r with
  | nil =>
    cases hm
    exact (Nat.zero_add _).le
  | cons m ms ih =>
    obtain ⟨t, ht, hm⟩ := Option.bind_eq_some_iff.mp hm
    have hlt := traces_lt_move ht
    have hle := ih hm
    rw [List.length_cons]
    omega

/-- A command leaves a token, a result and three entries in the log at most. -/
theorem Linked.traces_le (hl : Linked ch e cs done queued r) : r.traces ≤ 5 * cs.length + 1 := by
  have hlength : cs.length = done.length + (queued.length + r.todo.length) := by
    rw [hl.split, List.length_append, List.length_append]
  have hbegun := hl.serving.length_begun_le
  have htokens : r.tokens.length = done.length + queued.length := by
    rw [hl.tokens_eq, List.length_map, List.length_range]
  have hreturned := hl.asking.returned_prefix.length_le
  have hcalls := e.length_calls_le (done ++ r.phase.begun)
  have hlog := hl.serving.log_prefix.length_le
  have hscript := e.length_script_le 0 (done ++ r.phase.begun)
  rw [results, List.length_map] at hreturned
  rw [List.length_append] at hcalls hscript
  have hends := r.phase.ends_le
  rw [traces]
  omega

/-! The statement -/

structure Faithful (e : Engine δ) (cs : List Command) (r : Relay δ) : Prop where
  /-- Commands are passed to the engine in order, each once, and none after a shutdown. -/
  passed : passedOf r.log <+: Command.untilShutdown cs
  /-- Each is carried out, then its reply is posted, then it is acknowledged. -/
  log : r.log <+: e.script 0 (Command.untilShutdown cs)
  /-- Between two steps the commands passed are those of the records handled. -/
  handled : r.phase.begun = [] → passedOf r.log = cs.take (handledOf r.log)
  engine : r.dispatcher.engine = (e.after (passedOf r.log)).noted (handledOf r.log)
  tokens : r.tokens = (List.range r.tokens.length).map fun i => tokenAfter (i + 1)
  /-- The token acknowledged last is that of the command handled last. -/
  lastToken : (Ring.noToken :: r.tokens)[handledOf r.log]? =
    some r.dispatcher.channel.commands.lastToken
  /-- Every call that has returned has returned the reply to its own command. -/
  returned : r.returned <+: results (e.calls (passedOf r.log))
  resting : r.awaiting = none → r.returned = results (e.calls (passedOf r.log))
  /-- If neither side can move, everything was done. -/
  complete : (∀ m, r.move m = none) →
    r.log = e.script 0 (Command.untilShutdown cs) ∧
      r.returned = results (e.calls (Command.untilShutdown cs))
  /-- To serve is what the dispatcher's step is. -/
  serves : r.phase = .idle → r.ServesStep

theorem Linked.faithful (hl : Linked ch e cs done queued r) (hf : Fits ch e cs) :
    Faithful e cs r := by
  have hpassed := hl.serving.passed_eq
  have hhandled := hl.serving.handled_eq
  have hpre := hl.serving.passed_prefix r.todo
  rw [← hl.split] at hpre
  have htokens : r.tokens.length = done.length + queued.length := by
    rw [hl.tokens_eq, List.length_map, List.length_range]
  constructor
  case passed => rwa [hpassed]
  case log => exact hl.serving.log_prefix.trans (e.script_prefix hpre 0)
  case handled =>
    intro hp
    rw [hpassed, hhandled, hp, List.append_nil]
    conv_rhs => rw [hl.split]
    exact (List.take_left ..).symm
  case engine =>
    rw [hpassed, hhandled]
    exact hl.serving.engine_eq
  case tokens =>
    rw [htokens]
    exact hl.tokens_eq
  case lastToken =>
    have hall : Ring.noToken :: r.tokens =
        (List.range (done.length + queued.length + 1)).map tokenAfter := by
      rw [hl.tokens_eq, List.range_succ_eq_map, List.map_cons, List.map_map]
      rfl
    rw [hall, hhandled, List.getElem?_map, List.getElem?_range (by omega), hl.last_eq]
    rfl
  case returned =>
    rw [hpassed]
    exact hl.asking.returned_prefix
  case resting =>
    intro ha
    have hasking := hl.asking
    rw [ha] at hasking
    rw [hpassed]
    exact hasking.returned_of_resting.1
  case complete => exact hl.complete_of_stuck hf
  case serves => exact serves_step

theorem start_linked {settings : Ring.Settings} {usable : String → Bool}
    (hch : Channel.create settings usable = .ok ch) (e : Engine δ) (cs : List Command) :
    Linked ch e cs [] [] (start ch e cs) := by
  obtain ⟨hc, hr, hissued⟩ := Channel.create_eq hch
  have hsc := Ring.create_sound hc
  have hsr := Ring.create_sound hr
  have hec := Ring.create_contents hc
  have her := Ring.create_contents hr
  obtain ⟨hlc, hc⟩ := Ring.create_eq hc
  obtain ⟨hlr, hr⟩ := Ring.create_eq hr
  have hsize : UInt32.size = 4294967296 := rfl
  constructor
  case split => rfl
  case commands_sound => exact hsc
  case commands_capacity => rfl
  case commands_small =>
    rw [hc]
    dsimp only
    omega
  case commands_eq => exact hec
  case replies_sound => exact hsr
  case replies_capacity => rfl
  case replies_small =>
    rw [hr]
    dsimp only
    omega
  case issued_eq => exact hissued
  case tokens_eq => rfl
  case last_eq =>
    dsimp only [start]
    rw [hc]
    rfl
  case serving => exact .idle (List.not_mem_nil)
  case asking =>
    dsimp only [start]
    rw [her]
    exact .resting fun c hm => absurd hm (List.not_mem_nil)

/-- Serving commands over a channel refines giving them to the engine directly:
after any moves of client and dispatcher the relay is faithful, and there are
no more moves than the commands allow. -/
theorem run_faithful {settings : Ring.Settings} {usable : String → Bool}
    (hch : Channel.create settings usable = .ok ch) (e : Engine δ) (cs : List Command)
    (hf : Fits ch e cs) {ms : List Move} (hr : (start ch e cs).run ms = some r) :
    Faithful e cs r ∧ ms.length ≤ 5 * cs.length + 1 := by
  obtain ⟨done, queued, hl⟩ := kept_run hf ⟨[], [], start_linked hch e cs⟩ hr
  have hmoves := length_add_traces_le hr
  have htraces := hl.traces_le
  exact ⟨hl.faithful hf, by omega⟩

/-! A relay with a shutdown among its commands -/

namespace Errand

def ring (id : Nat) : Ring := ⟨id, 4096, {}, 0, 0, 0, Ring.noToken, .busyPoll, 100⟩

def channel : Channel := ⟨ring 0, ring 1, Ring.noToken⟩

def engine : Engine Recorder := { server := { driver := {} } }

def commands : List Command := [.clearStencil 3, .getDisplay ⟨4⟩, .shutdown, .nop]

/-- The reply is taken, and the shutdown is sent, before the call is acknowledged. -/
def moves : List Move :=
  [.issue, .issue, .serve, .accept, .post, .collect, .issue, .finish, .issue, .serve]

theorem fits : Fits channel engine commands := by
  constructor
  · intro c hm t
    rw [length_encodeCommand t 0]
    revert c
    decide
  · have hcalls : engine.calls (Command.untilShutdown commands) =
        [(.getDisplay ⟨4⟩, .display ⟨5⟩)] := by
      decide +kernel
    rw [hcalls]
    intro call hm t
    rw [length_encodeReply t 0]
    revert call
    decide

end Errand

theorem run_faithful_of_errand :
    ∃ r : Relay Recorder,
      Channel.create { capacity := 1 } (fun _ => true) = .ok Errand.channel ∧
        Fits Errand.channel Errand.engine Errand.commands ∧
        (start Errand.channel Errand.engine Errand.commands).run Errand.moves = some r ∧
        r.log = [.passed (.clearStencil 3), .acknowledged 1, .passed (.getDisplay ⟨4⟩),
          .posted 2 (.display ⟨5⟩), .acknowledged 2, .passed .shutdown, .acknowledged 3] ∧
        Faithful Errand.engine Errand.commands r ∧
        Errand.moves.length ≤ 5 * Errand.commands.length + 1 := by
  have hch : Channel.create { capacity := 1 } (fun _ => true) = .ok Errand.channel := rfl
  have hlog : ((start Errand.channel Errand.engine Errand.commands).run Errand.moves).map log =
      some [.passed (.clearStencil 3), .acknowledged 1, .passed (.getDisplay ⟨4⟩),
        .posted 2 (.display ⟨5⟩), .acknowledged 2, .passed .shutdown, .acknowledged 3] := by
    decide +kernel
  obtain ⟨r, hr, hlog⟩ := Option.map_eq_some_iff.mp hlog
  exact ⟨r, hch, Errand.fits, hr, hlog, run_faithful hch _ _ Errand.fits hr⟩

end Relay

end RenderRelay
