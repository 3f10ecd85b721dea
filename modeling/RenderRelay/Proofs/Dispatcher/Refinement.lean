import RenderRelay.Proofs.Channel.Stream
import RenderRelay.Proofs.Dispatcher.Relay
import RenderRelay.Proofs.Engine.Counter
import RenderRelay.Proofs.Engine.Replies

/-!
# Serving commands refines carrying them out

However the moves of client and dispatcher are interleaved, the dispatcher
follows the script of giving the commands to the engine directly, and the
client gets the replies of its own calls. The invariant splits the commands
into those given back, those whose records are in the ring, and those still
to be issued, and says where the one call is that the client may wait for.
-/

set_option autoImplicit false

namespace RenderRelay

open Wire

variable {δ : Type} [Driver δ]

structure Fits (ch : Channel) (e : Engine δ) (cs : List Command) : Prop where
  command : ∀ c ∈ cs, ∀ t, (encodeCommand t c).length ≤ ch.commands.capacity
  reply : ∀ call ∈ e.calls (Command.untilShutdown cs),
    ∀ t, (encodeReply t call.2).length ≤ ch.replies.capacity

namespace Relay

/-- How far the dispatcher is once the records of `done` were given back and
those of `queued` are in the ring. -/
inductive Serving (e : Engine δ) (done : List Command) :
    (queued : List Command) → Phase → Engine δ → List Event → Prop where
  | idle {queued : List Command} (quiet : .shutdown ∉ done) :
    Serving e done queued .idle ((e.after done).noted done.length) (e.script 0 done)
  | replying {c : Command} {rest : List Command} {reply : Reply} (quiet : .shutdown ∉ done)
      (answer : ((e.after done).execute c).1 = some reply) :
    Serving e done (c :: rest)
      (.replying (commandHeader (tokenAfter (done.length + 1)) c) c reply)
      (((e.after done).execute c).2.noted done.length) (e.script 0 done ++ [.passed c])
  | finishing {c : Command} {rest : List Command} (quiet : .shutdown ∉ done) :
    Serving e done (c :: rest) (.finishing (commandHeader (tokenAfter (done.length + 1)) c) c)
      (((e.after done).execute c).2.noted done.length)
      (e.script 0 done ++ (e.after done).handling (tokenAfter (done.length + 1)) c)
  | ended {front queued : List Command} (quiet : .shutdown ∉ front)
      (last : done = front ++ [.shutdown]) :
    Serving e done queued (.ended .shutdown) ((e.after done).noted done.length) (e.script 0 done)

def results (calls : List (Command × Reply)) : List (Command × Except TransportError Reply) :=
  calls.map fun call => (call.1, .ok call.2)

/-- Where the awaited call is: there is none, or it is the last command that
was sent and not yet carried out, or its reply is due, or its reply is in the
ring. `fresh` was not carried out yet, and `calls` were. -/
inductive Asking (issued : UInt32) :
    (fresh : List Command) → (calls : List (Command × Reply)) → (due : Option Reply) →
    (replies : Bytes) → (awaiting : Option (Command × UInt32)) →
    (returned : List (Command × Except TransportError Reply)) → Prop where
  | resting {fresh : List Command} {calls : List (Command × Reply)}
      (silent : ∀ c ∈ fresh, c.expectsReply = false) :
    Asking issued fresh calls none [] none (results calls)
  | sent {fresh : List Command} {c : Command} {calls : List (Command × Reply)}
      (silent : ∀ c ∈ fresh, c.expectsReply = false) (asks : c.expectsReply = true) :
    Asking issued (fresh ++ [c]) calls none [] (some (c, issued)) (results calls)
  | due {c : Command} {reply : Reply} {calls : List (Command × Reply)} :
    Asking issued [] (calls ++ [(c, reply)]) (some reply) [] (some (c, issued)) (results calls)
  | posted {c : Command} {reply : Reply} {calls : List (Command × Reply)} :
    Asking issued [] (calls ++ [(c, reply)]) none (encodeReply issued reply) (some (c, issued))
      (results calls)

/-- The rings hold what was sent and not yet taken, and both sides have come
as far as the commands given back tell. -/
structure Linked (ch : Channel) (e : Engine δ) (cs done queued : List Command) (r : Relay δ) :
    Prop where
  split : cs = done ++ (queued ++ r.todo)
  commands_sound : r.dispatcher.channel.commands.Sound
  commands_capacity : r.dispatcher.channel.commands.capacity = ch.commands.capacity
  commands_small : ch.commands.capacity < UInt32.size
  commands_eq : r.dispatcher.channel.commands.contents = records done.length queued
  replies_sound : r.dispatcher.channel.replies.Sound
  replies_capacity : r.dispatcher.channel.replies.capacity = ch.replies.capacity
  replies_small : ch.replies.capacity < UInt32.size
  issued_eq : r.dispatcher.channel.issued = tokenAfter (done.length + queued.length)
  tokens_eq : r.tokens = (List.range (done.length + queued.length)).map fun i => tokenAfter (i + 1)
  last_eq : r.dispatcher.channel.commands.lastToken = tokenAfter done.length
  serving : Serving e done queued r.phase r.dispatcher.engine r.log
  asking : Asking r.dispatcher.channel.issued (queued.drop r.phase.begun.length)
    (e.calls (done ++ r.phase.begun)) r.phase.due? r.dispatcher.channel.replies.contents
    r.awaiting r.returned

/-! What the moves do to the parts -/

section

variable {issued : UInt32} {fresh : List Command} {calls : List (Command × Reply)}
  {due : Option Reply} {replies : Bytes} {awaiting : Option (Command × UInt32)}
  {returned : List (Command × Except TransportError Reply)}

theorem Asking.accept {c : Command} {answer : Option Reply}
    (h : Asking issued (c :: fresh) calls none replies awaiting returned)
    (ha : answer.isSome = c.expectsReply) :
    Asking issued fresh (calls ++ (answer.map (c, ·)).toList) answer replies awaiting returned := by
  generalize hq : c :: fresh = queue at h
  generalize hd : (none : Option Reply) = due at h
  cases h with
  | resting silent =>
    subst hq
    have hc := silent c (by simp)
    rw [hc, Option.isSome_eq_false_iff, Option.isNone_iff_eq_none] at ha
    subst ha
    rw [Option.map_none, Option.toList_none, List.append_nil]
    exact .resting fun x hx => silent x (by simp [hx])
  | @sent front last _ silent asks =>
    cases front with
    | nil =>
      obtain ⟨rfl, rfl⟩ := List.cons.inj hq
      rw [asks] at ha
      obtain ⟨reply, rfl⟩ := Option.isSome_iff_exists.mp ha
      exact .due
    | cons x front =>
      obtain ⟨rfl, rfl⟩ := List.cons.inj hq
      have hc := silent c (by simp)
      rw [hc, Option.isSome_eq_false_iff, Option.isNone_iff_eq_none] at ha
      subst ha
      rw [Option.map_none, Option.toList_none, List.append_nil]
      exact .sent (fun x hx => silent x (by simp [hx])) asks
  | due => cases hd
  | posted => cases hq

/-- A reply that is due is that to the last command, and the ring is empty. -/
theorem Asking.due_cases {reply : Reply}
    (h : Asking issued fresh calls (some reply) replies awaiting returned) :
    fresh = [] ∧ replies = [] ∧
      Asking issued fresh calls none (encodeReply issued reply) awaiting returned := by
  cases h with
  | due => exact ⟨rfl, rfl, .posted⟩

theorem Asking.issue {c : Command} {token : UInt32}
    (h : Asking issued fresh calls due replies none returned) :
    Asking token (fresh ++ [c]) calls due replies
      (if c.expectsReply then some (c, token) else none) returned := by
  cases h with
  | resting silent =>
    by_cases hc : c.expectsReply = true
    · rw [if_pos hc]
      exact .sent silent hc
    · rw [if_neg hc]
      refine .resting fun x hx => ?_
      rcases List.mem_append.mp hx with hx | hx
      · exact silent x hx
      · rw [List.mem_singleton.mp hx]
        exact (Bool.not_eq_true _).mp hc

/-- While a call is awaited, the reply ring is empty or holds just its reply. -/
theorem Asking.collect_cases {c : Command} {token : UInt32}
    (h : Asking issued fresh calls due replies (some (c, token)) returned) :
    token = issued ∧ (replies = [] ∨ ∃ reply, (c, reply) ∈ calls ∧
      replies = encodeReply issued reply ∧
      Asking issued fresh calls due [] none (returned ++ [(c, .ok reply)])) := by
  cases h with
  | sent => exact ⟨rfl, .inl rfl⟩
  | due => exact ⟨rfl, .inl rfl⟩
  | @posted _ reply calls =>
    have hr : results calls ++ [(c, .ok reply)] = results (calls ++ [(c, reply)]) := by
      rw [results, results, List.map_append]
      rfl
    refine ⟨rfl, .inr ⟨reply, by simp, rfl, ?_⟩⟩
    rw [hr]
    exact .resting fun x hx => absurd hx (List.not_mem_nil)

end

/-! Moves of the dispatcher -/

variable {ch : Channel} {e : Engine δ} {cs done queued : List Command} {r : Relay δ}
  {c : Command} {rest : List Command}

theorem Linked.fits_command (hl : Linked ch e cs done (c :: rest) r) (hf : Fits ch e cs)
    (t : UInt32) : (encodeCommand t c).length ≤ r.dispatcher.channel.commands.capacity := by
  rw [hl.commands_capacity]
  exact hf.command c (by rw [hl.split]; simp) t

theorem Linked.fetch_eq (hl : Linked ch e cs done (c :: rest) r) (hf : Fits ch e cs) :
    r.dispatcher.fetch =
      .ready (.ok (commandHeader (tokenAfter (done.length + 1)) c, some c)) := by
  have hle := hl.fits_command hf (tokenAfter (done.length + 1))
  have hs : r.dispatcher.channel.commands.capacity < UInt32.size :=
    hl.commands_capacity ▸ hl.commands_small
  rw [Dispatcher.fetch, Dispatcher.header_of_contents hle hs hl.commands_eq]
  dsimp only
  rw [Dispatcher.decode_of_contents (by omega) hl.commands_eq]

theorem Linked.accept_of_empty (hl : Linked ch e cs done [] r) : r.accept = none := by
  have hh := Dispatcher.header_of_empty (d := r.dispatcher) hl.commands_eq
  rw [accept, Dispatcher.fetch, hh]
  cases r.phase <;> rfl

theorem Linked.accept_of_cons (hl : Linked ch e cs done (c :: rest) r) (hf : Fits ch e cs)
    (hp : r.phase = .idle) :
    ∃ s, r.accept = some s ∧ Linked ch e cs done (c :: rest) s := by
  have hserving := hl.serving
  have hasking := hl.asking
  generalize heng : r.dispatcher.engine = engine at hserving
  generalize hlog : r.log = log at hserving
  rw [hp] at hserving hasking
  cases hserving with
  | idle quiet =>
    have hx := (e.after done).execute_noted done.length c
    have hsome := (e.after done).execute_isSome c
    rw [accept, hp, hl.fetch_eq hf]
    refine ⟨_, rfl, ?_⟩
    have hcalls : e.calls (done ++ [c]) =
        e.calls done ++ (((e.after done).execute c).1.map (c, ·)).toList := by
      rw [Engine.calls_append, Engine.calls_singleton]
    have hnext := Asking.accept (by simpa [Phase.begun, Phase.due?] using hasking) hsome
    rw [← hcalls] at hnext
    refine { hl with serving := ?serving, asking := ?asking }
    case serving =>
      dsimp only
      rw [heng, hlog, hx]
      cases ha : ((e.after done).execute c).1 with
      | none =>
        have hfin : Serving e done (c :: rest) _ _ _ := .finishing quiet
        rw [Engine.handling, ha] at hfin
        exact hfin
      | some reply => exact .replying quiet ha
    case asking =>
      dsimp only
      rw [heng, hx]
      cases ha : ((e.after done).execute c).1 with
      | none =>
        rw [ha] at hnext
        exact hnext
      | some reply =>
        rw [ha] at hnext
        exact hnext

theorem Serving.passed_prefix {p : Phase} {engine : Engine δ} {log : List Event}
    (h : Serving e done queued p engine log) (todo : List Command) :
    done ++ p.begun <+: Command.untilShutdown (done ++ (queued ++ todo)) := by
  cases h with
  | idle quiet =>
    rw [Command.untilShutdown_append quiet]
    exact (List.prefix_append_right_inj done).mpr List.nil_prefix
  | replying quiet | finishing quiet => exact Command.append_singleton_prefix quiet _ _
  | ended quiet last =>
    have hu := Command.untilShutdown_append_shutdown quiet (queued ++ todo)
    rw [List.append_cons, ← last] at hu
    rw [hu]
    exact (List.append_nil done).symm ▸ List.prefix_rfl

/-- The reply ring has room for every reply of a command that was passed on. -/
theorem Linked.fits_reply (hl : Linked ch e cs done queued r) (hf : Fits ch e cs)
    {call : Command × Reply} (hm : call ∈ e.calls (done ++ r.phase.begun)) (t : UInt32) :
    (encodeReply t call.2).length ≤ r.dispatcher.channel.replies.capacity := by
  have hpre := hl.serving.passed_prefix r.todo
  rw [← hl.split] at hpre
  rw [hl.replies_capacity]
  exact hf.reply call ((e.calls_prefix hpre).subset hm) t

theorem Linked.post_of_replying {h : Header} {reply : Reply} (hl : Linked ch e cs done queued r)
    (hf : Fits ch e cs) (hp : r.phase = .replying h c reply) :
    ∃ s, r.post = some s ∧ Linked ch e cs done queued s := by
  have hserving := hl.serving
  have hasking := hl.asking
  generalize heng : r.dispatcher.engine = engine at hserving
  generalize hlog : r.log = log at hserving
  rw [hp] at hserving hasking
  cases hserving with
  | @replying _ rest _ quiet answer =>
    obtain ⟨hrest, hempty, hnext⟩ := hasking.due_cases
    have hrest : rest = [] := by simpa [Phase.begun] using hrest
    have hissued : r.dispatcher.channel.issued = tokenAfter (done.length + 1) := by
      rw [hl.issued_eq, hrest, List.length_singleton]
    have hmem : (c, reply) ∈ e.calls (done ++ r.phase.begun) := by
      rw [hp, Phase.begun, Engine.calls_append, Engine.calls_singleton, answer]
      simp
    have hfit := hl.fits_reply hf hmem (tokenAfter (done.length + 1))
    have hroom : (encodeReply (tokenAfter (done.length + 1)) reply).length ≤
        r.dispatcher.channel.replies.free := by rwa [Ring.free_of_empty hempty]
    have hpost := Channel.postReply_of_le hfit
    rw [if_pos hroom] at hpost
    rw [post, hp]
    dsimp only
    rw [show (commandHeader (tokenAfter (done.length + 1)) c).token =
      tokenAfter (done.length + 1) from rfl, hpost]
    refine ⟨_, rfl, ?_⟩
    refine { hl with
      replies_sound := Ring.append_sound hl.replies_sound hroom
      serving := ?serving
      asking := ?asking }
    case serving =>
      have hfin : Serving e done (c :: rest) _ _ _ := .finishing quiet
      rw [Engine.handling, answer] at hfin
      dsimp only
      rw [heng, hlog, List.append_assoc]
      exact hfin
    case asking =>
      dsimp only
      rw [Ring.append_contents hl.replies_sound hroom, hempty, List.nil_append, ← hissued]
      exact hnext

theorem Linked.finish_of_finishing {h : Header} (hl : Linked ch e cs done queued r)
    (hf : Fits ch e cs) (hp : r.phase = .finishing h c) :
    ∃ s rest, r.finish = some s ∧ Linked ch e cs (done ++ [c]) rest s := by
  have hserving := hl.serving
  have hasking := hl.asking
  generalize heng : r.dispatcher.engine = engine at hserving
  generalize hlog : r.log = log at hserving
  rw [hp] at hserving hasking
  cases hserving with
  | @finishing _ rest quiet =>
    have hfit := hl.fits_command hf (tokenAfter (done.length + 1))
    have hsmall : (encodeCommand (tokenAfter (done.length + 1)) c).length < UInt32.size := by
      have := hl.commands_small
      rw [hl.commands_capacity] at hfit
      omega
    have hlength : (commandHeader (tokenAfter (done.length + 1)) c).length =
        (encodeCommand (tokenAfter (done.length + 1)) c).length := length_headerOf hsmall
    have hcontents := hl.commands_eq
    rw [records] at hcontents
    have hsound := Ring.skip_sound_of_contents hl.commands_sound hcontents
    have hskip := Ring.skip_contents_of_contents hcontents
    have hcount : (done ++ [c]).length + rest.length = done.length + (c :: rest).length := by
      rw [List.length_append, List.length_singleton, List.length_cons]
      omega
    rw [finish, hp]
    refine ⟨_, rest, rfl, ?_⟩
    rw [Phase.after_ofCommand]
    refine { hl with
      split := ?split
      commands_sound := ?commands_sound
      commands_eq := ?commands_eq
      issued_eq := ?issued_eq
      tokens_eq := ?tokens_eq
      last_eq := ?last_eq
      serving := ?serving
      asking := ?asking }
    case split =>
      rw [hl.split]
      simp
    case commands_sound =>
      dsimp only [Dispatcher.finish]
      rw [hlength]
      exact ⟨hsound.capacity_pos, hsound.tail_lt, hsound.fill_le, hsound.head_eq⟩
    case commands_eq =>
      dsimp only [Dispatcher.finish]
      rw [hlength, List.length_append, List.length_singleton]
      exact hskip
    case issued_eq =>
      rw [hcount]
      exact hl.issued_eq
    case tokens_eq =>
      rw [hcount]
      exact hl.tokens_eq
    case last_eq =>
      rw [List.length_append, List.length_singleton]
      rfl
    case serving =>
      have hafter : e.after (done ++ [c]) = ((e.after done).execute c).2 :=
        Engine.after_append ..
      have hengine : (r.dispatcher.finish (commandHeader (tokenAfter (done.length + 1)) c)).engine =
          (e.after (done ++ [c])).noted (done ++ [c]).length := by
        rw [hafter, List.length_append, List.length_singleton, ← Engine.noted_noted, ← heng]
        rfl
      have hscript : r.log ++ [.acknowledged (tokenAfter (done.length + 1))] =
          e.script 0 (done ++ [c]) := by
        rw [e.script_append_singleton, hlog, List.append_assoc]
      dsimp only
      rw [hengine, show (commandHeader (tokenAfter (done.length + 1)) c).token =
        tokenAfter (done.length + 1) from rfl, hscript]
      by_cases hc : c = .shutdown
      · rw [if_pos hc]
        exact .ended quiet (by rw [hc])
      · rw [if_neg hc]
        refine .idle fun hm => ?_
        rcases List.mem_append.mp hm with hm | hm
        · exact quiet hm
        · exact hc (List.mem_singleton.mp hm).symm
    case asking =>
      by_cases hc : c = .shutdown
      · rw [if_pos hc]
        simpa [Phase.begun, Phase.due?, Dispatcher.finish] using hasking
      · rw [if_neg hc]
        simpa [Phase.begun, Phase.due?, Dispatcher.finish] using hasking

/-! Moves of the client -/

theorem Serving.length_begun_le {p : Phase} {engine : Engine δ} {log : List Event}
    (h : Serving e done queued p engine log) : p.begun.length ≤ queued.length := by
  cases h with
  | idle | ended => exact Nat.zero_le _
  | replying | finishing => exact Nat.succ_le_succ (Nat.zero_le _)

/-- More commands behind those in the ring are no concern of the dispatcher. -/
theorem Serving.append {p : Phase} {engine : Engine δ} {log : List Event}
    (h : Serving e done queued p engine log) (more : List Command) :
    Serving e done (queued ++ more) p engine log := by
  cases h with
  | idle quiet => exact .idle quiet
  | replying quiet answer => exact .replying quiet answer
  | finishing quiet => exact .finishing quiet
  | ended quiet last => exact .ended quiet last

theorem Linked.send_eq {todo : List Command} (hl : Linked ch e cs done queued r)
    (hf : Fits ch e cs) (ht : r.todo = c :: todo) :
    let token := tokenAfter (done.length + queued.length + 1)
    r.dispatcher.channel.send c =
      if (encodeCommand token c).length ≤ r.dispatcher.channel.commands.free then
        .ready (.ok token,
          { r.dispatcher.channel with
            commands := r.dispatcher.channel.commands.append (encodeCommand token c)
            issued := token })
      else .waits := by
  have hnext : nextToken r.dispatcher.channel.issued =
      tokenAfter (done.length + queued.length + 1) := by
    rw [hl.issued_eq, tokenAfter_succ]
  have hfit : (encodeCommand (nextToken r.dispatcher.channel.issued) c).length ≤
      r.dispatcher.channel.commands.capacity := by
    rw [hl.commands_capacity]
    exact hf.command c (by rw [hl.split, ht]; simp) _
  have hsend := Channel.send_of_le hfit
  rwa [hnext] at hsend

theorem Linked.issue_of_room {todo : List Command} (hl : Linked ch e cs done queued r)
    (hf : Fits ch e cs) (ha : r.awaiting = none) (ht : r.todo = c :: todo)
    (hroom : (encodeCommand (tokenAfter (done.length + queued.length + 1)) c).length ≤
      r.dispatcher.channel.commands.free) :
    ∃ s, r.issue = some s ∧ Linked ch e cs done (queued ++ [c]) s := by
  have hcount : done.length + (queued ++ [c]).length = done.length + queued.length + 1 := by
    rw [List.length_append, List.length_singleton, Nat.add_assoc]
  rw [issue, ha, ht]
  dsimp only
  rw [hl.send_eq hf ht, if_pos hroom]
  refine ⟨_, rfl, ?_⟩
  refine { hl with
    split := ?split
    commands_sound := Ring.append_sound hl.commands_sound hroom
    commands_eq := ?commands_eq
    issued_eq := ?issued_eq
    tokens_eq := ?tokens_eq
    serving := hl.serving.append [c]
    asking := ?asking }
  case split =>
    rw [hl.split, ht]
    simp
  case commands_eq =>
    dsimp only
    rw [Ring.append_contents hl.commands_sound hroom, hl.commands_eq, records_append,
      records_singleton]
  case issued_eq => rw [hcount]
  case tokens_eq =>
    dsimp only
    rw [hcount, hl.tokens_eq, List.range_succ, List.map_append]
    rfl
  case asking =>
    have hasking := hl.asking
    rw [ha] at hasking
    have hnew : Asking (tokenAfter (done.length + queued.length + 1)) (_ ++ [c]) _ _ _ _ _ :=
      hasking.issue
    rw [← List.drop_append_of_le_length hl.serving.length_begun_le] at hnew
    exact hnew

theorem Linked.issue_of_full {todo : List Command} (hl : Linked ch e cs done queued r)
    (hf : Fits ch e cs) (ha : r.awaiting = none) (ht : r.todo = c :: todo)
    (hroom : ¬ (encodeCommand (tokenAfter (done.length + queued.length + 1)) c).length ≤
      r.dispatcher.channel.commands.free) : r.issue = none := by
  rw [issue, ha, ht]
  dsimp only
  rw [hl.send_eq hf ht, if_neg hroom]

omit [Driver δ] in
theorem collect_of_empty (hempty : r.dispatcher.channel.replies.contents = []) :
    r.collect = none := by
  rw [collect]
  split
  · rw [Channel.takeReply_of_empty hempty]
  · rfl

theorem Linked.collect_of_posted {token : UInt32} (hl : Linked ch e cs done queued r)
    (hf : Fits ch e cs) (ha : r.awaiting = some (c, token))
    (hposted : r.dispatcher.channel.replies.contents ≠ []) :
    ∃ s, r.collect = some s ∧ Linked ch e cs done queued s := by
  have hasking := hl.asking
  rw [ha] at hasking
  obtain ⟨rfl, hempty | ⟨reply, hmem, hcontents, hnext⟩⟩ := hasking.collect_cases
  · exact absurd hempty hposted
  · have hfit := hl.fits_reply hf hmem r.dispatcher.channel.issued
    have hsmall := hl.replies_small
    rw [hl.replies_capacity] at hfit
    rw [← List.append_nil (encodeReply _ _)] at hcontents
    rw [collect, ha]
    dsimp only
    rw [Channel.takeReply_of_contents (by dsimp only at hfit; omega) hcontents]
    refine ⟨_, rfl, ?_⟩
    refine { hl with
      replies_sound := Ring.skip_sound_of_contents hl.replies_sound hcontents
      asking := ?asking }
    case asking =>
      dsimp only
      rw [Ring.skip_contents_of_contents hcontents]
      exact hnext

/-! Any move, and any moves -/

def Kept (ch : Channel) (e : Engine δ) (cs : List Command) (r : Relay δ) : Prop :=
  ∃ done queued, Linked ch e cs done queued r

theorem kept_accept {s : Relay δ} (hf : Fits ch e cs) (hk : Kept ch e cs r)
    (hm : r.accept = some s) : Kept ch e cs s := by
  obtain ⟨done, queued, hl⟩ := hk
  cases queued with
  | nil =>
    rw [hl.accept_of_empty] at hm
    cases hm
  | cons c rest =>
    have hp : r.phase = .idle := by
      rw [accept] at hm
      split at hm <;> first | assumption | cases hm
    obtain ⟨t, ht, hl⟩ := hl.accept_of_cons hf hp
    rw [hm] at ht
    cases ht
    exact ⟨_, _, hl⟩

theorem kept_post {s : Relay δ} (hf : Fits ch e cs) (hk : Kept ch e cs r)
    (hm : r.post = some s) : Kept ch e cs s := by
  obtain ⟨done, queued, hl⟩ := hk
  cases hp : r.phase with
  | replying h c reply =>
    obtain ⟨t, ht, hl⟩ := hl.post_of_replying hf hp
    rw [hm] at ht
    cases ht
    exact ⟨_, _, hl⟩
  | idle | finishing | ended =>
    rw [post, hp] at hm
    cases hm

theorem kept_finish {s : Relay δ} (hf : Fits ch e cs) (hk : Kept ch e cs r)
    (hm : r.finish = some s) : Kept ch e cs s := by
  obtain ⟨done, queued, hl⟩ := hk
  cases hp : r.phase with
  | finishing h c =>
    obtain ⟨t, rest, ht, hl⟩ := hl.finish_of_finishing hf hp
    rw [hm] at ht
    cases ht
    exact ⟨_, _, hl⟩
  | idle | replying | ended =>
    rw [finish, hp] at hm
    cases hm

theorem kept_issue {s : Relay δ} (hf : Fits ch e cs) (hk : Kept ch e cs r)
    (hm : r.issue = some s) : Kept ch e cs s := by
  obtain ⟨done, queued, hl⟩ := hk
  cases ha : r.awaiting with
  | some call =>
    rw [issue, ha] at hm
    cases hm
  | none =>
    cases ht : r.todo with
    | nil =>
      rw [issue, ha, ht] at hm
      cases hm
    | cons c todo =>
      by_cases hroom : (encodeCommand (tokenAfter (done.length + queued.length + 1)) c).length ≤
          r.dispatcher.channel.commands.free
      · obtain ⟨t, ht, hl⟩ := hl.issue_of_room hf ha ht hroom
        rw [hm] at ht
        cases ht
        exact ⟨_, _, hl⟩
      · rw [hl.issue_of_full hf ha ht hroom] at hm
        cases hm

theorem kept_collect {s : Relay δ} (hf : Fits ch e cs) (hk : Kept ch e cs r)
    (hm : r.collect = some s) : Kept ch e cs s := by
  obtain ⟨done, queued, hl⟩ := hk
  cases ha : r.awaiting with
  | none =>
    rw [collect, ha] at hm
    cases hm
  | some call =>
    obtain ⟨c, token⟩ := call
    by_cases hposted : r.dispatcher.channel.replies.contents = []
    · rw [collect_of_empty hposted] at hm
      cases hm
    · obtain ⟨t, ht, hl⟩ := hl.collect_of_posted hf ha hposted
      rw [hm] at ht
      cases ht
      exact ⟨_, _, hl⟩

theorem kept_move {s : Relay δ} (hf : Fits ch e cs) (hk : Kept ch e cs r) {m : Move}
    (hm : r.move m = some s) : Kept ch e cs s := by
  cases m with
  | issue => exact kept_issue hf hk hm
  | collect => exact kept_collect hf hk hm
  | accept => exact kept_accept hf hk hm
  | post => exact kept_post hf hk hm
  | finish => exact kept_finish hf hk hm
  | serve =>
    obtain ⟨t, ht, hm⟩ := Option.bind_eq_some_iff.mp hm
    obtain ⟨u, hu, hm⟩ := Option.bind_eq_some_iff.mp hm
    have hkt := kept_accept hf hk ht
    have hku : Kept ch e cs u := by
      split at hu
      · exact kept_post hf hkt hu
      · cases hu
        exact hkt
    split at hm
    · cases hm
      exact hku
    · exact kept_finish hf hku hm

theorem kept_run (hf : Fits ch e cs) (hk : Kept ch e cs r) {ms : List Move} {s : Relay δ}
    (hm : r.run ms = some s) : Kept ch e cs s := by
  induction ms generalizing r with
  | nil =>
    cases hm
    exact hk
  | cons m ms ih =>
    obtain ⟨t, ht, hm⟩ := Option.bind_eq_some_iff.mp hm
    exact ih (kept_move hf hk ht) hm

end Relay

end RenderRelay
