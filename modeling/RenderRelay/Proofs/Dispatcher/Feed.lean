import RenderRelay.Driver.Recorder
import RenderRelay.Proofs.Dispatcher.Cursor
import RenderRelay.Proofs.Engine.Counter
import RenderRelay.Proofs.Engine.Direct

/-!
# Feeds

A dispatcher is fed whole records, some of which do not decode. They are
written to its ring as there is room, its steps go on until a shutdown, and
its replies are taken in pieces. However these moves are interleaved, the
dispatcher carries out the commands in the records, in their order, and those
that do not decode leave a trace in the count of records alone.
-/

set_option autoImplicit false

namespace RenderRelay

open Wire

structure Feed (δ : Type) where
  dispatcher : Dispatcher δ
  /-- The records that are still to be written. -/
  todo : List Bytes
  /-- How many steps the dispatcher made. -/
  steps : Nat := 0
  /-- The bytes of replies that were taken. -/
  taken : Bytes := []
  halt : Option Halt := none

namespace Feed

variable {δ : Type}

def start (ch : Channel) (e : Engine δ) (rs : List Bytes) : Feed δ :=
  { dispatcher := ⟨ch, e⟩, todo := rs }

def push (f : Feed δ) : Option (Feed δ) :=
  match f.todo with
  | [] => none
  | record :: todo =>
    match f.dispatcher.channel.commands.push record with
    | .ready (.ok commands) =>
      some { f with
        dispatcher := { f.dispatcher with channel := { f.dispatcher.channel with commands } }
        todo }
    | _ => none

theorem push_eq_some {f g : Feed δ} (hm : f.push = some g) :
    ∃ record todo commands, f.todo = record :: todo ∧
      f.dispatcher.channel.commands.push record = .ready (.ok commands) ∧
      g = { f with
        dispatcher := { f.dispatcher with channel := { f.dispatcher.channel with commands } }
        todo } := by
  unfold push at hm
  split at hm
  · cases hm
  next record todo ht =>
  split at hm
  · next commands hp =>
    cases hm
    exact ⟨record, todo, commands, ht, hp, rfl⟩
  · cases hm

def collect (f : Feed δ) (n : Nat) : Option (Feed δ) :=
  let replies := f.dispatcher.channel.replies
  if 0 < n ∧ n ≤ replies.fill then
    some { f with
      dispatcher := { f.dispatcher with
        channel := { f.dispatcher.channel with replies := replies.skip n } }
      taken := f.taken ++ replies.peek n }
  else none

def haltAfter : Except DispatchError Outcome → Option Halt
  | .ok .goOn => none
  | .ok .shutdown => some .shutdown
  | .error e => some (.failed e)

variable [Driver δ]

def serve (f : Feed δ) : Option (Feed δ) :=
  match f.halt, f.dispatcher.step with
  | none, .ready (result, dispatcher) =>
    some { f with dispatcher, steps := f.steps + 1, halt := haltAfter result }
  | _, _ => none

inductive Move where
  | push
  | serve
  | collect (count : Nat)
  deriving DecidableEq, Repr

def move (f : Feed δ) : Move → Option (Feed δ)
  | .push => f.push
  | .serve => f.serve
  | .collect n => f.collect n

def run (f : Feed δ) : List Move → Option (Feed δ)
  | [] => some f
  | m :: ms => (f.move m).bind fun g => g.run ms

/-! Each move leaves something behind -/

theorem serve_eq_some {f g : Feed δ} (hm : f.serve = some g) :
    f.halt = none ∧ ∃ result dispatcher, f.dispatcher.step = .ready (result, dispatcher) ∧
      g = { f with dispatcher, steps := f.steps + 1, halt := haltAfter result } := by
  unfold serve at hm
  split at hm
  · next result dispatcher hh hs =>
    cases hm
    exact ⟨hh, result, dispatcher, hs, rfl⟩
  · cases hm

theorem length_run {f g : Feed δ} {ms : List Move} (hm : f.run ms = some g) :
    ms.length + g.todo.length + f.steps + f.taken.length ≤
      f.todo.length + g.steps + g.taken.length := by
  induction ms generalizing f with
  | nil =>
    cases hm
    simp
  | cons m ms ih =>
    obtain ⟨s, hs, hm⟩ := Option.bind_eq_some_iff.mp hm
    have hrest := ih hm
    have hone : 1 + s.todo.length + f.steps + f.taken.length ≤
        f.todo.length + s.steps + s.taken.length := by
      cases m with
      | push =>
        obtain ⟨record, todo, commands, ht, -, rfl⟩ := push_eq_some hs
        rw [ht, List.length_cons]
        dsimp only
        omega
      | serve =>
        obtain ⟨-, result, dispatcher, -, rfl⟩ := serve_eq_some hs
        dsimp only
        omega
      | collect n =>
        unfold move collect at hs
        dsimp only at hs
        split at hs
        · next hn =>
          cases hs
          dsimp only
          rw [List.length_append, Ring.length_peek]
          omega
        · cases hs
    rw [List.length_cons]
    omega

end Feed

/-! Records and commands -/

def Wire.commandsIn (rs : List Bytes) : List (UInt32 × Command) := rs.filterMap command?

theorem Wire.commandsIn_append (rs ss : List Bytes) :
    commandsIn (rs ++ ss) = commandsIn rs ++ commandsIn ss := List.filterMap_append ..

/-- The second list is the first without some of the records that do not decode. -/
inductive Wire.Prunes : List Bytes → List Bytes → Prop where
  | nil : Prunes [] []
  | keep (record : Bytes) {rs ss : List Bytes} (h : Prunes rs ss) :
    Prunes (record :: rs) (record :: ss)
  | drop {record : Bytes} {rs ss : List Bytes} (hr : command? record = none) (h : Prunes rs ss) :
    Prunes (record :: rs) ss

theorem Wire.Prunes.commandsIn_eq {rs ss : List Bytes} (h : Prunes rs ss) :
    commandsIn ss = commandsIn rs := by
  induction h with
  | nil => rfl
  | keep record h ih =>
    rw [← List.singleton_append, commandsIn_append, ih, ← commandsIn_append, List.singleton_append]
  | drop hr h ih =>
    rw [ih]
    exact (List.filterMap_cons_none hr).symm

theorem Wire.Prunes.subset {rs ss : List Bytes} (h : Prunes rs ss) : ∀ r ∈ ss, r ∈ rs := by
  induction h with
  | nil => exact fun r hr => hr
  | keep record h ih =>
    intro r hr
    rcases List.mem_cons.mp hr with rfl | hr
    · exact List.mem_cons_self
    · exact List.mem_cons_of_mem _ (ih r hr)
  | drop hr h ih => exact fun r hr => List.mem_cons_of_mem _ (ih r hr)

namespace Engine

variable {δ : Type} [Driver δ]

def afterAll (e : Engine δ) (cs : List (UInt32 × Command)) : Engine δ := e.after (cs.map Prod.snd)

def answers (e : Engine δ) : List (UInt32 × Command) → Bytes
  | [] => []
  | (t, c) :: cs => ((e.execute c).1.map (encodeReply t)).getD [] ++ (e.execute c).2.answers cs

theorem afterAll_append (e : Engine δ) (as bs : List (UInt32 × Command)) :
    e.afterAll (as ++ bs) = (e.afterAll as).afterAll bs := by
  rw [afterAll, List.map_append, after_append]
  rfl

theorem answers_append (e : Engine δ) (as bs : List (UInt32 × Command)) :
    e.answers (as ++ bs) = e.answers as ++ (e.afterAll as).answers bs := by
  induction as generalizing e with
  | nil => rfl
  | cons a as ih =>
    obtain ⟨t, c⟩ := a
    rw [List.cons_append, answers, answers, ih, List.append_assoc]
    rfl

end Engine

/-! What a feed has come to -/

namespace Feed

variable {δ : Type} [Driver δ] {ch : Channel} {e : Engine δ} {rs done queued : List Bytes}
  {f g : Feed δ}

/-- Rings to begin with, and records and replies that find room in them when they are empty. -/
structure Fits (ch : Channel) (e : Engine δ) (rs : List Bytes) : Prop where
  commands_sound : ch.commands.Sound
  commands_empty : ch.commands.contents = []
  replies_sound : ch.replies.Sound
  whole : ∀ r ∈ rs, Whole r ∧ r.length ≤ ch.commands.capacity
  reply : ∀ call ∈ e.calls (Command.untilShutdown ((commandsIn rs).map Prod.snd)),
    ∀ t, (encodeReply t call.2).length ≤ ch.replies.capacity

theorem Fits.prune {rs ss : List Bytes} (hf : Fits ch e rs) (hp : Prunes rs ss) :
    Fits ch e ss :=
  { hf with
    whole := fun r hr => hf.whole r (hp.subset r hr)
    reply := by
      rw [hp.commandsIn_eq]
      exact hf.reply }

inductive Standing : List Bytes → Option Halt → Prop where
  | going {done : List Bytes} (quiet : .shutdown ∉ (commandsIn done).map Prod.snd) :
    Standing done none
  | ended {front : List Bytes} {record : Bytes} {t : UInt32}
      (quiet : .shutdown ∉ (commandsIn front).map Prod.snd)
      (last : command? record = some (t, .shutdown)) :
    Standing (front ++ [record]) (some .shutdown)

/-- The records of `done` were handled, and those of `queued` are in the ring. -/
structure Fed (ch : Channel) (e : Engine δ) (rs done queued : List Bytes) (f : Feed δ) : Prop where
  split : rs = done ++ (queued ++ f.todo)
  steps_eq : f.steps = done.length
  commands_sound : f.dispatcher.channel.commands.Sound
  commands_capacity : f.dispatcher.channel.commands.capacity = ch.commands.capacity
  commands_eq : f.dispatcher.channel.commands.contents = queued.flatten
  replies_sound : f.dispatcher.channel.replies.Sound
  replies_capacity : f.dispatcher.channel.replies.capacity = ch.replies.capacity
  replies_eq : f.taken ++ f.dispatcher.channel.replies.contents =
    ch.replies.contents ++ e.answers (commandsIn done)
  last_eq : f.dispatcher.channel.commands.lastToken =
    (done.getLast?.bind tokenOf?).getD ch.commands.lastToken
  engine_eq : f.dispatcher.engine = (e.afterAll (commandsIn done)).noted done.length
  standing : Standing done f.halt

theorem start_fed (hf : Fits ch e rs) : Fed ch e rs [] [] (start ch e rs) where
  split := rfl
  steps_eq := rfl
  commands_sound := hf.commands_sound
  commands_capacity := rfl
  commands_eq := hf.commands_empty
  replies_sound := hf.replies_sound
  replies_capacity := rfl
  replies_eq := (List.append_nil _).symm
  last_eq := rfl
  engine_eq := rfl
  standing := .going List.not_mem_nil

theorem Fed.push_of_room (hd : Fed ch e rs done queued f) (hf : Fits ch e rs) {record : Bytes}
    {todo : List Bytes} (ht : f.todo = record :: todo)
    (hroom : record.length ≤ f.dispatcher.channel.commands.free) :
    ∃ g, f.push = some g ∧ Fed ch e rs done (queued ++ [record]) g := by
  have hmem : record ∈ rs := by rw [hd.split, ht]; simp
  have hpush : f.dispatcher.channel.commands.push record =
      .ready (.ok (f.dispatcher.channel.commands.append record)) := by
    rw [Ring.push_of_le (hd.commands_capacity ▸ (hf.whole record hmem).2), if_pos hroom]
  refine ⟨_, by rw [push, ht]; dsimp only; rw [hpush], ?_⟩
  refine { hd with
    split := ?split
    commands_sound := Ring.append_sound hd.commands_sound hroom
    commands_eq := ?commands_eq }
  case split =>
    rw [hd.split, ht]
    simp
  case commands_eq =>
    dsimp only
    rw [Ring.append_contents hd.commands_sound hroom, hd.commands_eq, List.flatten_append]
    simp

theorem Fed.push (hd : Fed ch e rs done queued f) (hf : Fits ch e rs) (hm : f.push = some g) :
    ∃ queued, Fed ch e rs done queued g := by
  obtain ⟨record, todo, commands, ht, hp, -⟩ := push_eq_some hm
  have hmem : record ∈ rs := by rw [hd.split, ht]; simp
  have hroom : record.length ≤ f.dispatcher.channel.commands.free := by
    rw [Ring.push_of_le (hd.commands_capacity ▸ (hf.whole record hmem).2)] at hp
    split at hp
    · assumption
    · cases hp
  obtain ⟨s, hs, hfed⟩ := hd.push_of_room hf ht hroom
  cases hs.symm.trans hm
  exact ⟨_, hfed⟩

theorem Fed.collect (hd : Fed ch e rs done queued f) {n : Nat} (hm : f.collect n = some g) :
    Fed ch e rs done queued g := by
  unfold Feed.collect at hm
  dsimp only at hm
  split at hm
  · next hn =>
    cases hm
    refine { hd with
      replies_sound := Ring.skip_sound hd.replies_sound hn.2
      replies_eq := ?replies_eq }
    case replies_eq =>
      dsimp only
      rw [List.append_assoc, Ring.peek_eq_take _ _ hn.2, Ring.skip_contents hn.2,
        List.take_append_drop]
      exact hd.replies_eq
  · cases hm

/-! One step -/

section

variable {record : Bytes} {rest : List Bytes} {h : Header} {d : Dispatcher δ}

theorem Fed.front (hd : Fed ch e rs done (record :: rest) f) (hf : Fits ch e rs) :
    ∃ h, Header.parse record = .ok h ∧ h.length = record.length ∧ f.dispatcher.At h ∧
      f.dispatcher.channel.commands.peek h.length = record := by
  have hmem : record ∈ rs := by rw [hd.split]; simp
  obtain ⟨hwhole, hfits⟩ := hf.whole record hmem
  obtain ⟨h, hp, hl⟩ := whole_iff.mp hwhole
  have hcontents := hd.commands_eq
  rw [List.flatten_cons] at hcontents
  refine ⟨h, hp, hl, ?_, ?_⟩
  · exact Dispatcher.at_of_contents hp hl (hd.commands_capacity ▸ hfits) hcontents
  · rw [hl]
    exact Ring.peek_of_contents hcontents

/-- The record in front is given back, after its command, if it has one, was carried out. -/
theorem Fed.giveBack (hd : Fed ch e rs done (record :: rest) f)
    (hp : Header.parse record = .ok h) (hl : h.length = record.length) {halt : Option Halt}
    (hcommands : d.channel.commands =
      (f.dispatcher.channel.commands.skip h.length).acknowledge h.token)
    (hsound : d.channel.replies.Sound)
    (hcapacity : d.channel.replies.capacity = ch.replies.capacity)
    (hreplies : d.channel.replies.contents = f.dispatcher.channel.replies.contents ++
      (e.afterAll (commandsIn done)).answers (commandsIn [record]))
    (hengine : d.engine =
      ((e.afterAll (commandsIn done)).afterAll (commandsIn [record])).noted (done.length + 1))
    (hstanding : Standing (done ++ [record]) halt) :
    Fed ch e rs (done ++ [record]) rest
      { f with dispatcher := d, steps := f.steps + 1, halt } := by
  have hcontents := hd.commands_eq
  rw [List.flatten_cons] at hcontents
  have hskip := Ring.skip_sound_of_contents hd.commands_sound hcontents
  have hlength : (done ++ [record]).length = done.length + 1 := by simp
  rw [hl] at hcommands
  constructor
  case split =>
    rw [hd.split]
    simp
  case steps_eq => rw [hlength, hd.steps_eq]
  case commands_sound =>
    rw [hcommands]
    exact ⟨hskip.capacity_pos, hskip.tail_lt, hskip.fill_le, hskip.head_eq⟩
  case commands_capacity =>
    rw [hcommands]
    exact hd.commands_capacity
  case commands_eq =>
    rw [hcommands]
    exact Ring.skip_contents_of_contents hcontents
  case replies_sound => exact hsound
  case replies_capacity => exact hcapacity
  case replies_eq =>
    dsimp only
    rw [hreplies, ← List.append_assoc, hd.replies_eq, commandsIn_append, e.answers_append,
      List.append_assoc]
  case last_eq =>
    dsimp only
    rw [hcommands, List.getLast?_concat, Option.bind_some, tokenOf?, hp]
    rfl
  case engine_eq => rw [commandsIn_append, e.afterAll_append, hlength, ← hengine]
  case standing => exact hstanding

theorem Standing.quiet (hs : Standing done none) : .shutdown ∉ (commandsIn done).map Prod.snd := by
  cases hs with
  | going quiet => exact quiet

/-- A record that does not decode is as good as none. -/
theorem Fed.skip (hd : Fed ch e rs done (record :: rest) f) (hf : Fits ch e rs)
    (hh : f.halt = none) (hc : command? record = none) :
    ∃ d, f.dispatcher.step = .ready (.ok .goOn, d) ∧ Fed ch e rs (done ++ [record]) rest
      { f with dispatcher := d, steps := f.steps + 1, halt := none } := by
  obtain ⟨h, hp, hl, ha, hpeek⟩ := hd.front hf
  obtain ⟨cause, hdecode⟩ := command?_eq_none.mp hc
  have hnone : commandsIn [record] = [] := List.filterMap_cons_none hc
  refine ⟨_, (Dispatcher.inStep _).skipped h ha cause (by rw [hpeek, hdecode]), ?_⟩
  refine hd.giveBack hp hl rfl hd.replies_sound hd.replies_capacity ?_ ?_ ?_
  · rw [hnone]
    exact (List.append_nil _).symm
  · have hnoted : (f.dispatcher.finish h).engine = f.dispatcher.engine.noted 1 := rfl
    rw [hnoted, hd.engine_eq, Engine.noted_noted, hnone]
    rfl
  · have hquiet := (hh ▸ hd.standing : Standing done none).quiet
    exact .going (by rwa [commandsIn_append, hnone, List.append_nil])

theorem Standing.concat (hs : Standing done none) {t : UInt32} {c : Command}
    (hc : command? record = some (t, c)) :
    Standing (done ++ [record]) (haltAfter (.ok (.ofCommand c))) := by
  by_cases hshut : c = .shutdown
  · subst hshut
    exact .ended hs.quiet hc
  · have hon : haltAfter (.ok (.ofCommand c)) = none := by
      cases c <;> first | rfl | exact absurd rfl hshut
    have hone : commandsIn [record] = [(t, c)] := List.filterMap_cons_some hc
    rw [hon]
    refine .going ?_
    rw [commandsIn_append, hone, List.map_append, List.mem_append]
    rintro (hm | hm)
    · exact hs.quiet hm
    · exact hshut (List.mem_singleton.mp hm).symm

/-- The reply to the next command finds room in the ring of replies. -/
theorem Fed.fits_reply (hd : Fed ch e rs done (record :: rest) f) (hf : Fits ch e rs)
    (hs : Standing done none) {t : UInt32} {c : Command} (hc : command? record = some (t, c))
    {reply : Reply} (hr : ((e.afterAll (commandsIn done)).execute c).1 = some reply) :
    (encodeReply t reply).length ≤ ch.replies.capacity := by
  have hin : commandsIn rs = commandsIn done ++ (t, c) :: commandsIn (rest ++ f.todo) := by
    rw [hd.split, commandsIn_append]
    exact congrArg _ (List.filterMap_cons_some hc)
  have hfront := Command.append_singleton_prefix hs.quiet c
    ((commandsIn (rest ++ f.todo)).map Prod.snd)
  have hcall : (c, reply) ∈ e.calls ((commandsIn done).map Prod.snd ++ [c]) := by
    rw [Engine.calls_append, Engine.calls_singleton]
    refine List.mem_append_right _ ?_
    rw [show (e.after ((commandsIn done).map Prod.snd)).execute c =
      (e.afterAll (commandsIn done)).execute c from rfl, hr]
    exact List.mem_singleton.mpr rfl
  refine hf.reply (c, reply) ?_ t
  rw [hin, List.map_append, List.map_cons]
  exact (e.calls_prefix hfront).subset hcall

/-- A command is carried out, unless its reply has to wait for the others to be taken. -/
theorem Fed.pass (hd : Fed ch e rs done (record :: rest) f) (hf : Fits ch e rs)
    (hh : f.halt = none) {t : UInt32} {c : Command} (hc : command? record = some (t, c)) :
    (f.dispatcher.step = .waits ∧ f.dispatcher.channel.replies.contents ≠ []) ∨
      ∃ d, f.dispatcher.step = .ready (.ok (.ofCommand c), d) ∧
        Fed ch e rs (done ++ [record]) rest { f with
          dispatcher := d, steps := f.steps + 1, halt := haltAfter (.ok (.ofCommand c)) } := by
  obtain ⟨h, hp, hl, ha, hpeek⟩ := hd.front hf
  obtain ⟨rfl, hdecode⟩ := command?_eq_some hp hc
  have hs : Standing done none := hh ▸ hd.standing
  have hone : commandsIn [record] = [(h.token, c)] := List.filterMap_cons_some hc
  have hexecute : f.dispatcher.engine.execute c =
      (((e.afterAll (commandsIn done)).execute c).1,
        ((e.afterAll (commandsIn done)).execute c).2.noted done.length) := by
    rw [hd.engine_eq, Engine.execute_noted]
  have hstep : f.dispatcher.step = f.dispatcher.handle h c := by
    rw [Dispatcher.step_of_at ha, hpeek, hdecode]
  have hengine : ∀ channel : Channel,
      (Dispatcher.finish ⟨channel, ((e.afterAll (commandsIn done)).execute c).2.noted done.length⟩
        h).engine = ((e.afterAll (commandsIn done)).afterAll
          (commandsIn [record])).noted (done.length + 1) := by
    intro channel
    rw [hone, ← Engine.noted_noted]
    rfl
  have hanswers : (e.afterAll (commandsIn done)).answers (commandsIn [record]) =
      (((e.afterAll (commandsIn done)).execute c).1.map (encodeReply h.token)).getD [] := by
    rw [hone]
    exact List.append_nil _
  rw [hstep, Dispatcher.handle, hexecute]
  dsimp only
  cases hr : ((e.afterAll (commandsIn done)).execute c).1 with
  | none =>
    refine .inr ⟨_, rfl, ?_⟩
    refine hd.giveBack hp hl rfl hd.replies_sound hd.replies_capacity ?_ (hengine _) (hs.concat hc)
    rw [hanswers, hr]
    exact (List.append_nil _).symm
  | some reply =>
    have hfit : (encodeReply h.token reply).length ≤ f.dispatcher.channel.replies.capacity :=
      hd.replies_capacity ▸ hd.fits_reply hf hs hc hr
    dsimp only
    rw [Channel.postReply_of_le hfit]
    split
    · next hroom =>
      refine .inr ⟨_, rfl, ?_⟩
      refine hd.giveBack hp hl rfl (Ring.append_sound hd.replies_sound hroom) hd.replies_capacity
        ?_ (hengine _) (hs.concat hc)
      rw [hanswers, hr]
      exact Ring.append_contents hd.replies_sound hroom
    · next hroom =>
      refine .inl ⟨rfl, fun hempty => hroom ?_⟩
      rw [Ring.free_of_empty hempty]
      exact hfit

/-- A step finds its record whole, and waits only for replies to be taken. -/
theorem Fed.step_of_cons (hd : Fed ch e rs done (record :: rest) f) (hf : Fits ch e rs)
    (hh : f.halt = none) :
    (f.dispatcher.step = .waits ∧ f.dispatcher.channel.replies.contents ≠ []) ∨
      ∃ outcome d, f.dispatcher.step = .ready (.ok outcome, d) ∧
        Fed ch e rs (done ++ [record]) rest { f with
          dispatcher := d, steps := f.steps + 1, halt := haltAfter (.ok outcome) } := by
  cases hc : command? record with
  | none =>
    obtain ⟨d, hs, hfed⟩ := hd.skip hf hh hc
    exact .inr ⟨.goOn, d, hs, hfed⟩
  | some p => exact (hd.pass hf hh hc).imp_right fun ⟨d, hs, hfed⟩ => ⟨_, d, hs, hfed⟩

end

theorem Fed.step_of_nil (hd : Fed ch e rs done [] f) : f.dispatcher.step = .waits := by
  rw [Dispatcher.step, Dispatcher.header_of_empty hd.commands_eq]

theorem untilShutdown_of_ended {front : List Bytes} {record : Bytes} {t : UInt32}
    (quiet : .shutdown ∉ (commandsIn front).map Prod.snd)
    (last : command? record = some (t, .shutdown)) (rest : List Command) :
    Command.untilShutdown ((commandsIn (front ++ [record])).map Prod.snd ++ rest) =
      (commandsIn (front ++ [record])).map Prod.snd := by
  have hone : commandsIn [record] = [(t, .shutdown)] := List.filterMap_cons_some last
  rw [commandsIn_append, hone, List.map_append]
  show Command.untilShutdown (_ ++ [.shutdown] ++ rest) = _
  rw [List.append_assoc]
  exact Command.untilShutdown_append_shutdown quiet rest

/-! Any moves -/

theorem Fed.serve (hd : Fed ch e rs done queued f) (hf : Fits ch e rs) (hm : f.serve = some g) :
    ∃ done queued, Fed ch e rs done queued g := by
  obtain ⟨hh, result, d, hs, rfl⟩ := serve_eq_some hm
  cases queued with
  | nil =>
    rw [hd.step_of_nil] at hs
    cases hs
  | cons record rest =>
    rcases hd.step_of_cons hf hh with ⟨hw, -⟩ | ⟨outcome, d', hs', hfed⟩
    · rw [hw] at hs
      cases hs
    · cases hs'.symm.trans hs
      exact ⟨_, _, hfed⟩

theorem Fed.run (hd : Fed ch e rs done queued f) (hf : Fits ch e rs) {ms : List Move}
    (hm : f.run ms = some g) : ∃ done queued, Fed ch e rs done queued g := by
  induction ms generalizing f done queued with
  | nil =>
    cases hm
    exact ⟨_, _, hd⟩
  | cons m ms ih =>
    obtain ⟨s, hs, hrest⟩ := Option.bind_eq_some_iff.mp hm
    cases m with
    | push =>
      obtain ⟨_, hfed⟩ := hd.push hf hs
      exact ih hfed hrest
    | serve =>
      obtain ⟨_, _, hfed⟩ := hd.serve hf hs
      exact ih hfed hrest
    | collect n => exact ih (hd.collect hs) hrest

/-! The statement -/

structure Served (ch : Channel) (e : Engine δ) (rs : List Bytes) (f : Feed δ) : Prop where
  /-- No record stops the dispatcher, unless it is a shutdown. -/
  unfailing : ∀ cause, f.halt ≠ some (.failed cause)
  passed : (commandsIn (rs.take f.steps)).map Prod.snd <+:
    Command.untilShutdown ((commandsIn rs).map Prod.snd)
  engine : f.dispatcher.engine = (e.afterAll (commandsIn (rs.take f.steps))).noted f.steps
  replies : f.taken ++ f.dispatcher.channel.replies.contents =
    ch.replies.contents ++ e.answers (commandsIn (rs.take f.steps))
  /-- Every record is acknowledged, also one that does not decode. -/
  lastToken : f.dispatcher.channel.commands.lastToken =
    ((rs.take f.steps).getLast?.bind tokenOf?).getD ch.commands.lastToken
  /-- If no move is left, every command was carried out and every reply was taken. -/
  complete : (∀ m, f.move m = none) →
    (commandsIn (rs.take f.steps)).map Prod.snd =
        Command.untilShutdown ((commandsIn rs).map Prod.snd) ∧
      f.dispatcher.channel.replies.contents = []

theorem Fed.take_steps (hd : Fed ch e rs done queued f) : rs.take f.steps = done := by
  rw [hd.steps_eq, hd.split, List.take_left]

omit [Driver δ] in
theorem replies_of_stuck (hs : ∀ n, f.collect n = none) :
    f.dispatcher.channel.replies.contents = [] := by
  apply List.eq_nil_of_length_eq_zero
  rw [Ring.length_contents]
  refine Decidable.byContradiction fun hfill => ?_
  have hone := hs 1
  unfold collect at hone
  dsimp only at hone
  rw [if_pos ⟨Nat.one_pos, Nat.one_le_iff_ne_zero.mpr hfill⟩] at hone
  cases hone

/-- A dispatcher that goes on is stuck only when all records were handled. -/
theorem Fed.done_of_stuck (hd : Fed ch e rs done queued f) (hf : Fits ch e rs)
    (hh : f.halt = none) (hs : ∀ m, f.move m = none) : done = rs := by
  have hreplies := replies_of_stuck fun n => hs (.collect n)
  cases queued with
  | cons record rest =>
    rcases hd.step_of_cons hf hh with ⟨-, hne⟩ | ⟨outcome, d, hstep, -⟩
    · exact absurd hreplies hne
    · have hserve : f.serve = none := hs .serve
      rw [Feed.serve, hh, hstep] at hserve
      cases hserve
  | nil =>
    cases ht : f.todo with
    | nil => rw [hd.split, ht, List.append_nil, List.append_nil]
    | cons record todo =>
      have hmem : record ∈ rs := by rw [hd.split, ht]; simp
      have hroom : record.length ≤ f.dispatcher.channel.commands.free := by
        rw [Ring.free_of_empty hd.commands_eq, hd.commands_capacity]
        exact (hf.whole record hmem).2
      obtain ⟨g, hpush, -⟩ := hd.push_of_room hf ht hroom
      exact absurd (hpush.symm.trans (hs .push)) (Option.some_ne_none g)

theorem Fed.served (hd : Fed ch e rs done queued f) (hf : Fits ch e rs) : Served ch e rs f := by
  have htake := hd.take_steps
  have hstanding := hd.standing
  have hin : (commandsIn rs).map Prod.snd =
      (commandsIn done).map Prod.snd ++ (commandsIn (queued ++ f.todo)).map Prod.snd := by
    rw [hd.split, commandsIn_append, List.map_append]
  constructor
  case unfailing =>
    intro cause hc
    rw [hc] at hstanding
    cases hstanding
  case passed =>
    rw [htake, hin]
    generalize f.halt = halt at hstanding
    cases hstanding with
    | going quiet =>
      rw [Command.untilShutdown_append quiet]
      exact List.prefix_append ..
    | ended quiet last => rw [untilShutdown_of_ended quiet last]
  case engine =>
    rw [htake, hd.steps_eq]
    exact hd.engine_eq
  case replies =>
    rw [htake]
    exact hd.replies_eq
  case lastToken =>
    rw [htake]
    exact hd.last_eq
  case complete =>
    intro hs
    refine ⟨?_, replies_of_stuck fun n => hs (.collect n)⟩
    rw [htake]
    cases hh : f.halt with
    | none =>
      rw [hh] at hstanding
      rw [hd.done_of_stuck hf hh hs] at hstanding ⊢
      exact (Command.untilShutdown_of_not_mem hstanding.quiet).symm
    | some halt =>
      rw [hh] at hstanding
      rw [hin]
      cases hstanding with
      | ended quiet last => rw [untilShutdown_of_ended quiet last]

structure Alike (f g : Feed δ) : Prop where
  engine : ∃ e : Engine δ,
    f.dispatcher.engine = e.noted f.steps ∧ g.dispatcher.engine = e.noted g.steps
  replies : f.taken ++ f.dispatcher.channel.replies.contents =
    g.taken ++ g.dispatcher.channel.replies.contents

/-- Where the same commands were carried out, nothing else counts. -/
theorem Served.alike {ss : List Bytes} (hf : Served ch e rs f) (hg : Served ch e ss g)
    (hc : commandsIn (rs.take f.steps) = commandsIn (ss.take g.steps)) : Alike f g where
  engine := ⟨_, hf.engine, hc ▸ hg.engine⟩
  replies := by rw [hf.replies, hg.replies, hc]

/-- Of the same commands as many are carried out, if as many are due. -/
theorem commandsIn_take_eq {ss : List Bytes} (hc : commandsIn ss = commandsIn rs) {m n : Nat}
    (hl : (commandsIn (rs.take m)).map Prod.snd = (commandsIn (ss.take n)).map Prod.snd) :
    commandsIn (rs.take m) = commandsIn (ss.take n) := by
  have hfront : ∀ (ts : List Bytes) (k : Nat), commandsIn (ts.take k) <+: commandsIn ts :=
    fun ts k => (List.take_prefix k ts).filterMap command?
  have hlength := congrArg List.length hl
  rw [List.length_map, List.length_map] at hlength
  exact (List.prefix_of_prefix_length_le (hfront rs m) (hc ▸ hfront ss n) hlength.le).eq_of_length
    hlength

/-- Whatever is in the ring, a step keeps to the records. So if some records of a list do
not decode, the dispatcher does what it does without them: after any moves the engine is
that of the commands that were carried out, with the steps counted, and the replies are
the replies to these. There are no more moves than the records allow, and if none is left
for either list the engines, but for the counts, and the replies are the same. -/
theorem run_undisturbed :
    (∀ d : Dispatcher δ, d.InStep) ∧
      ∀ {ch : Channel} {e : Engine δ} {rs ss : List Bytes}, Fits ch e rs → Prunes rs ss →
        ∀ {ms ms' : List Move} {f g : Feed δ}, (start ch e rs).run ms = some f →
          (start ch e ss).run ms' = some g →
            Served ch e rs f ∧ Served ch e ss g ∧
            ms.length ≤ 2 * rs.length + f.taken.length ∧
            (commandsIn (rs.take f.steps) = commandsIn (ss.take g.steps) → Alike f g) ∧
            ((∀ m, f.move m = none) → (∀ m, g.move m = none) → Alike f g ∧ f.taken = g.taken) := by
  refine ⟨Dispatcher.inStep, ?_⟩
  intro ch e rs ss hf hp ms ms' f g hm hm'
  obtain ⟨done, queued, hfed⟩ := (start_fed hf).run hf hm
  obtain ⟨done', queued', hfed'⟩ := (start_fed (hf.prune hp)).run (hf.prune hp) hm'
  have hserved := hfed.served hf
  have hserved' := hfed'.served (hf.prune hp)
  refine ⟨hserved, hserved', ?_, hserved.alike hserved', fun hs hs' => ?_⟩
  · have hlength := length_run hm
    have hsteps : f.steps ≤ rs.length := by
      rw [hfed.steps_eq, hfed.split, List.length_append]
      exact Nat.le_add_right ..
    have hstart : (start ch e rs).todo = rs ∧ (start ch e rs).steps = 0 ∧
        (start ch e rs).taken = [] := ⟨rfl, rfl, rfl⟩
    rw [hstart.1, hstart.2.1, hstart.2.2, List.length_nil] at hlength
    omega
  · obtain ⟨hall, hreplies⟩ := hserved.complete hs
    obtain ⟨hall', hreplies'⟩ := hserved'.complete hs'
    rw [hp.commandsIn_eq, ← hall] at hall'
    have halike := hserved.alike hserved' (commandsIn_take_eq hp.commandsIn_eq hall'.symm)
    refine ⟨halike, ?_⟩
    have htaken := halike.replies
    rwa [hreplies, hreplies', List.append_nil, List.append_nil] at htaken

theorem stuck_of_ended {cause : Halt} (ht : f.todo = []) (hh : f.halt = some cause)
    (hr : f.dispatcher.channel.replies.fill = 0) (m : Move) : f.move m = none := by
  cases m with
  | push =>
    show f.push = none
    rw [Feed.push, ht]
  | serve =>
    show f.serve = none
    rw [Feed.serve, hh]
  | collect n =>
    show f.collect n = none
    rw [Feed.collect, hr]
    exact if_neg (by omega)

/-! A list with a record that was overwritten -/

namespace Garbled

def ring (id : Nat) : Ring := ⟨id, 64, {}, 56, 56, 0, Ring.noToken, .busyPoll, 100⟩

def channel : Channel := ⟨ring 0, ring 1, Ring.noToken⟩

def engine (names : NameTable) : Engine Recorder := { server := { driver := {}, names } }

def record : Bytes := overwrite (encodeCommand 2 (.clearStencil 9)) 0 [0xFF, 0xFF, 0xFF, 0xFF]

def records : List Bytes :=
  [encodeCommand 1 (.clearStencil 3), record, encodeCommand 3 (.getDisplay ⟨4⟩),
    encodeCommand 4 .shutdown, encodeCommand 5 .nop]

def others : List Bytes :=
  [encodeCommand 1 (.clearStencil 3), encodeCommand 3 (.getDisplay ⟨4⟩),
    encodeCommand 4 .shutdown, encodeCommand 5 .nop]

theorem prunes : Prunes records others :=
  .keep _ (.drop (by decide +kernel) (.keep _ (.keep _ (.keep _ .nil))))

theorem fits : Fits channel (engine {}) records := by
  constructor
  case commands_sound => exact ⟨by decide, by decide, by decide, by decide⟩
  case commands_empty => rfl
  case replies_sound => exact ⟨by decide, by decide, by decide, by decide⟩
  case whole => decide +kernel
  case reply =>
    have hcalls : (engine {}).calls (Command.untilShutdown ((commandsIn records).map Prod.snd)) =
        [(.getDisplay ⟨4⟩, .display ⟨5⟩)] := by
      decide +kernel
    rw [hcalls]
    intro call hm t
    rw [length_encodeReply t 0]
    revert call
    decide

end Garbled

/-- The reply is taken in two pieces, and what follows the shutdown stays in the ring. -/
theorem run_undisturbed_of_garbled :
    ∃ f g : Feed Recorder,
      (start Garbled.channel (Garbled.engine {}) Garbled.records).run
          [.push, .push, .serve, .push, .serve, .serve, .collect 5, .push, .serve, .push,
            .collect 15] = some f ∧
        (start Garbled.channel (Garbled.engine {}) Garbled.others).run
          [.push, .push, .push, .push, .serve, .serve, .serve, .collect 20] = some g ∧
        f.steps = 4 ∧ g.steps = 3 ∧ f.taken = encodeReply 3 (.display ⟨5⟩) ∧
        Alike f g ∧ f.taken = g.taken := by
  have hf : ((start Garbled.channel (Garbled.engine {}) Garbled.records).run
      [.push, .push, .serve, .push, .serve, .serve, .collect 5, .push, .serve, .push,
        .collect 15]).map (fun f => (f.steps, f.todo, f.halt, f.dispatcher.channel.replies.fill,
          f.taken)) = some (4, [], some .shutdown, 0, encodeReply 3 (.display ⟨5⟩)) := by
    decide +kernel
  have hg : ((start Garbled.channel (Garbled.engine {}) Garbled.others).run
      [.push, .push, .push, .push, .serve, .serve, .serve, .collect 20]).map
        (fun f => (f.steps, f.todo, f.halt, f.dispatcher.channel.replies.fill)) =
          some (3, [], some .shutdown, 0) := by
    decide +kernel
  obtain ⟨f, hm, hfacts⟩ := Option.map_eq_some_iff.mp hf
  obtain ⟨g, hm', hfacts'⟩ := Option.map_eq_some_iff.mp hg
  simp only [Prod.mk.injEq] at hfacts hfacts'
  obtain ⟨hsteps, htodo, hhalt, hfill, htaken⟩ := hfacts
  obtain ⟨hsteps', htodo', hhalt', hfill'⟩ := hfacts'
  obtain ⟨-, -, -, -, hboth⟩ := run_undisturbed.2 Garbled.fits Garbled.prunes hm hm'
  obtain ⟨halike, hsame⟩ := hboth (stuck_of_ended htodo hhalt hfill)
    (stuck_of_ended htodo' hhalt' hfill')
  exact ⟨f, g, hm, hm', hsteps, hsteps', htaken, halike, hsame⟩

end Feed

end RenderRelay
