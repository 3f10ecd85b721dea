import RenderRelay.Driver.Recorder
import RenderRelay.Proofs.Channel.Tokens
import RenderRelay.Proofs.Dispatcher.Following

/-!
# Waiting for a token

A client that sends whatever it likes and takes its replies whenever it likes,
and a dispatcher that goes on move by move and is set going again when it came
to an end. Every command that was sent is numbered by the tokens that were
given out up to it, those of refused commands among them. As long as no more
tokens are out than can be told apart, the wait for a token ends once its
record was handled, and not before.
-/

set_option autoImplicit false

namespace RenderRelay

open Wire

/-- A command goes into the ring behind the others or is refused, and takes a token either
way, or it has to wait. -/
theorem Channel.send_cases (ch : Channel) (c : Command) :
    let token := nextToken ch.issued
    let record := encodeCommand token c
    (record.length ≤ ch.commands.capacity ∧ record.length ≤ ch.commands.free ∧
      ch.send c = .ready (.ok token,
        { ch with commands := ch.commands.append record, issued := token })) ∨
    (ch.commands.capacity < record.length ∧
      ch.send c = .ready (.error (.tooLarge record.length ch.commands.capacity),
        { ch with issued := token })) ∨
    ch.send c = .waits := by
  intro token record
  by_cases hl : record.length ≤ ch.commands.capacity
  · have hsend := send_of_le hl
    by_cases hroom : record.length ≤ ch.commands.free
    · exact .inl ⟨hl, hroom, hsend.trans (if_pos hroom)⟩
    · exact .inr (.inr (hsend.trans (if_neg hroom)))
  · have hpush : ch.commands.push record = .ready (.error .tooLarge) := if_pos (by omega)
    refine .inr (.inl ⟨by omega, ?_⟩)
    simp only [send, token, record, hpush]

structure Traffic.Sent where
  /-- How many tokens were given out up to the one of this command. -/
  number : Nat
  token : UInt32
  command : Command
  deriving DecidableEq, Repr

structure Traffic (δ : Type) where
  /-- The channel, and how far the dispatcher is. -/
  session : Session δ
  /-- How many tokens were given out. -/
  allocated : Nat := 0
  sent : List Traffic.Sent := []
  /-- What the engine carried out. -/
  carried : List Command := []
  /-- How many records were handled and given back. -/
  handled : Nat := 0
  /-- How many of these were acknowledged. -/
  acknowledged : Nat := 0

namespace Traffic

variable {δ : Type}

def Sent.record (x : Sent) : Bytes := encodeCommand x.token x.command

def start (ch : Channel) (e : Engine δ) : Traffic δ := { session := .start ch e }

def channel (s : Traffic δ) : Channel := s.session.dispatcher.channel

def withChannel (s : Traffic δ) (channel : Channel) : Traffic δ :=
  { s with session := s.session.withChannel channel }

def numbers (s : Traffic δ) : List Nat := 0 :: s.sent.map Sent.number

def reached (s : Traffic δ) : Nat := s.numbers.getD s.acknowledged 0

/-! The moves -/

def send (s : Traffic δ) (c : Command) : Option (Traffic δ) :=
  match s.channel.send c with
  | .ready (.ok token, channel) =>
    some { s.withChannel channel with
      allocated := s.allocated + 1
      sent := s.sent ++ [⟨s.allocated + 1, token, c⟩] }
  | .ready (.error _, channel) =>
    some { s.withChannel channel with allocated := s.allocated + 1 }
  | _ => none

def collect (s : Traffic δ) (token : UInt32) : Option (Traffic δ) :=
  match s.channel.takeReply token with
  | .ready (_, channel) => some (s.withChannel channel)
  | _ => none

def resume (s : Traffic δ) : Option (Traffic δ) :=
  if s.session.stage.isEnded then some { s with session := { s.session with stage := .idle } }
  else none

variable [Driver δ]

def serve (s : Traffic δ) : Option (Traffic δ) :=
  s.session.advance.map fun session =>
    match s.session.stage with
    | .reading h =>
      { s with
        session
        carried := s.carried ++
          ((command? (s.channel.commands.peek h.length)).map Prod.snd).toList }
    | .finishing _ _ => { s with session, handled := s.handled + 1 }
    | .released _ _ => { s with session, acknowledged := s.acknowledged + 1 }
    | _ => { s with session }

inductive Move where
  | send (command : Command)
  | collect (token : UInt32)
  | serve
  | resume
  deriving DecidableEq, Repr

def move (s : Traffic δ) : Move → Option (Traffic δ)
  | .send c => s.send c
  | .collect token => s.collect token
  | .serve => s.serve
  | .resume => s.resume

def run (s : Traffic δ) : List Move → Option (Traffic δ)
  | [] => some s
  | m :: ms => (s.move m).bind (·.run ms)

/-! ## What is in hand -/

section InHand

variable {sent : List Sent} {carried : List Command} {handled acknowledged : Nat} {p : Stage}

/-- How the counts stand to each other and what the dispatcher has of the first record that
was not given back, or of the last one that was. -/
def InHand (sent : List Sent) (carried : List Command) (handled acknowledged : Nat) :
    Stage → Prop
  | .idle | .ended _ => acknowledged = handled
  | .reading h =>
    acknowledged = handled ∧ ∃ x, sent[handled]? = some x ∧ h = commandHeader x.token x.command
  | .replying h _ _ | .finishing h _ =>
    acknowledged = handled ∧ (∃ x, sent[handled]? = some x ∧ h = commandHeader x.token x.command) ∧
      ((sent.take (handled + 1)).map Sent.command).Sublist carried
  | .released token _ =>
    handled = acknowledged + 1 ∧ ∃ x, sent[acknowledged]? = some x ∧ token = x.token

theorem InHand.acknowledged_le (h : InHand sent carried handled acknowledged p) :
    acknowledged ≤ handled ∧ handled ≤ acknowledged + 1 := by
  cases p <;> simp only [InHand] at h <;> omega

theorem InHand.append (h : InHand sent carried handled acknowledged p) (more : List Sent) :
    InHand (sent ++ more) carried handled acknowledged p := by
  have hfront : ∀ {k : Nat} {x : Sent}, sent[k]? = some x → (sent ++ more)[k]? = some x := by
    intro k x hx
    obtain ⟨hk, -⟩ := List.getElem?_eq_some_iff.mp hx
    rw [List.getElem?_append_left hk, hx]
  cases p with
  | idle | ended => exact h
  | reading =>
    obtain ⟨hcount, x, hx, hh⟩ := h
    exact ⟨hcount, x, hfront hx, hh⟩
  | replying | finishing =>
    obtain ⟨hcount, ⟨x, hx, hh⟩, hcarried⟩ := h
    obtain ⟨hk, -⟩ := List.getElem?_eq_some_iff.mp hx
    refine ⟨hcount, ⟨x, hfront hx, hh⟩, ?_⟩
    rwa [List.take_append_of_le_length hk]
  | released =>
    obtain ⟨hcount, x, hx, ht⟩ := h
    exact ⟨hcount, x, hfront hx, ht⟩

end InHand

variable {ch : Channel} {e : Engine δ} {s t u : Traffic δ} {c : Command}

structure Kept (s : Traffic δ) : Prop where
  sound : s.channel.commands.Sound
  small : s.channel.commands.capacity < UInt32.size
  page : Ring.pageSize ≤ s.channel.commands.capacity
  contents : s.channel.commands.contents = ((s.sent.drop s.handled).map Sent.record).flatten
  fits : ∀ x ∈ s.sent, x.record.length ≤ s.channel.commands.capacity
  issued : s.channel.issued = tokenAfter s.allocated
  token : ∀ x ∈ s.sent, x.token = tokenAfter x.number
  ordered : (s.numbers ++ [s.allocated + 1]).Pairwise (· < ·)
  last : s.channel.commands.lastToken = tokenAfter s.reached
  handled_le : s.handled ≤ s.sent.length
  carried : ((s.sent.take s.handled).map Sent.command).Sublist s.carried
  hand : InHand s.sent s.carried s.handled s.acknowledged s.session.stage

omit [Driver δ] in
theorem start_kept {settings : Ring.Settings} {usable : String → Bool}
    (hch : Channel.create settings usable = .ok ch) (e : Engine δ) : Kept (start ch e) := by
  obtain ⟨hc, -, hissued⟩ := Channel.create_eq hch
  obtain ⟨hlt, hring⟩ := Ring.create_eq hc
  have hsize : UInt32.size = 4294967296 := rfl
  have hcapacity : ch.commands.capacity = Ring.roundToPage settings.capacity := by rw [hring]
  refine {
    sound := Ring.create_sound hc
    small := ?small
    page := ?page
    contents := Ring.create_contents hc
    fits := fun x hx => absurd hx List.not_mem_nil
    issued := hissued
    token := fun x hx => absurd hx List.not_mem_nil
    ordered := show ([0, 1] : List Nat).Pairwise (· < ·) by decide
    last := ?last
    handled_le := Nat.le_refl 0
    carried := List.Sublist.refl []
    hand := rfl }
  case small =>
    show ch.commands.capacity < _
    omega
  case page =>
    show _ ≤ ch.commands.capacity
    rw [hcapacity, Ring.roundToPage, Ring.pageSize]
    omega
  case last =>
    show ch.commands.lastToken = _
    rw [hring]
    rfl

/-! ### Numbers -/

namespace Kept

omit [Driver δ]

theorem numbers_lt (hk : Kept s) {a b : Nat} {x y : Nat} (hx : s.numbers[a]? = some x)
    (hy : s.numbers[b]? = some y) (hab : a < b) : x < y := by
  obtain ⟨ha, rfl⟩ := List.getElem?_eq_some_iff.mp hx
  obtain ⟨hb, rfl⟩ := List.getElem?_eq_some_iff.mp hy
  exact List.pairwise_iff_getElem.mp (List.pairwise_append.mp hk.ordered).1 a b ha hb hab

theorem number_le (hk : Kept s) {a x : Nat} (hx : s.numbers[a]? = some x) : x ≤ s.allocated := by
  have hlt := (List.pairwise_append.mp hk.ordered).2.2 x (List.mem_of_getElem? hx)
    (s.allocated + 1) (List.mem_singleton_self _)
  omega

theorem acknowledged_le (hk : Kept s) : s.acknowledged ≤ s.handled ∧ s.handled ≤ s.sent.length :=
  ⟨hk.hand.acknowledged_le.1, hk.handled_le⟩

theorem reached_eq (hk : Kept s) : s.numbers[s.acknowledged]? = some s.reached := by
  have hle := hk.acknowledged_le
  have hlt : s.acknowledged < s.numbers.length := by
    rw [numbers, List.length_cons, List.length_map]
    omega
  rw [reached, List.getD_eq_getElem?_getD, List.getElem?_eq_getElem hlt, Option.getD_some]

theorem number_eq {k : Nat} {x : Sent} (hx : s.sent[k]? = some x) :
    s.numbers[k + 1]? = some x.number := by
  rw [numbers, List.getElem?_cons_succ, List.getElem?_map, hx, Option.map_some]

/-- A command is acknowledged if its number is at most that of the last one that was. -/
theorem number_le_reached_iff (hk : Kept s) {k : Nat} {x : Sent} (hx : s.sent[k]? = some x) :
    x.number ≤ s.reached ↔ k < s.acknowledged := by
  have hnumber := number_eq hx
  have hreached := hk.reached_eq
  rcases Nat.lt_trichotomy (k + 1) s.acknowledged with h | h | h
  · have := hk.numbers_lt hnumber hreached h
    omega
  · rw [h, hreached] at hnumber
    have := Option.some.inj hnumber
    omega
  · have := hk.numbers_lt hreached hnumber h
    omega

theorem number_pos (hk : Kept s) {k : Nat} {x : Sent} (hx : s.sent[k]? = some x) :
    1 ≤ x.number :=
  hk.numbers_lt (a := 0) rfl (number_eq hx) (Nat.succ_pos k)

end Kept

/-! ### The client's moves -/

section Queue

omit [Driver δ]

def queue (s : Traffic δ) (c : Command) : Traffic δ :=
  let token := nextToken s.channel.issued
  { s.withChannel { s.channel with
      commands := s.channel.commands.append (encodeCommand token c), issued := token } with
    allocated := s.allocated + 1, sent := s.sent ++ [⟨s.allocated + 1, token, c⟩] }

def skip (s : Traffic δ) : Traffic δ :=
  { s.withChannel { s.channel with issued := nextToken s.channel.issued } with
    allocated := s.allocated + 1 }

theorem send_eq_some (hm : s.send c = some t) :
    let record := encodeCommand (nextToken s.channel.issued) c
    (record.length ≤ s.channel.commands.capacity ∧ record.length ≤ s.channel.commands.free ∧
      t = s.queue c) ∨
    (s.channel.commands.capacity < record.length ∧ t = s.skip) := by
  unfold send at hm
  rcases s.channel.send_cases c with ⟨hl, hroom, hsend⟩ | ⟨hl, hsend⟩ | hsend
  · rw [hsend] at hm
    exact .inl ⟨hl, hroom, (Option.some.inj hm).symm⟩
  · rw [hsend] at hm
    exact .inr ⟨hl, (Option.some.inj hm).symm⟩
  · rw [hsend] at hm
    cases hm

theorem numbers_queue (s : Traffic δ) (c : Command) :
    (s.queue c).numbers = s.numbers ++ [s.allocated + 1] := by
  simp [queue, withChannel, numbers]

end Queue

namespace Kept

omit [Driver δ]

theorem ordered_succ (hk : Kept s) :
    (s.numbers ++ [s.allocated + 1] ++ [s.allocated + 1 + 1]).Pairwise (· < ·) := by
  refine List.pairwise_append.mpr ⟨hk.ordered, List.pairwise_singleton .., ?_⟩
  intro a ha b hb
  rw [List.mem_singleton.mp hb]
  rcases List.mem_append.mp ha with ha | ha
  · obtain ⟨i, hi⟩ := List.mem_iff_getElem?.mp ha
    have := hk.number_le hi
    omega
  · rw [List.mem_singleton.mp ha]
    omega

theorem issued_succ (hk : Kept s) : nextToken s.channel.issued = tokenAfter (s.allocated + 1) := by
  rw [hk.issued, tokenAfter_succ]

theorem reached_queue (hk : Kept s) (c : Command) : (s.queue c).reached = s.reached := by
  have hle := hk.acknowledged_le
  have hlt : s.acknowledged < s.numbers.length := by
    rw [numbers, List.length_cons, List.length_map]
    omega
  show (s.queue c).numbers.getD s.acknowledged 0 = _
  rw [numbers_queue, List.getD_eq_getElem?_getD, List.getElem?_append_left hlt, hk.reached_eq]
  rfl

theorem queue (hk : Kept s)
    (hl : (encodeCommand (nextToken s.channel.issued) c).length ≤ s.channel.commands.capacity)
    (hroom : (encodeCommand (nextToken s.channel.issued) c).length ≤ s.channel.commands.free) :
    Kept (s.queue c) where
  sound := Ring.append_sound hk.sound hroom
  small := hk.small
  page := hk.page
  contents := by
    refine (Ring.append_contents hk.sound hroom).trans ?_
    show _ = (((s.sent ++ [_]).drop s.handled).map Sent.record).flatten
    rw [List.drop_append_of_le_length hk.handled_le, List.map_append, List.flatten_append,
      ← hk.contents, List.map_singleton, List.flatten_singleton]
    rfl
  fits := List.forall_mem_append.mpr ⟨hk.fits, List.forall_mem_singleton.mpr hl⟩
  issued := hk.issued_succ
  token := List.forall_mem_append.mpr ⟨hk.token, List.forall_mem_singleton.mpr hk.issued_succ⟩
  ordered := by
    rw [numbers_queue]
    exact hk.ordered_succ
  last := by
    rw [hk.reached_queue]
    exact hk.last
  handled_le := by
    refine hk.handled_le.trans ?_
    show _ ≤ (s.sent ++ [_]).length
    rw [List.length_append]
    omega
  carried := by
    show (((s.sent ++ [_]).take s.handled).map Sent.command).Sublist s.carried
    rw [List.take_append_of_le_length hk.handled_le]
    exact hk.carried
  hand := hk.hand.append _

theorem skip (hk : Kept s) : Kept s.skip :=
  { hk with
    issued := hk.issued_succ
    ordered := by
      have hordered := hk.ordered_succ
      rw [List.append_assoc] at hordered
      exact hordered.sublist ((List.sublist_cons_self _ _).append_left _) }

theorem send (hk : Kept s) (hm : s.send c = some t) : Kept t := by
  rcases send_eq_some hm with ⟨hl, hroom, rfl⟩ | ⟨-, rfl⟩
  · exact hk.queue hl hroom
  · exact hk.skip

theorem collect {token : UInt32} (hk : Kept s) (hm : s.collect token = some t) : Kept t := by
  have hreplies : ∀ {result : Except TransportError Reply} {channel : Channel},
      s.channel.takeReply token = .ready (result, channel) →
        channel = { s.channel with replies := channel.replies } := by
    intro result channel hc
    unfold Channel.takeReply at hc
    obtain ⟨taken, -, htaken⟩ := Attempt.map_eq_ready hc
    rw [← (Prod.mk.inj htaken).2]
  unfold Traffic.collect at hm
  cases hc : s.channel.takeReply token with
  | absent | waits =>
    rw [hc] at hm
    cases hm
  | ready taken =>
    obtain ⟨result, channel⟩ := taken
    rw [hc] at hm
    cases hm
    rw [hreplies hc]
    exact { hk with }

theorem resume (hk : Kept s) (hm : s.resume = some t) : Kept t := by
  unfold Traffic.resume at hm
  have hhand := hk.hand
  cases hs : s.session.stage with
  | ended =>
    rw [hs] at hm hhand
    cases hm
    exact { hk with hand := hhand }
  | idle | reading | replying | finishing | released =>
    rw [hs] at hm
    cases hm

/-! ### The dispatcher's moves -/

theorem contents_front (hk : Kept s) {x : Sent} (hx : s.sent[s.handled]? = some x) :
    s.channel.commands.contents =
      x.record ++ ((s.sent.drop (s.handled + 1)).map Sent.record).flatten := by
  obtain ⟨hlt, hx⟩ := List.getElem?_eq_some_iff.mp hx
  rw [hk.contents, List.drop_eq_getElem_cons hlt, hx, List.map_cons, List.flatten_cons]

theorem front_lt (hk : Kept s) {x : Sent} (hx : s.sent[s.handled]? = some x) :
    x.record.length ≤ s.channel.commands.capacity ∧ x.record.length < UInt32.size := by
  have hle := hk.fits x (List.mem_of_getElem? hx)
  have hsmall := hk.small
  exact ⟨hle, by omega⟩

theorem length_front (hk : Kept s) {x : Sent} (hx : s.sent[s.handled]? = some x) :
    (commandHeader x.token x.command).length = x.record.length :=
  length_headerOf (hk.front_lt hx).2

theorem sight_front (hk : Kept s) {x : Sent} (hx : s.sent[s.handled]? = some x) :
    s.channel.commands.sight = .ready (.ok (commandHeader x.token x.command)) :=
  Ring.sight_of_contents (parse_encodeCommand (hk.front_lt hx).2) (hk.length_front hx)
    (hk.contents_front hx)

theorem decode_front (hk : Kept s) {x : Sent} (hx : s.sent[s.handled]? = some x) :
    decodeCommand (s.channel.commands.peek (commandHeader x.token x.command).length) =
      .ok (commandHeader x.token x.command, x.command) :=
  Dispatcher.decode_of_contents (d := s.session.dispatcher) (hk.front_lt hx).2
    (hk.contents_front hx)

end Kept

/-- A header is seen: it is that of the first record that was not given back. -/
theorem Kept.serve_idle (hk : Kept s) (hs : s.session.stage = .idle) (hm : s.serve = some t) :
    Kept t := by
  have hhand := hk.hand
  unfold serve Session.advance at hm
  rw [hs] at hm hhand
  dsimp only at hm
  cases hx : s.sent[s.handled]? with
  | none =>
    have hempty : s.channel.commands.contents = [] := by
      rw [hk.contents, List.drop_eq_nil_of_le (List.getElem?_eq_none_iff.mp hx)]
      rfl
    rw [show s.session.dispatcher.channel.commands.sight = _ from Ring.sight_of_empty hempty] at hm
    cases hm
  | some x =>
    have hfit : ¬ s.session.dispatcher.channel.commands.capacity <
        (commandHeader x.token x.command).length := by
      rw [hk.length_front hx]
      exact Nat.not_lt.mpr (hk.front_lt hx).1
    rw [show s.session.dispatcher.channel.commands.sight = _ from hk.sight_front hx] at hm
    dsimp only at hm
    rw [if_neg hfit] at hm
    cases hm
    exact { hk with hand := ⟨hhand, x, hx, rfl⟩ }

theorem inHand_answering {sent : List Sent} {carried : List Command} {k : Nat} {x : Sent}
    (hx : sent[k]? = some x) (hcarried : ((sent.take k).map Sent.command).Sublist carried)
    (reply : Option Reply) :
    InHand sent (carried ++ [x.command]) k k
      (.answering (commandHeader x.token x.command) x.command reply) := by
  have htake : (sent.take (k + 1)).map Sent.command = (sent.take k).map Sent.command ++ [x.command] := by
    rw [List.take_add_one, hx, List.map_append]
    rfl
  have hmore := hcarried.append_right [x.command]
  rw [← htake] at hmore
  cases reply with
  | none => exact ⟨rfl, ⟨x, hx, rfl⟩, hmore⟩
  | some reply => exact ⟨rfl, ⟨x, hx, rfl⟩, hmore⟩

theorem Kept.serve_reading (hk : Kept s) {h : Header} (hs : s.session.stage = .reading h)
    (hm : s.serve = some t) : Kept t := by
  have hhand := hk.hand
  rw [hs] at hhand
  obtain ⟨hcount, x, hx, rfl⟩ := hhand
  have hwhole : (commandHeader x.token x.command).length ≤ s.channel.commands.fill := by
    rw [hk.length_front hx, Ring.fill_of_contents (hk.contents_front hx)]
    omega
  have hdecode := hk.decode_front hx
  have hcommand : (command? (s.channel.commands.peek
      (commandHeader x.token x.command).length)).map Prod.snd = some x.command := by
    rw [command?, hdecode]
    rfl
  unfold serve Session.advance at hm
  rw [hs] at hm
  dsimp only at hm
  rw [show s.session.dispatcher.channel = s.channel from rfl, if_pos hwhole, hdecode, hcommand] at hm
  cases hm
  exact { hk with
    carried := hk.carried.trans (List.sublist_append_left _ _)
    hand := by
      show InHand _ _ s.handled s.acknowledged _
      rw [hcount]
      exact inHand_answering hx hk.carried _ }

theorem Kept.serve_replying (hk : Kept s) {h : Header} {outcome : Outcome} {reply : Reply}
    (hs : s.session.stage = .replying h outcome reply) (hm : s.serve = some t) : Kept t := by
  have hhand := hk.hand
  unfold serve Session.advance at hm
  rw [hs] at hm hhand
  dsimp only at hm
  cases hp : s.session.dispatcher.channel.postReply h.token reply with
  | absent | waits =>
    rw [hp] at hm
    cases hm
  | ready posted =>
    obtain ⟨_ | _, channel⟩ := posted
    · rw [hp] at hm
      cases hm
      exact { hk with hand := hhand.1 }
    · have hcommands := Dispatcher.commands_of_postReply hp
      have hissued : channel.issued = s.channel.issued := by
        unfold Channel.postReply at hp
        dsimp only at hp
        split at hp <;> cases hp
        rfl
      rw [hp] at hm
      cases hm
      obtain ⟨commands, replies, issued⟩ := channel
      dsimp only at hcommands hissued
      subst hcommands hissued
      exact { hk with hand := hhand }

theorem Kept.serve_finishing (hk : Kept s) {h : Header} {outcome : Outcome}
    (hs : s.session.stage = .finishing h outcome) (hm : s.serve = some t) : Kept t := by
  have hhand := hk.hand
  rw [hs] at hhand
  obtain ⟨hcount, ⟨x, hx, rfl⟩, hcarried⟩ := hhand
  have hcontents := hk.contents_front hx
  have hlength := hk.length_front hx
  unfold serve Session.advance at hm
  rw [hs] at hm
  obtain rfl := Option.some.inj hm
  dsimp only
  exact { hk with
    sound := by
      show (s.channel.commands.skip (commandHeader x.token x.command).length).Sound
      rw [hlength]
      exact Ring.skip_sound_of_contents hk.sound hcontents
    contents := by
      show (s.channel.commands.skip (commandHeader x.token x.command).length).contents = _
      rw [hlength]
      exact Ring.skip_contents_of_contents hcontents
    handled_le := (List.getElem?_eq_some_iff.mp hx).1
    carried := hcarried
    hand := by
      rw [← hcount] at hx
      exact ⟨congrArg (· + 1) hcount.symm, x, hx, rfl⟩ }

theorem Kept.serve_released (hk : Kept s) {token : UInt32} {outcome : Outcome}
    (hs : s.session.stage = .released token outcome) (hm : s.serve = some t) : Kept t := by
  have hhand := hk.hand
  rw [hs] at hhand
  obtain ⟨hcount, x, hx, rfl⟩ := hhand
  unfold serve Session.advance at hm
  rw [hs] at hm
  obtain rfl := Option.some.inj hm
  dsimp only
  exact { hk with
    sound := { hk.sound with }
    last := by
      show x.token = tokenAfter (s.numbers.getD (s.acknowledged + 1) 0)
      rw [List.getD_eq_getElem?_getD, number_eq hx]
      exact hk.token x (List.mem_of_getElem? hx)
    hand := by
      cases outcome with
      | goOn => exact hcount.symm
      | shutdown => exact hcount.symm }

theorem Kept.serve (hk : Kept s) (hm : s.serve = some t) : Kept t := by
  cases hs : s.session.stage with
  | idle => exact hk.serve_idle hs hm
  | reading => exact hk.serve_reading hs hm
  | replying => exact hk.serve_replying hs hm
  | finishing => exact hk.serve_finishing hs hm
  | released => exact hk.serve_released hs hm
  | ended =>
    unfold Traffic.serve Session.advance at hm
    rw [hs] at hm
    cases hm

theorem Kept.move (hk : Kept s) {m : Move} (hm : s.move m = some t) : Kept t := by
  cases m with
  | send => exact hk.send hm
  | collect => exact hk.collect hm
  | serve => exact hk.serve hm
  | resume => exact hk.resume hm

/-! ## Runs -/

theorem run_cons {m : Move} {ms : List Move} (hr : s.run (m :: ms) = some u) :
    ∃ t, s.move m = some t ∧ t.run ms = some u := Option.bind_eq_some_iff.mp hr

theorem Kept.run (hk : Kept s) {ms : List Move} (hr : s.run ms = some t) : Kept t := by
  induction ms generalizing s with
  | nil =>
    cases hr
    exact hk
  | cons m ms ih =>
    obtain ⟨s', hm, hr⟩ := run_cons hr
    exact ih (hk.move hm) hr

theorem sent_prefix_move {m : Move} (hm : s.move m = some t) : s.sent <+: t.sent := by
  cases m with
  | send c =>
    rcases send_eq_some hm with ⟨-, -, rfl⟩ | ⟨-, rfl⟩
    · exact List.prefix_append _ _
    · exact List.prefix_rfl
  | collect token =>
    unfold move collect at hm
    dsimp only at hm
    split at hm <;> cases hm
    exact List.prefix_rfl
  | serve =>
    obtain ⟨session, -, rfl⟩ := Option.map_eq_some_iff.mp hm
    split <;> exact List.prefix_rfl
  | resume =>
    unfold move resume at hm
    dsimp only at hm
    split at hm <;> cases hm
    exact List.prefix_rfl

theorem sent_prefix_run {ms : List Move} (hr : s.run ms = some t) : s.sent <+: t.sent := by
  induction ms generalizing s with
  | nil =>
    cases hr
    exact List.prefix_rfl
  | cons m ms ih =>
    obtain ⟨s', hm, hr⟩ := run_cons hr
    exact (sent_prefix_move hm).trans (ih hr)

/-! ## The statement -/

/-- No more tokens were given out after the last one that was acknowledged than can be told
apart. -/
def Recent (s : Traffic δ) : Prop := s.allocated ≤ s.reached + tokenSpan

/-- The wait for the token of the command that was sent after `k` others ends only once its
record was handled, and ends at once after it was acknowledged, as long as the tokens can be
told apart. -/
structure WaitsExactly (s : Traffic δ) (x : Sent) (k : Nat) : Prop where
  only : s.Recent → s.channel.waitForToken x.token = .ready () → k < s.handled
  once : x.number ≤ s.reached → s.reached ≤ x.number + tokenSpan →
    s.channel.waitForToken x.token = .ready ()

structure Exact (s : Traffic δ) : Prop where
  issued : s.channel.issued = tokenAfter s.allocated
  token : ∀ x ∈ s.sent, x.token = tokenAfter x.number
  /-- Each token is given out once. -/
  ordered : (s.numbers ++ [s.allocated + 1]).Pairwise (· < ·)
  last : s.channel.commands.lastToken = tokenAfter s.reached
  acknowledged : s.acknowledged ≤ s.handled ∧ s.handled ≤ s.sent.length
  /-- What was handled was carried out, and the ring holds the rest. -/
  carried : ((s.sent.take s.handled).map Sent.command).Sublist s.carried
  contents : s.channel.commands.contents = ((s.sent.drop s.handled).map Sent.record).flatten
  waits : ∀ k x, s.sent[k]? = some x → s.WaitsExactly x k
  /-- Nor does a command that is sent here and now end its own wait. -/
  settle : s.allocated + 1 ≤ s.reached + tokenSpan →
    ∀ c channel, s.channel.settle c ≠ .ready (.ok (), channel)

namespace Kept

omit [Driver δ]

theorem waits (hk : Kept s) {k : Nat} {x : Sent} (hx : s.sent[k]? = some x) :
    s.WaitsExactly x k := by
  have hiff := hk.number_le_reached_iff hx
  have hpos := hk.number_pos hx
  have hle := hk.number_le (number_eq hx)
  have htoken := hk.token x (List.mem_of_getElem? hx)
  constructor
  case only =>
    intro hrecent hready
    rw [Recent] at hrecent
    have hreached : tokenReached s.channel.commands.lastToken x.token = true := by
      unfold Channel.waitForToken Attempt.persist at hready
      by_contra hnot
      rw [if_neg hnot] at hready
      cases hready
    rw [hk.last, htoken] at hreached
    by_cases hnumber : x.number ≤ s.reached
    · exact Nat.lt_of_lt_of_le (hiff.mp hnumber) hk.acknowledged_le.1
    · exact absurd ((tokenReached_tokenAfter hpos (by omega) (by omega)).mp hreached) hnumber
  case once =>
    intro hnumber hspan
    have hreached := (tokenReached_tokenAfter hpos (by omega) hspan).mpr hnumber
    rw [Channel.waitForToken, hk.last, htoken, hreached]
    rfl

theorem settle (hk : Kept s) (hspan : s.allocated + 1 ≤ s.reached + tokenSpan) (c : Command)
    (channel : Channel) : s.channel.settle c ≠ .ready (.ok (), channel) := by
  have hle := hk.number_le hk.reached_eq
  have hnot : tokenReached s.channel.commands.lastToken (nextToken s.channel.issued) = false := by
    rw [hk.last, hk.issued_succ, Bool.eq_false_iff, Ne,
      tokenReached_tokenAfter (by omega) (by omega) (by omega)]
    omega
  unfold Channel.settle
  rcases s.channel.send_cases c with ⟨-, -, hsend⟩ | ⟨-, hsend⟩ | hsend
  · rw [hsend]
    dsimp only
    rw [Channel.waitForToken,
      show tokenReached (s.channel.commands.append _).lastToken _ = false from hnot]
    exact nofun
  · rw [hsend]
    exact nofun
  · rw [hsend]
    exact nofun

theorem exact (hk : Kept s) : s.Exact where
  issued := hk.issued
  token := hk.token
  ordered := hk.ordered
  last := hk.last
  acknowledged := hk.acknowledged_le
  carried := hk.carried
  contents := hk.contents
  waits _ _ hx := hk.waits hx
  settle := hk.settle

theorem sent_nop (hk : Kept s) (hm : s.send .nop = some t) :
    t.sent[s.sent.length]? = some ⟨s.allocated + 1, t.channel.issued, .nop⟩ := by
  rcases send_eq_some hm with ⟨-, -, rfl⟩ | ⟨hl, -⟩
  · show (s.sent ++ [_])[s.sent.length]? = _
    rw [List.getElem?_concat_length]
    rfl
  · have hpage := hk.page
    rw [length_encodeCommand _ 0] at hl
    have hlength : (encodeCommand 0 .nop).length ≤ 4096 := by decide +kernel
    rw [Ring.pageSize] at hpage
    omega

end Kept

/-- A synchronisation sends a command that does nothing and waits for its token. Whatever was
sent and refused before, whatever happens in between and however often the tokens have come
around, the wait for a token is exact, that of a synchronisation too. -/
theorem waits_exact {settings : Ring.Settings} {usable : String → Bool}
    (hch : Channel.create settings usable = .ok ch) (e : Engine δ) :
    TokensOrdered ∧ ∀ ms s, (start ch e).run ms = some s → s.Exact ∧
      ∀ t more u, s.send .nop = some t → t.run more = some u →
        u.WaitsExactly ⟨s.allocated + 1, t.channel.issued, .nop⟩ s.sent.length := by
  refine ⟨tokensOrdered, fun ms s hr => ?_⟩
  have hk := (start_kept hch e).run hr
  refine ⟨hk.exact, fun t more u hsend hmore => ?_⟩
  have ht : Kept t := hk.send hsend
  have hnop := hk.sent_nop hsend
  obtain ⟨rest, hsent⟩ := sent_prefix_run hmore
  apply (ht.run hmore).waits
  rw [← hsent, List.getElem?_append_left (List.getElem?_eq_some_iff.mp hnop).1, hnop]

/-! A command is refused, and the next has the token after that. -/

namespace Refused

def long : Command := .bufferSubData 0x8892 0 (List.replicate 5000 0)

def moves : List Move :=
  [.send (.clearStencil 3), .send long, .send .nop, .serve, .serve, .serve, .serve]

end Refused

theorem waits_exact_of_refused :
    ∃ s : Traffic Recorder,
      Channel.create { capacity := 1 } (fun _ => true) = .ok Relay.Errand.channel ∧
        (start Relay.Errand.channel Relay.Errand.engine).run Refused.moves = some s ∧
        s.sent = [⟨1, 1, .clearStencil 3⟩, ⟨3, 3, .nop⟩] ∧ s.reached = 1 ∧
        s.channel.waitForToken 1 = .ready () ∧ s.channel.waitForToken 3 = .waits ∧ s.Exact := by
  have hch : Channel.create { capacity := 1 } (fun _ => true) = .ok Relay.Errand.channel := rfl
  have hrun : ((start Relay.Errand.channel Relay.Errand.engine).run Refused.moves).map
      (fun s => (s.sent, s.reached, s.channel.commands.lastToken)) =
        some ([⟨1, 1, .clearStencil 3⟩, ⟨3, 3, .nop⟩], 1, 1) := by
    decide +kernel
  obtain ⟨s, hr, hs⟩ := Option.map_eq_some_iff.mp hrun
  obtain ⟨hsent, hs⟩ := Prod.mk.inj hs
  obtain ⟨hreached, hlast⟩ := Prod.mk.inj hs
  refine ⟨s, hch, hr, hsent, hreached, ?_, ?_, ((waits_exact hch _).2 _ s hr).1⟩
  · rw [Channel.waitForToken, hlast]
    rfl
  · rw [Channel.waitForToken, hlast]
    rfl

end Traffic

end RenderRelay
