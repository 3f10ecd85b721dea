import RenderRelay.Driver.Recorder
import RenderRelay.Proofs.Dispatcher.Cursor
import RenderRelay.Proofs.Dispatcher.Relay
import RenderRelay.Proofs.Engine.Counter

/-!
# Records that are carried out again

A dispatcher that is made to go on whatever its steps come to. The bytes that the
client has written are numbered from the start, so a record is told by its place. A
record is carried out once, unless its reply was refused: a reply is posted after the
command was carried out and before the record is given back, and where it is refused
the record stays at the cursor.
-/

set_option autoImplicit false

namespace RenderRelay

open Wire (Header Whole command? headerSize)

/-- Only one record can begin at a place. -/
theorem Wire.Whole.eq_of_prefix {a b s : Bytes} (ha : Whole a) (hb : Whole b) (has : a <+: s)
    (hbs : b <+: s) : a = b := by
  obtain ⟨h, hpa, hla⟩ := Wire.whole_iff.mp ha
  obtain ⟨h', hpb, hlb⟩ := Wire.whole_iff.mp hb
  have hheader : ∀ {r : Bytes} {g : Header}, Header.parse r = .ok g → g.length = r.length →
      r <+: s → Header.parse s = .ok g := by
    intro r g hp hl hr
    have hsize := (Wire.Header.parse_eq_ok_iff.mp hp).1
    obtain ⟨rest, rfl⟩ := hr
    rw [← Wire.Header.parse_take (by rw [List.length_append]; omega),
      List.take_append_of_le_length (by omega), Wire.Header.parse_take (by omega), hp]
  obtain rfl : h = h' := Except.ok.inj ((hheader hpa hla has).symm.trans (hheader hpb hlb hbs))
  rw [List.prefix_iff_eq_take.mp has, List.prefix_iff_eq_take.mp hbs, ← hla, ← hlb]

def Wire.decodes (record : Bytes) : Bool := (command? record).isSome

/-! Where a reader is -/

namespace Ring

variable {r : Ring} {written : Bytes} {place : Nat}

/-- Of all that was written, what stands before the place was given back. -/
structure ReadTo (r : Ring) (written : Bytes) (place : Nat) : Prop where
  sound : r.Sound
  contents : r.contents = written.drop place
  place_le : place ≤ written.length

theorem readTo_push (hr : r.ReadTo written place) {bytes : Bytes} {r' : Ring}
    (hp : r.push bytes = .ready (.ok r')) : r'.ReadTo (written ++ bytes) place := by
  unfold push at hp
  split at hp
  · cases hp
  unfold Attempt.persist at hp
  split at hp
  · next hroom =>
    cases hp
    have hroom : bytes.length ≤ r.free := by simpa using hroom
    refine ⟨append_sound hr.sound hroom, ?_, ?_⟩
    · rw [append_contents hr.sound hroom, hr.contents, List.drop_append_of_le_length hr.place_le]
    · rw [List.length_append]
      exact Nat.le_add_right_of_le hr.place_le
  · cases hp

theorem ReadTo.fill_eq (hr : r.ReadTo written place) : r.fill = written.length - place := by
  rw [← length_contents, hr.contents, List.length_drop]

theorem ReadTo.peek_prefix (hr : r.ReadTo written place) {n : Nat} (hn : n ≤ r.fill) :
    r.peek n <+: written.drop place := by
  rw [peek_eq_take _ _ hn, hr.contents]
  exact List.take_prefix ..

end Ring

theorem Channel.tooLarge_of_postReply {ch ch' : Channel} {t : UInt32} {reply : Reply}
    {cause : TransportError} (hp : ch.postReply t reply = .ready (.error cause, ch')) :
    cause = .tooLarge (Wire.encodeReply t reply).length ch.replies.capacity ∧
      ch.replies.capacity < (Wire.encodeReply t reply).length := by
  unfold postReply at hp
  dsimp only at hp
  split at hp
  · cases hp
  · next hpush =>
    cases hp
    refine ⟨rfl, ?_⟩
    by_contra hl
    rw [Ring.push_of_le (by omega)] at hpush
    split at hpush <;> cases hpush
  · cases hp

/-! One step -/

namespace Dispatcher

variable {δ : Type} {d d' : Dispatcher δ} {h : Header} {c : Command}

structure Finds (d : Dispatcher δ) (h : Header) (c : Command) : Prop where
  stands : d.At h
  fetched : d.fetch = .ready (.ok (h, some c))
  decodes : ∃ t, command? (d.channel.commands.peek h.length) = some (t, c)

theorem at_of_fetch {c? : Option Command} (hf : d.fetch = .ready (.ok (h, c?))) : d.At h := by
  unfold fetch at hf
  split at hf
  · cases hf
  · next hd =>
    split at hf <;> cases hf <;> exact at_of_header hd
  · cases hf

theorem decodes_of_fetch (hf : d.fetch = .ready (.ok (h, none))) :
    Wire.decodes (d.channel.commands.peek h.length) = false := by
  unfold fetch at hf
  split at hf
  · cases hf
  · split at hf
    · next hd =>
      cases hf
      rw [Wire.decodes, Wire.command?_eq_none.mpr ⟨_, hd⟩]
      rfl
    · cases hf
  · cases hf

theorem finds_of_fetch (hf : d.fetch = .ready (.ok (h, some c))) : d.Finds h c where
  stands := at_of_fetch hf
  fetched := hf
  decodes := by
    unfold fetch at hf
    split at hf
    · cases hf
    · next g _ =>
      cases hd : Wire.decodeCommand (d.channel.commands.peek g.length) with
      | error e =>
        rw [hd] at hf
        cases hf
      | ok p =>
        rw [hd] at hf
        cases hf
        exact ⟨p.1.token, by rw [command?, hd]; rfl⟩
    · cases hf

/-- The record at the cursor has the length that its header gives. -/
theorem At.whole_peek (ha : d.At h) : Whole (d.channel.commands.peek h.length) := by
  have hcovers := ha.covers
  have hpeek : (d.channel.commands.peek h.length).take headerSize =
      d.channel.commands.peek headerSize := Ring.Memory.take_load _ _ _ _ _ hcovers
  refine Wire.whole_iff.mpr ⟨h, ?_, (Ring.length_peek _ _).symm⟩
  rw [← Wire.Header.parse_take (by rw [Ring.length_peek]; exact hcovers), hpeek, ha.parsed]

theorem Advances.readTo (ha : d.At h) (had : d.Advances h d') {written : Bytes} {place : Nat}
    (hr : d.channel.commands.ReadTo written place) :
    d'.channel.commands.ReadTo written (place + h.length) := by
  have hskip := Ring.skip_sound hr.sound ha.whole
  have hwritten := hr.fill_eq
  refine ⟨?_, ?_, ?_⟩
  · rw [had.commands]
    exact ⟨hskip.capacity_pos, hskip.tail_lt, hskip.fill_le, hskip.head_eq⟩
  · rw [had.contents, hr.contents, List.drop_drop]
  · have := ha.whole
    have := hr.place_le
    omega

variable [Driver δ]

inductive Stepped (d : Dispatcher δ) : Except DispatchError Outcome → Dispatcher δ → Prop where
  | stopped {e : DispatchError} (hf : d.fetch = .ready (.error e)) : Stepped d (.error e) d
  | skipped {h : Header} (hf : d.fetch = .ready (.ok (h, none))) :
    Stepped d (.ok .goOn) (d.finish h)
  | served {h : Header} {c : Command} {outcome : Outcome} {d' : Dispatcher δ}
    (hf : d.Finds h c) (ha : d.Advances h d') (he : d'.engine = (d.engine.execute c).2.noted 1) :
    Stepped d (.ok outcome) d'
  /-- The command was carried out, and nothing is given back. -/
  | refused {h : Header} {c : Command} {length capacity : Nat} (hf : d.Finds h c)
    (hl : capacity < length) :
    Stepped d (.error (.reply (.tooLarge length capacity)))
      { d with engine := (d.engine.execute c).2 }

/-- A command is carried out before its reply is posted, whatever comes of that. -/
theorem stepped_of_handle (hf : d.Finds h c) {result : Except DispatchError Outcome}
    (hs : d.handle h c = .ready (result, d')) : d.Stepped result d' := by
  have hadvances : ∀ outcome, result = .ok outcome → d.Advances h d' := by
    rintro outcome rfl
    exact advances_of_handle hf.stands hs
  unfold handle at hs
  dsimp only at hs
  split at hs
  · cases hs
    exact .served hf (hadvances _ rfl) rfl
  · next reply _ =>
    cases hp : d.channel.postReply h.token reply with
    | absent | waits =>
      rw [hp] at hs
      cases hs
    | ready posted =>
      obtain ⟨cause | _, channel⟩ := posted
      · rw [hp] at hs
        cases hs
        obtain ⟨rfl, hl⟩ := Channel.tooLarge_of_postReply hp
        exact .refused hf hl
      · rw [hp] at hs
        cases hs
        exact .served hf (hadvances _ rfl) rfl

theorem stepped_of_step {result : Except DispatchError Outcome}
    (hs : d.step = .ready (result, d')) : d.Stepped result d' := by
  rw [step_eq] at hs
  split at hs
  · next hf =>
    cases hs
    exact .stopped hf
  · next hf =>
    cases hs
    exact .skipped hf
  · next hf => exact stepped_of_handle (finds_of_fetch hf) hs
  · cases hs

end Dispatcher

/-! Steps and what the client does in between -/

/-- A record that was carried out: where it begins, its command and what the step came to. -/
structure Passage where
  place : Nat
  record : Bytes
  command : Command
  result : Except DispatchError Outcome

namespace Passage

def Refused (p : Passage) : Prop :=
  ∃ length capacity, capacity < length ∧ p.result = .error (.reply (.tooLarge length capacity))

def served (p : Passage) : Bool :=
  match p.result with
  | .ok _ => true
  | .error _ => false

structure OfBytes (p : Passage) (written : Bytes) : Prop where
  bytes : p.record <+: written.drop p.place
  whole : Whole p.record
  decodes : ∃ t, command? p.record = some (t, p.command)

theorem OfBytes.append {p : Passage} {written : Bytes} (hp : p.OfBytes written) (bytes : Bytes) :
    p.OfBytes (written ++ bytes) where
  bytes := by
    rw [List.drop_append]
    exact hp.bytes.trans (List.prefix_append ..)
  whole := hp.whole
  decodes := hp.decodes

def Precedes (p q : Passage) : Prop :=
  p.place + p.record.length ≤ q.place ∨ p.place = q.place ∧ p.record = q.record ∧ p.Refused

end Passage

structure Service (δ : Type) where
  dispatcher : Dispatcher δ
  /-- All that was ever written into the ring of commands. -/
  written : Bytes
  /-- How much of it was given back. -/
  place : Nat := 0
  log : List Passage := []

namespace Service

variable {δ : Type}

def commands (s : Service δ) : Ring := s.dispatcher.channel.commands

def start (d : Dispatcher δ) : Service δ where
  dispatcher := d
  written := d.channel.commands.contents

def write (s : Service δ) (bytes : Bytes) : Service δ :=
  match s.commands.push bytes with
  | .ready (.ok commands) =>
    { s with
      dispatcher := { s.dispatcher with channel := { s.dispatcher.channel with commands } }
      written := s.written ++ bytes }
  | _ => s

def take (s : Service δ) (count : Nat) : Service δ :=
  let replies := s.dispatcher.channel.replies
  if count ≤ replies.fill then
    { s with dispatcher := { s.dispatcher with
        channel := { s.dispatcher.channel with replies := replies.skip count } } }
  else s

def passage (s : Service δ) (h : Header) (c : Command) (result : Except DispatchError Outcome) :
    Passage where
  place := s.place
  record := s.commands.peek h.length
  command := c
  result

def passages (s : Service δ) (result : Except DispatchError Outcome) : List Passage :=
  match s.dispatcher.fetch with
  | .ready (.ok (h, some c)) => [s.passage h c result]
  | _ => []

def gives (s : Service δ) (dispatcher : Dispatcher δ) (passages : List Passage) : Service δ where
  dispatcher
  written := s.written
  place := s.place + (s.commands.fill - dispatcher.channel.commands.fill)
  log := s.log ++ passages

theorem gives_of_advances {s : Service δ} {h : Header} {d : Dispatcher δ}
    (had : s.dispatcher.Advances h d) (passages : List Passage) : s.gives d passages =
      ⟨d, s.written, s.place + h.length, s.log ++ passages⟩ := by
  have hfill : d.channel.commands.fill + h.length = s.commands.fill := had.fill
  have hlength : s.commands.fill - d.channel.commands.fill = h.length := by omega
  rw [gives, hlength]

theorem gives_of_same {s : Service δ} {d : Dispatcher δ}
    (hd : d.channel = s.dispatcher.channel) (passages : List Passage) :
    s.gives d passages = ⟨d, s.written, s.place, s.log ++ passages⟩ := by
  have hstays : s.commands.fill - d.channel.commands.fill = 0 := by
    rw [hd]
    exact Nat.sub_self _
  rw [gives, hstays, Nat.add_zero]

inductive Move where
  | write (bytes : Bytes)
  | take (count : Nat)
  | step
  deriving DecidableEq, Repr

variable [Driver δ]

def step (s : Service δ) : Service δ :=
  match s.dispatcher.step with
  | .ready (result, dispatcher) => s.gives dispatcher (s.passages result)
  | _ => s

def move (s : Service δ) : Move → Service δ
  | .write bytes => s.write bytes
  | .take count => s.take count
  | .step => s.step

def run (s : Service δ) (moves : List Move) : Service δ := moves.foldl move s

def Behind (s : Service δ) (p : Passage) : Prop :=
  p.place + p.record.length ≤ s.place ∨ p.place = s.place ∧ p.Refused

/-- The records that were given back. Those of them that decode were served, in order. -/
structure GaveBack (s : Service δ) (records : List Bytes) : Prop where
  bytes : s.written.take s.place = records.flatten
  whole : ∀ record ∈ records, Whole record
  served : (s.log.filter Passage.served).map Passage.record =
    records.filter Wire.decodes

structure Kept (e : Engine δ) (s : Service δ) : Prop where
  ring : s.commands.ReadTo s.written s.place
  engine : ∃ n, s.dispatcher.engine = (e.after (s.log.map Passage.command)).noted n
  records : ∀ p ∈ s.log, p.OfBytes s.written
  past : ∃ records, s.GaveBack records
  behind : ∀ p ∈ s.log, s.Behind p
  ordered : s.log.Pairwise Passage.Precedes

variable {s : Service δ} {e : Engine δ}

theorem start_kept {d : Dispatcher δ} (hd : d.channel.commands.Sound) :
    Kept d.engine (start d) where
  ring := ⟨hd, rfl, Nat.zero_le _⟩
  engine := ⟨0, rfl⟩
  records _ hp := by cases hp
  past := ⟨[], rfl, (fun _ h => by cases h), rfl⟩
  behind _ hp := by cases hp
  ordered := .nil

/-! The client's moves -/

theorem kept_write (hk : Kept e s) (bytes : Bytes) : Kept e (s.write bytes) := by
  unfold write
  split
  · next hp =>
    exact {
      ring := Ring.readTo_push hk.ring hp
      engine := hk.engine
      records := fun p hp => (hk.records p hp).append bytes
      past := by
        obtain ⟨records, hg⟩ := hk.past
        refine ⟨records, ?_, hg.whole, hg.served⟩
        rw [← hg.bytes]
        exact List.take_append_of_le_length hk.ring.place_le
      behind := hk.behind
      ordered := hk.ordered }
  · exact hk

theorem kept_take (hk : Kept e s) (count : Nat) : Kept e (s.take count) := by
  unfold take
  dsimp only
  split
  · obtain ⟨records, hg⟩ := hk.past
    exact ⟨hk.ring, hk.engine, hk.records, ⟨records, hg.bytes, hg.whole, hg.served⟩, hk.behind,
      hk.ordered⟩
  · exact hk

/-! The dispatcher's moves -/

section

variable {h : Header} {c : Command} {p : Passage} {d : Dispatcher δ}
  {result : Except DispatchError Outcome} (hk : Kept e s)

include hk

theorem Kept.record_eq (ha : s.dispatcher.At h) (hp : p ∈ s.log) (hplace : p.place = s.place) :
    p.record = s.commands.peek h.length := by
  obtain ⟨hbytes, hwhole, -⟩ := hk.records p hp
  rw [hplace] at hbytes
  exact hwhole.eq_of_prefix ha.whole_peek hbytes (hk.ring.peek_prefix ha.whole)

/-- What is carried out now is behind all that was carried out, or was refused before. -/
theorem Kept.precedes (ha : s.dispatcher.At h) (hp : p ∈ s.log) :
    p.Precedes (s.passage h c result) := by
  rcases hk.behind p hp with hbehind | ⟨hplace, hrefused⟩
  · exact .inl hbehind
  · exact .inr ⟨hplace, hk.record_eq ha hp hplace, hrefused⟩

/-- Once the record is given back the cursor is behind all that was carried out. -/
theorem Kept.end_le (ha : s.dispatcher.At h) (hp : p ∈ s.log) :
    p.place + p.record.length ≤ s.place + h.length := by
  rcases hk.behind p hp with hbehind | ⟨hplace, -⟩
  · omega
  · rw [hk.record_eq ha hp hplace, Ring.length_peek, hplace]

theorem Kept.engine_execute (n : Nat) :
    ∃ m, (s.dispatcher.engine.execute c).2.noted n =
      (e.after ((s.log ++ [s.passage h c result]).map
        Passage.command)).noted m := by
  obtain ⟨m, hm⟩ := hk.engine
  refine ⟨m + n, ?_⟩
  rw [List.map_append, Engine.after_append, hm, Engine.execute_noted, Engine.noted_noted]
  rfl

theorem Kept.past_append {log : List Passage} (ha : s.dispatcher.At h)
    (hlog : (log.filter Passage.served).map Passage.record =
      [s.commands.peek h.length].filter Wire.decodes) :
    ∃ records, GaveBack ⟨d, s.written, s.place + h.length, s.log ++ log⟩ records := by
  obtain ⟨records, hg⟩ := hk.past
  have hpeek : s.commands.peek h.length = s.commands.contents.take h.length :=
    Ring.peek_eq_take _ _ ha.whole
  refine ⟨records ++ [s.commands.peek h.length], ?_, ?_, ?_⟩
  · show s.written.take (s.place + h.length) = _
    rw [List.take_add, hg.bytes, ← hk.ring.contents, List.flatten_append, List.flatten_singleton,
      hpeek]
  · exact List.forall_mem_append.mpr ⟨hg.whole, List.forall_mem_singleton.mpr ha.whole_peek⟩
  · show ((s.log ++ log).filter Passage.served).map Passage.record = _
    rw [List.filter_append, List.map_append, hg.served, hlog, List.filter_append]

theorem Kept.records_append (hf : s.dispatcher.Finds h c) :
    ∀ p ∈ s.log ++ [s.passage h c result], p.OfBytes s.written := by
  refine List.forall_mem_append.mpr ⟨hk.records, List.forall_mem_singleton.mpr ?_⟩
  exact ⟨hk.ring.peek_prefix hf.stands.whole, hf.stands.whole_peek, hf.decodes⟩

theorem Kept.ordered_append (ha : s.dispatcher.At h) :
    (s.log ++ [s.passage h c result]).Pairwise Passage.Precedes := by
  refine List.pairwise_append.mpr ⟨hk.ordered, List.pairwise_singleton .., ?_⟩
  intro p hp q hq
  obtain rfl := List.mem_singleton.mp hq
  exact hk.precedes ha hp

/-- A record that does not decode is given back, and nothing is noted. -/
theorem Kept.skip (hf : s.dispatcher.fetch = .ready (.ok (h, none))) :
    Kept e ⟨s.dispatcher.finish h, s.written, s.place + h.length, s.log⟩ := by
  have ha := Dispatcher.at_of_fetch hf
  have had : s.dispatcher.Advances h (s.dispatcher.finish h) :=
    Dispatcher.advances_of_commands ha rfl
  constructor
  case ring => exact had.readTo ha hk.ring
  case engine =>
    obtain ⟨n, hn⟩ := hk.engine
    refine ⟨n + 1, ?_⟩
    rw [← Engine.noted_noted, ← hn]
    rfl
  case records => exact hk.records
  case past =>
    have hnone : Wire.decodes (s.commands.peek h.length) = false := Dispatcher.decodes_of_fetch hf
    rw [← List.append_nil s.log]
    exact hk.past_append ha (by simp [hnone])
  case behind => exact fun p hp => .inl (hk.end_le ha hp)
  case ordered => exact hk.ordered

theorem Kept.serve {outcome : Outcome} (hf : s.dispatcher.Finds h c)
    (had : s.dispatcher.Advances h d) (he : d.engine = (s.dispatcher.engine.execute c).2.noted 1) :
    Kept e ⟨d, s.written, s.place + h.length, s.log ++ [s.passage h c (.ok outcome)]⟩ := by
  constructor
  case ring => exact had.readTo hf.stands hk.ring
  case engine => exact he ▸ hk.engine_execute 1
  case records => exact hk.records_append hf
  case past =>
    obtain ⟨token, ht⟩ := hf.decodes
    have hsome : Wire.decodes (s.commands.peek h.length) = true := Option.isSome_of_eq_some ht
    have hserved : [s.passage h c (.ok outcome)].filter Passage.served =
        [s.passage h c (.ok outcome)] := rfl
    refine hk.past_append hf.stands ?_
    rw [hserved, List.filter_cons_of_pos hsome]
    rfl
  case behind =>
    refine List.forall_mem_append.mpr ⟨fun p hp => .inl (hk.end_le hf.stands hp), ?_⟩
    refine List.forall_mem_singleton.mpr (.inl (Nat.le_of_eq ?_))
    exact congrArg (s.place + ·) (Ring.length_peek _ _)
  case ordered => exact hk.ordered_append hf.stands

/-- Where the reply is refused the record stays, though the command was carried out. -/
theorem Kept.refuse {length capacity : Nat} (hf : s.dispatcher.Finds h c)
    (hl : capacity < length) :
    Kept e ⟨{ s.dispatcher with engine := (s.dispatcher.engine.execute c).2 }, s.written, s.place,
      s.log ++ [s.passage h c (.error (.reply (.tooLarge length capacity)))]⟩ := by
  constructor
  case ring => exact hk.ring
  case engine => exact hk.engine_execute 0
  case records => exact hk.records_append hf
  case past =>
    obtain ⟨records, hg⟩ := hk.past
    refine ⟨records, hg.bytes, hg.whole, ?_⟩
    rw [List.filter_append, List.map_append, hg.served]
    exact List.append_nil _
  case behind =>
    refine List.forall_mem_append.mpr ⟨hk.behind, List.forall_mem_singleton.mpr ?_⟩
    exact .inr ⟨rfl, _, _, hl, rfl⟩
  case ordered => exact hk.ordered_append hf.stands

end

theorem kept_step (hk : Kept e s) : Kept e s.step := by
  unfold step
  split
  · next result d hs =>
    cases Dispatcher.stepped_of_step hs with
    | stopped hf =>
      rw [gives_of_same (by rfl)]
      simp only [passages, hf, List.append_nil]
      exact hk
    | @skipped h hf =>
      rw [gives_of_advances (Dispatcher.advances_of_commands (Dispatcher.at_of_fetch hf) rfl)]
      simp only [passages, hf, List.append_nil]
      exact hk.skip hf
    | served hf had he =>
      rw [gives_of_advances had]
      simp only [passages, hf.fetched]
      exact hk.serve hf had he
    | refused hf hl =>
      rw [gives_of_same (by rfl)]
      simp only [passages, hf.fetched]
      exact hk.refuse hf hl
  · exact hk

theorem kept_move (hk : Kept e s) (m : Move) : Kept e (s.move m) := by
  cases m with
  | write bytes => exact kept_write hk bytes
  | take count => exact kept_take hk count
  | step => exact kept_step hk

theorem kept_run (hk : Kept e s) (moves : List Move) : Kept e (s.run moves) := by
  induction moves generalizing s with
  | nil => exact hk
  | cons m moves ih => exact ih (kept_move hk m)

/-- Whatever is in the ring and whatever the steps come to: the engine is given records that
were written, one behind the other, each once. Only a record whose reply was refused is
given to it again. Of the records that are given back, those that decode are the ones served. -/
theorem run_repeats {d : Dispatcher δ} (hd : d.channel.commands.Sound) (moves : List Move) :
    (∀ p ∈ ((start d).run moves).log, p.OfBytes ((start d).run moves).written) ∧
      ((start d).run moves).log.Pairwise Passage.Precedes ∧
      (∃ records, ((start d).run moves).GaveBack records) ∧
      ∃ n, ((start d).run moves).dispatcher.engine =
        (d.engine.after (((start d).run moves).log.map Passage.command)).noted n := by
  have hk := kept_run (start_kept hd) moves
  exact ⟨hk.records, hk.ordered, hk.past, hk.engine⟩

namespace Oversized

def ring (id : Nat) : Ring := ⟨id, 4096, {}, 0, 0, 0, Ring.noToken, .busyPoll, 100⟩

/-- The driver has so many texture formats that the reply which lists them fits no page. -/
def driver : Recorder := { integers := [(GL.numCompressedTextureFormats, [1021])] }

def dispatcher (names : NameTable) : Dispatcher Recorder where
  channel := ⟨ring 0, ring 1, Ring.noToken⟩
  engine := { server := { driver, names } }

def moves : List Move :=
  [.write (Wire.encodeCommand 1 (.makeCurrent ⟨1⟩ ⟨3⟩ ⟨3⟩ ⟨7⟩)), .step,
    .write (Wire.encodeCommand 2 (.getIntegerv GL.compressedTextureFormats)), .step,
    .take 20, .step]

end Oversized

theorem run_repeats_of_oversized :
    (Oversized.dispatcher {}).channel.commands.Sound ∧
      ((start (Oversized.dispatcher {})).run Oversized.moves).log.map
          (fun p => (p.command, p.result)) =
        [(.makeCurrent ⟨1⟩ ⟨3⟩ ⟨3⟩ ⟨7⟩, .ok .goOn),
          (.getIntegerv GL.compressedTextureFormats, .error (.reply (.tooLarge 4100 4096))),
          (.getIntegerv GL.compressedTextureFormats, .error (.reply (.tooLarge 4100 4096)))] ∧
      ((start (Oversized.dispatcher {})).run Oversized.moves).log.Pairwise Passage.Precedes := by
  have hd : (Oversized.dispatcher {}).channel.commands.Sound :=
    ⟨by decide, by decide, by decide, by decide⟩
  exact ⟨hd, by decide +kernel, (run_repeats hd Oversized.moves).2.1⟩

/-- One record is carried out twice: for each time the driver gives the count, then the formats. -/
theorem repeated_of_oversized :
    ¬ (((start (Oversized.dispatcher {})).run Oversized.moves).log.map Passage.place).Nodup ∧
      ((start (Oversized.dispatcher {})).run
          Oversized.moves).dispatcher.engine.server.driver.calls.map Call.entry =
        [.eglMakeCurrent, .getIntegerv, .getIntegerv, .getIntegerv, .getIntegerv] := by
  constructor
  · decide +kernel
  · decide +kernel

end Service

end RenderRelay
