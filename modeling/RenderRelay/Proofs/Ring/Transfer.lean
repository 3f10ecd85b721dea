import Mathlib.Algebra.Ring.Nat
import RenderRelay.Proofs.Ring.View
import RenderRelay.Ring.Transfer

/-!
# Schedules of a transfer

A schedule says at every step which side completes its next operation. What
the reader gets is cut from the writer's stream wherever the cursors wrap,
moves of the two sides commute down to the cells, and so all schedules that
cannot go on have ended alike, whatever the mode of the ring.
-/

set_option autoImplicit false

namespace RenderRelay

open RenderRelay.Ring

namespace Transfer

inductive Side where
  | writer
  | reader
  deriving DecidableEq, Repr

def move? (t : Transfer) : Side → Option Transfer
  | .writer => t.produce?
  | .reader => t.consume?

def follow (t : Transfer) : List Side → Option Transfer
  | [] => some t
  | side :: sides => (t.move? side).bind (·.follow sides)

def Stopped (t : Transfer) : Prop := ∀ side, t.move? side = none

def Unfinished (t : Transfer) : Side → Prop
  | .writer => t.records ≠ []
  | .reader => t.reads ≠ []

def Waits (t : Transfer) (side : Side) : Prop := t.Unfinished side ∧ t.move? side = none

variable {t u v : Transfer}

/-! ## Single moves -/

theorem produce?_cons {record : Bytes} {rest : List Bytes} (hr : t.records = record :: rest)
    (hl : record.length ≤ t.ring.capacity) :
    t.produce? = if record.length ≤ t.ring.free then
      some { t with ring := t.ring.append record, records := rest } else none := by
  simp only [produce?, hr, push_of_le hl]
  by_cases hf : record.length ≤ t.ring.free
  · simp only [if_pos hf]
  · simp only [if_neg hf]

theorem consume?_cons {n : Nat} {rest : List Nat} (hn : t.reads = n :: rest) :
    t.consume? = if max n 1 ≤ t.ring.fill then
      some { t with
        ring := t.ring.skip n, reads := rest, taken := t.ring.peek n :: t.taken } else none := by
  simp only [consume?, hn, popExact, Attempt.persist, decide_eq_true_eq]
  by_cases hf : max n 1 ≤ t.ring.fill
  · simp only [if_pos hf]
  · simp only [if_neg hf]

/-- All the writer can do: put its next record in, if there is room. -/
theorem produce?_eq_some (hl : ∀ record ∈ t.records, record.length ≤ t.ring.capacity) :
    t.produce? = some u ↔ ∃ record rest, t.records = record :: rest ∧
      record.length ≤ t.ring.free ∧
      u = { t with ring := t.ring.append record, records := rest } := by
  constructor
  · intro h
    cases hr : t.records with
    | nil => simp [produce?, hr] at h
    | cons record rest =>
      rw [produce?_cons hr (hl record (by simp [hr]))] at h
      split at h
      · next hf => exact ⟨record, rest, rfl, hf, (Option.some.inj h).symm⟩
      · cases h
  · rintro ⟨record, rest, hr, hf, rfl⟩
    rw [produce?_cons hr (hl record (by simp [hr])), if_pos hf]

/-- All the reader can do: take its next bytes, if they are there. -/
theorem consume?_eq_some :
    t.consume? = some u ↔ ∃ n rest, t.reads = n :: rest ∧ max n 1 ≤ t.ring.fill ∧
      u = { t with
        ring := t.ring.skip n, reads := rest, taken := t.ring.peek n :: t.taken } := by
  constructor
  · intro h
    cases hn : t.reads with
    | nil => simp [consume?, hn] at h
    | cons n rest =>
      rw [consume?_cons hn] at h
      split at h
      · next hf => exact ⟨n, rest, rfl, hf, (Option.some.inj h).symm⟩
      · cases h
  · rintro ⟨n, rest, hn, hf, rfl⟩
    rw [consume?_cons hn, if_pos hf]

theorem pending_move? {side : Side} (h : t.move? side = some u) : u.pending < t.pending := by
  cases side with
  | writer => exact pending_produce? h
  | reader => exact pending_consume? h

/-! ## What a schedule has moved -/

/-- The bytes of the `i`-th read: what the reads before it have left of the stream, up to
its own length. -/
def piece (stream : Bytes) (reads : List Nat) (i : Nat) : Bytes :=
  (stream.drop (reads.take i).sum).take (reads.getD i 0)

/-- What a schedule has brought about. The bytes pushed are those of the records it has
taken from the front, the bytes popped those of the reads. -/
structure Moved (capacity : Nat) (records : List Bytes) (reads : List Nat) (sides : List Side)
    (t : Transfer) : Prop where
  sound : t.ring.Sound
  capacity_eq : t.ring.capacity = capacity
  pushes_le : sides.count .writer ≤ records.length
  pops_le : sides.count .reader ≤ reads.length
  records_eq : t.records = records.drop (sides.count .writer)
  reads_eq : t.reads = reads.drop (sides.count .reader)
  /-- Every pop has returned the next bytes of the records, and all it asked for. -/
  popped_eq : t.popped = (List.range (sides.count .reader)).map (piece records.flatten reads)
  popped_full : t.popped.map List.length = reads.take (sides.count .reader)
  contents_eq : t.ring.contents =
    (records.take (sides.count .writer)).flatten.drop (reads.take (sides.count .reader)).sum
  fill_eq : t.ring.fill + (reads.take (sides.count .reader)).sum =
    (records.take (sides.count .writer)).flatten.length
  fill_le : t.ring.fill ≤ capacity

/-- When a side can move: the writer needs room for its whole record, the reader all it asks
for, and one byte at least. -/
structure MovesWhenReady (t : Transfer) : Prop where
  writer : (t.move? .writer).isSome ↔
    ∃ record rest, t.records = record :: rest ∧ record.length ≤ t.ring.free
  reader : (t.move? .reader).isSome ↔
    ∃ n rest, t.reads = n :: rest ∧ max n 1 ≤ t.ring.fill

theorem movesWhenReady (hl : ∀ record ∈ t.records, record.length ≤ t.ring.capacity) :
    t.MovesWhenReady where
  writer := by
    rw [Option.isSome_iff_exists]
    constructor
    · rintro ⟨u, hu⟩
      obtain ⟨record, rest, hr, hf, -⟩ := (produce?_eq_some hl).mp hu
      exact ⟨record, rest, hr, hf⟩
    · rintro ⟨record, rest, hr, hf⟩
      exact ⟨_, (produce?_eq_some hl).mpr ⟨record, rest, hr, hf, rfl⟩⟩
  reader := by
    rw [Option.isSome_iff_exists]
    constructor
    · rintro ⟨u, hu⟩
      obtain ⟨n, rest, hn, hf, -⟩ := consume?_eq_some.mp hu
      exact ⟨n, rest, hn, hf⟩
    · rintro ⟨n, rest, hn, hf⟩
      exact ⟨_, consume?_eq_some.mpr ⟨n, rest, hn, hf, rfl⟩⟩

section

variable {capacity : Nat} {records : List Bytes} {reads : List Nat} {sides : List Side}

theorem Moved.records_le (hm : Moved capacity records reads sides t)
    (hl : ∀ record ∈ records, record.length ≤ capacity) :
    ∀ record ∈ t.records, record.length ≤ t.ring.capacity := by
  intro record hr
  rw [hm.records_eq] at hr
  rw [hm.capacity_eq]
  exact hl record (List.mem_of_mem_drop hr)

theorem moved_start {ring : Ring} (hs : ring.Sound) (he : ring.contents = []) :
    Moved ring.capacity records reads [] (start ring records reads) := by
  have hf : ring.fill = 0 := by rw [← length_contents, he, List.length_nil]
  exact ⟨hs, rfl, Nat.zero_le _, Nat.zero_le _, rfl, rfl, rfl, rfl, he, by simpa [start] using hf,
    hs.fill_le⟩

/-- The stream as far as it has been pushed is the start of the whole stream. -/
theorem take_stream (records : List Bytes) (k n m : Nat)
    (h : n + m ≤ (records.take k).flatten.length) :
    ((records.take k).flatten.drop n).take m = (records.flatten.drop n).take m := by
  have hs : records.flatten = (records.take k).flatten ++ (records.drop k).flatten := by
    rw [← List.flatten_append, List.take_append_drop]
  rw [hs, List.drop_append_of_le_length (by omega),
    List.take_append_of_le_length (by simp only [List.length_drop]; omega)]

theorem Moved.produce (hm : Moved capacity records reads sides t)
    (hl : ∀ record ∈ records, record.length ≤ capacity) (h : t.produce? = some u) :
    Moved capacity records reads (sides ++ [.writer]) u := by
  obtain ⟨record, rest, hr, hf, rfl⟩ := (produce?_eq_some (hm.records_le hl)).mp h
  have hc : (sides ++ [Side.writer]).count .writer = sides.count .writer + 1 := by simp
  have hd : (sides ++ [Side.writer]).count .reader = sides.count .reader := by simp
  have hsplit : records.drop (sides.count .writer) = record :: rest := by rw [← hm.records_eq, hr]
  have hlt : sides.count .writer < records.length := by
    have := congrArg List.length hsplit
    simp only [List.length_drop, List.length_cons] at this
    omega
  have hget : records[sides.count .writer] = record := by
    have := List.drop_eq_getElem_cons hlt
    rw [hsplit] at this
    exact (List.cons.inj this).1.symm
  have htake : (records.take (sides.count .writer + 1)).flatten =
      (records.take (sides.count .writer)).flatten ++ record := by
    rw [List.take_succ_eq_append_getElem hlt, hget, List.flatten_append, List.flatten_singleton]
  have hs := append_sound hm.sound hf
  refine ⟨hs, hm.capacity_eq, ?_, ?_, ?_, ?_, ?_, ?_, ?_, ?_, hs.fill_le.trans_eq hm.capacity_eq⟩
  · rwa [hc]
  · rw [hd]
    exact hm.pops_le
  · rw [hc, ← List.drop_drop, hsplit]
    rfl
  · rw [hd]
    exact hm.reads_eq
  · rw [hd]
    exact hm.popped_eq
  · rw [hd]
    exact hm.popped_full
  · rw [hc, hd, htake, List.drop_append_of_le_length (by rw [← hm.fill_eq]; omega),
      ← hm.contents_eq]
    exact append_contents hm.sound hf
  · rw [hc, hd, htake, List.length_append, ← hm.fill_eq]
    simp only [append]
    omega

theorem Moved.consume (hm : Moved capacity records reads sides t) (h : t.consume? = some u) :
    Moved capacity records reads (sides ++ [.reader]) u := by
  obtain ⟨n, rest, hn, hf, rfl⟩ := consume?_eq_some.mp h
  have hc : (sides ++ [Side.reader]).count .writer = sides.count .writer := by simp
  have hd : (sides ++ [Side.reader]).count .reader = sides.count .reader + 1 := by simp
  have hsplit : reads.drop (sides.count .reader) = n :: rest := by rw [← hm.reads_eq, hn]
  have hlt : sides.count .reader < reads.length := by
    have := congrArg List.length hsplit
    simp only [List.length_drop, List.length_cons] at this
    omega
  have hget : reads[sides.count .reader] = n := by
    have := List.drop_eq_getElem_cons hlt
    rw [hsplit] at this
    exact (List.cons.inj this).1.symm
  have htake : reads.take (sides.count .reader + 1) = reads.take (sides.count .reader) ++ [n] := by
    rw [List.take_succ_eq_append_getElem hlt, hget]
  have hsum : (reads.take (sides.count .reader + 1)).sum =
      (reads.take (sides.count .reader)).sum + n := by
    rw [htake, List.sum_append, List.sum_singleton]
  have hle : n ≤ t.ring.fill := by omega
  have hfill := hm.fill_eq
  have hs := skip_sound hm.sound hle
  refine ⟨hs, hm.capacity_eq, ?_, ?_, ?_, ?_, ?_, ?_, ?_, ?_, hs.fill_le.trans_eq hm.capacity_eq⟩
  · rw [hc]
    exact hm.pushes_le
  · rwa [hd]
  · rw [hc]
    exact hm.records_eq
  · rw [hd, ← List.drop_drop, hsplit]
    rfl
  · -- What is popped now is cut from the contents, which are the stream behind the last read.
    have hp : t.ring.peek n = piece records.flatten reads (sides.count .reader) := by
      rw [peek_eq_take _ _ hle, hm.contents_eq, take_stream _ _ _ _ (by omega), piece,
        List.getD_eq_getElem?_getD, List.getElem?_eq_getElem hlt, hget, Option.getD_some]
    rw [hd, List.range_succ, List.map_append, ← hm.popped_eq, popped, List.reverse_cons, hp]
    rfl
  · rw [hd, htake, ← hm.popped_full, popped, List.reverse_cons, List.map_append, popped]
    simp only [List.map_cons, List.map_nil, length_peek]
  · rw [hc, hd, hsum, ← List.drop_drop, ← hm.contents_eq]
    exact skip_contents hle
  · rw [hc, hd, hsum, ← hfill]
    simp only [skip]
    omega

theorem Moved.move (hm : Moved capacity records reads sides t)
    (hl : ∀ record ∈ records, record.length ≤ capacity) {side : Side}
    (h : t.move? side = some u) : Moved capacity records reads (sides ++ [side]) u := by
  cases side with
  | writer => exact hm.produce hl h
  | reader => exact hm.consume h

theorem Moved.follow (hl : ∀ record ∈ records, record.length ≤ capacity) (more : List Side)
    (hm : Moved capacity records reads sides t) (h : t.follow more = some u) :
    Moved capacity records reads (sides ++ more) u := by
  induction more generalizing t sides with
  | nil =>
    cases h
    rwa [List.append_nil]
  | cons side more ih =>
    obtain ⟨v, hv, hu⟩ := Option.bind_eq_some_iff.mp h
    have := ih (hm.move hl hv) hu
    rwa [List.append_assoc] at this

end

/-! ## Moves commute -/

/-- Writing behind the committed bytes and giving back the first of them touch different
cells and different cursors. -/
theorem append_skip {r : Ring} {n : Nat} (hn : n ≤ r.fill) (bs : Bytes) :
    (r.append bs).skip n = (r.skip n).append bs := by
  simp only [append, skip, Nat.sub_add_comm hn]

theorem peek_append {r : Ring} (hr : r.Sound) {bs : Bytes} (hf : bs.length ≤ r.free) {n : Nat}
    (hn : n ≤ r.fill) : (r.append bs).peek n = r.peek n := by
  have hle : n ≤ (r.append bs).fill := hn.trans (Nat.le_add_right ..)
  rw [peek_eq_take _ _ hle, append_contents hr hf,
    List.take_append_of_le_length (by rwa [length_contents]), peek_eq_take _ _ hn]

/-- A transfer whose moves commute: what both sides do to it keeps it so. -/
structure Steady (t : Transfer) : Prop where
  sound : t.ring.Sound
  records_le : ∀ record ∈ t.records, record.length ≤ t.ring.capacity

theorem Steady.move (hs : t.Steady) (side : Side) (h : t.move? side = some u) : u.Steady := by
  cases side with
  | writer =>
    obtain ⟨record, rest, hr, hf, rfl⟩ := (produce?_eq_some hs.records_le).mp h
    exact ⟨append_sound hs.sound hf, fun r hm => hs.records_le r (by simp [hr, hm])⟩
  | reader =>
    obtain ⟨n, rest, hn, hf, rfl⟩ := consume?_eq_some.mp h
    exact ⟨skip_sound hs.sound (by omega), hs.records_le⟩

/-- Neither side takes from the other what it needs, and both orders end alike. -/
theorem moves_commute (hs : t.Steady) (hu : t.produce? = some u) (hv : t.consume? = some v) :
    ∃ w, u.consume? = some w ∧ v.produce? = some w := by
  have hvl := (hs.move .reader hv).records_le
  obtain ⟨record, rest, hr, hf, rfl⟩ := (produce?_eq_some hs.records_le).mp hu
  obtain ⟨n, later, hn, hm, rfl⟩ := consume?_eq_some.mp hv
  have hle : n ≤ t.ring.fill := by omega
  have hroom : record.length ≤ (t.ring.skip n).free := by
    simp only [free, skip] at hf ⊢
    omega
  have hthere : max n 1 ≤ (t.ring.append record).fill := hm.trans (Nat.le_add_right ..)
  refine ⟨_, consume?_eq_some.mpr ⟨n, later, hn, hthere, rfl⟩, ?_⟩
  refine (produce?_eq_some hvl).mpr ⟨record, rest, hr, hroom, ?_⟩
  dsimp only
  rw [append_skip hle, peek_append hs.sound hf hle]

theorem run_of_produce (h : t.produce? = some u) : t.run = u.run := by
  rw [run.eq_def t]
  split
  · next p hp => exact congrArg run (Option.some.inj (hp.symm.trans h))
  · next hp => cases hp.symm.trans h

theorem run_of_consume (hn : t.produce? = none) (h : t.consume? = some u) : t.run = u.run := by
  rw [run.eq_def t]
  split
  · next p hp => cases hp.symm.trans hn
  · split
    · next p hp => exact congrArg run (Option.some.inj (hp.symm.trans h))
    · next hp => cases hp.symm.trans h

theorem run_of_stopped (h : t.Stopped) : t.run = t := by
  rw [run.eq_def]
  split
  · next p hp => cases hp.symm.trans (h .writer)
  · split
    · next p hp => cases hp.symm.trans (h .reader)
    · rfl

/-- The run with the writer first ends where it would have ended one move later, whichever
side has made that move. -/
theorem run_of_move (hs : t.Steady) (side : Side) (h : t.move? side = some u) :
    t.run = u.run := by
  induction hk : t.pending using Nat.strong_induction_on generalizing t u side with
  | _ k ih =>
    cases side with
    | writer => exact run_of_produce h
    | reader =>
      cases hp : t.produce? with
      | none => exact run_of_consume hp h
      | some p =>
        -- The writer could have moved as well, and both orders meet in `w`.
        obtain ⟨w, hpw, huw⟩ := moves_commute hs hp h
        have hlt : p.pending < k := hk ▸ pending_produce? hp
        have hps : p.Steady := hs.move .writer hp
        calc
          t.run = p.run := run_of_produce hp
          _ = w.run := ih _ hlt hps .reader hpw rfl
          _ = u.run := (run_of_produce huw).symm

/-- Every schedule that cannot go on has ended where the run with the writer first ends. -/
theorem follow_stopped {sides : List Side} (hs : t.Steady) (h : t.follow sides = some u)
    (hu : u.Stopped) : u = t.run := by
  induction sides generalizing t with
  | nil =>
    cases h
    exact (run_of_stopped hu).symm
  | cons side sides ih =>
    obtain ⟨v, hv, hf⟩ := Option.bind_eq_some_iff.mp h
    exact (ih (hs.move side hv) hf).trans (run_of_move hs side hv).symm

/-- Every schedule can be continued until no side can move. -/
theorem follow_stops (t : Transfer) : ∃ sides u, t.follow sides = some u ∧ u.Stopped := by
  induction hk : t.pending using Nat.strong_induction_on generalizing t with
  | _ k ih =>
    by_cases hst : t.Stopped
    · exact ⟨[], t, rfl, hst⟩
    · obtain ⟨side, hside⟩ := not_forall.mp hst
      obtain ⟨v, hv⟩ := Option.ne_none_iff_exists'.mp hside
      have hlt : v.pending < k := hk ▸ pending_move? hv
      obtain ⟨sides, u, hf, hu⟩ := ih _ hlt v rfl
      exact ⟨side :: sides, u, by rw [follow, hv]; exact hf, hu⟩

/-! ## The mode of the ring -/

variable (id : Nat) (mode : WaitMode) (pollInterval : UInt64)

def dressed (t : Transfer) : Transfer := { t with ring := { t.ring with id, mode, pollInterval } }

theorem push_dressed (r : Ring) (record : Bytes) :
    ({ r with id, mode, pollInterval } : Ring).push record =
      (r.push record).map (.map fun s => { s with id, mode, pollInterval }) :=
  push_map (fun s => { s with id, mode, pollInterval }) rfl rfl rfl

theorem popExact_dressed (r : Ring) (n : Nat) :
    ({ r with id, mode, pollInterval } : Ring).popExact n =
      (r.popExact n).map fun x => (x.1, { x.2 with id, mode, pollInterval }) := by
  rw [popExact, popExact, Attempt.map_persist]
  rfl

theorem produce?_dressed (t : Transfer) : (t.dressed id mode pollInterval).produce? =
    t.produce?.map fun u => u.dressed id mode pollInterval := by
  simp only [produce?, dressed, push_dressed]
  cases t.records with
  | nil => rfl
  | cons record rest =>
    dsimp only
    generalize t.ring.push record = x
    cases x with
    | ready x => cases x <;> rfl
    | absent | waits => rfl

theorem consume?_dressed (t : Transfer) : (t.dressed id mode pollInterval).consume? =
    t.consume?.map fun u => u.dressed id mode pollInterval := by
  simp only [consume?, dressed, popExact_dressed]
  cases t.reads with
  | nil => rfl
  | cons n rest =>
    dsimp only
    generalize t.ring.popExact n = x
    cases x with
    | ready x => rfl
    | absent | waits => rfl

theorem move?_dressed (t : Transfer) (side : Side) : (t.dressed id mode pollInterval).move? side =
    (t.move? side).map fun u => u.dressed id mode pollInterval := by
  cases side with
  | writer => exact produce?_dressed ..
  | reader => exact consume?_dressed ..

theorem follow_dressed (t : Transfer) (sides : List Side) :
    (t.dressed id mode pollInterval).follow sides =
      (t.follow sides).map fun u => u.dressed id mode pollInterval := by
  induction sides generalizing t with
  | nil => rfl
  | cons side sides ih =>
    rw [follow, follow, move?_dressed]
    cases t.move? side with
    | none => rfl
    | some u => exact ih u

theorem stopped_dressed (t : Transfer) :
    (t.dressed id mode pollInterval).Stopped ↔ t.Stopped := by
  simp only [Stopped, move?_dressed, Option.map_eq_none_iff]

theorem start_dressed {settings settings' : Settings} {id id' : Nat} {usable usable' : String → Bool}
    {ring ring' : Ring} (h : Ring.create id settings usable = .ok ring)
    (h' : Ring.create id' settings' usable' = .ok ring') (hc : ring'.capacity = ring.capacity)
    (records : List Bytes) (reads : List Nat) :
    start ring' records reads =
      (start ring records reads).dressed id' settings'.mode settings'.pollInterval := by
  obtain ⟨-, rfl⟩ := create_eq h
  obtain ⟨-, rfl⟩ := create_eq h'
  dsimp only at hc
  rw [hc]
  rfl

/-! ## All schedules -/

/-- Two transfers that nobody can tell apart: the same pops, the same bytes left in the
ring, the same operations left to do, and the same sides waiting. -/
structure Alike (t u : Transfer) : Prop where
  popped_eq : t.popped = u.popped
  contents_eq : t.ring.contents = u.ring.contents
  records_eq : t.records = u.records
  reads_eq : t.reads = u.reads
  waits_iff : ∀ side, t.Waits side ↔ u.Waits side

theorem alike_dressed (t : Transfer) : t.Alike (t.dressed id mode pollInterval) where
  popped_eq := rfl
  contents_eq := rfl
  records_eq := rfl
  reads_eq := rfl
  waits_iff side := by
    simp only [Waits, move?_dressed, Option.map_eq_none_iff]
    cases side <;> rfl

/-- Two rings of one capacity that were made under any settings, records each of which can
fit, and any reads. Every schedule moves the bytes of the records in order to the reads, each
side moves whenever it finds room or bytes enough, no schedule is longer than there are
operations, each can be continued until no side can move, and all that have come so far have
ended alike. -/
theorem follow_confluent {settings settings' : Settings} {id id' : Nat}
    {usable usable' : String → Bool} {ring ring' : Ring}
    (h : Ring.create id settings usable = .ok ring)
    (h' : Ring.create id' settings' usable' = .ok ring') (hc : ring'.capacity = ring.capacity)
    {records : List Bytes} (hl : ∀ record ∈ records, record.length ≤ ring.capacity)
    (reads : List Nat) :
    (∀ sides t, (start ring records reads).follow sides = some t →
      Moved ring.capacity records reads sides t ∧ t.MovesWhenReady ∧
        ∃ more u, t.follow more = some u ∧ u.Stopped) ∧
    ∀ sides t, (start ring records reads).follow sides = some t → t.Stopped →
      ∀ sides' t', (start ring' records reads).follow sides' = some t' → t'.Stopped →
        t.Alike t' := by
  have hm : Moved ring.capacity records reads [] (start ring records reads) :=
    moved_start (create_sound h) (create_contents h)
  constructor
  · intro sides t ht
    have hmt := hm.follow hl sides ht
    rw [List.nil_append] at hmt
    exact ⟨hmt, movesWhenReady (hmt.records_le hl), follow_stops t⟩
  · intro sides t ht hst sides' t' ht' hst'
    have hs : (start ring records reads).Steady := ⟨hm.sound, hl⟩
    rw [start_dressed h h' hc, follow_dressed] at ht'
    obtain ⟨u, hu, rfl⟩ := Option.map_eq_some_iff.mp ht'
    rw [stopped_dressed] at hst'
    rw [follow_stopped hs ht hst, ← follow_stopped hs hu hst']
    exact alike_dressed ..

/-- A transfer of five bytes over one page whose reader asks for six: the writer is done, and
the reader has had two bytes and waits for a fourth one. -/
def shortOfOne (mode : WaitMode) : Transfer where
  ring := ⟨0, 4096, ⟨#[1, 2, 3, 4, 5]⟩, 5, 2, 3, noToken, mode, 100⟩
  records := []
  reads := [4]
  taken := [[1, 2]]

theorem shortOfOne_stopped (mode : WaitMode) : (shortOfOne mode).Stopped := by
  intro side
  cases side <;> rfl

/-- Two orders, in the two modes. -/
theorem follow_confluent_of_page :
    Ring.create 0 { capacity := 1, mode := .busyPoll } (fun _ => true) =
        .ok ⟨0, 4096, {}, 0, 0, 0, noToken, .busyPoll, 100⟩ ∧
      Ring.create 0 { capacity := 1, mode := .blocking } (fun _ => true) =
        .ok ⟨0, 4096, {}, 0, 0, 0, noToken, .blocking, 100⟩ ∧
      Moved 4096 [[1, 2, 3], [4, 5]] [2, 4] [.writer, .reader, .writer] (shortOfOne .busyPoll) ∧
      (shortOfOne .busyPoll).Waits .reader ∧
      (shortOfOne .busyPoll).Alike (shortOfOne .blocking) := by
  have hc : Ring.create 0 { capacity := 1, mode := .busyPoll } (fun _ => true) =
      .ok ⟨0, 4096, {}, 0, 0, 0, noToken, .busyPoll, 100⟩ := rfl
  have hc' : Ring.create 0 { capacity := 1, mode := .blocking } (fun _ => true) =
      .ok ⟨0, 4096, {}, 0, 0, 0, noToken, .blocking, 100⟩ := rfl
  have hl : ∀ record ∈ ([[1, 2, 3], [4, 5]] : List Bytes), record.length ≤ 4096 := by decide
  obtain ⟨hall, hend⟩ := follow_confluent hc hc' rfl hl [2, 4]
  have hf : (start ⟨0, 4096, {}, 0, 0, 0, noToken, .busyPoll, 100⟩ [[1, 2, 3], [4, 5]]
      [2, 4]).follow [.writer, .reader, .writer] = some (shortOfOne .busyPoll) := rfl
  have hf' : (start ⟨0, 4096, {}, 0, 0, 0, noToken, .blocking, 100⟩ [[1, 2, 3], [4, 5]]
      [2, 4]).follow [.writer, .writer, .reader] = some (shortOfOne .blocking) := rfl
  exact ⟨hc, hc', (hall _ _ hf).1, ⟨by simp [Unfinished, shortOfOne], rfl⟩,
    hend _ _ hf (shortOfOne_stopped _) _ _ hf' (shortOfOne_stopped _)⟩

end Transfer

end RenderRelay
