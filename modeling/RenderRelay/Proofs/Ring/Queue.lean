import RenderRelay.Proofs.Ring.View

/-!
# A ring is a bounded queue

The two holders of a ring perform operations on it, in any order. A queue
that knows nothing of cursors keeps the bytes committed since it was last
cleared, how many of them were given back, and the bytes in its free room.
Ring and queue answer alike, wait alike, and hold the same bytes after every
sequence of operations.
-/

set_option autoImplicit false

namespace RenderRelay

def Attempt.fold {α β : Type} (f : Option α → β) : Attempt α → Option β
  | ready a => some (f (some a))
  | absent => some (f none)
  | waits => none

namespace Ring

inductive Op where
  | writable
  /-- Asks for the free region and writes what of the bytes goes into it, at its start. -/
  | write (bytes : Bytes)
  | commitWrite (count : Nat)
  | tryPush (record : Bytes)
  | push (record : Bytes)
  | readable
  | waitReadable (min : Nat)
  | commitRead (count : Nat)
  | popExact (count : Nat)
  | acknowledge (token : UInt32)
  /-- The holder of the reading side hands in the writing side of the named ring. -/
  | clear (writer : Nat)
  deriving DecidableEq, Repr

inductive Answer where
  | done
  | region (length : Option Nat)
  | data (bytes : Option Bytes)
  | popped (bytes : Bytes)
  | refused (error : PushError)
  | misused (misuse : Misuse)
  deriving DecidableEq, Repr

def Answer.isFailure : Answer → Bool
  | refused _ | misused _ | region none | data none => true
  | _ => false

def perform (r : Ring) : Op → Option (Answer × Ring)
  | .writable => r.writable.fold fun n => (.region n, r)
  | .write bs => r.writable.fold fun n => (.region n, r.stage (bs.take (n.getD 0)))
  | .commitWrite n =>
    match r.commitWrite n with
    | .ok s => some (.done, s)
    | .error e => some (.misused e, r)
  | .tryPush bs =>
    match r.tryPush bs with
    | .ok s => some (.done, s)
    | .error e => some (.refused e, r)
  | .push bs =>
    match r.push bs with
    | .ready (.ok s) => some (.done, s)
    | .ready (.error e) => some (.refused e, r)
    | _ => none
  | .readable => r.readable.fold fun bs => (.data bs, r)
  | .waitReadable min => (r.waitReadable min).fold fun bs => (.data bs, r)
  | .commitRead n =>
    match r.commitRead n with
    | .ok s => some (.done, s)
    | .error e => some (.misused e, r)
  | .popExact n =>
    match r.popExact n with
    | .ready (bs, s) => some (.popped bs, s)
    | _ => none
  | .acknowledge token => some (.done, r.acknowledge token)
  | .clear writer =>
    match r.clear writer with
    | .ok s => some (.done, s)
    | .error e => some (.misused e, r)

def run (r : Ring) : List Op → Option (List Answer × Ring)
  | [] => some ([], r)
  | op :: ops =>
    match r.perform op with
    | none => none
    | some (a, s) => (s.run ops).map fun (as, t) => (a :: as, t)

end Ring

structure Queue where
  id : Nat
  capacity : Nat
  mode : WaitMode
  /-- The bytes committed since the queue was last cleared, oldest first. -/
  committed : Bytes
  /-- How many of them were given back. -/
  taken : Nat
  /-- What the free room holds, the next byte to be committed first. -/
  room : Bytes
  lastToken : UInt32
  deriving Repr

namespace Queue

open RenderRelay.Ring (Op Answer)

def empty (id capacity : Nat) (mode : WaitMode) : Queue :=
  ⟨id, capacity, mode, [], 0, List.replicate capacity 0, Ring.noToken⟩

def unread (q : Queue) : Bytes := q.committed.drop q.taken

def write (q : Queue) (bs : Bytes) : Queue :=
  { q with room := bs.take q.room.length ++ q.room.drop bs.length }

def commit (q : Queue) (n : Nat) : Queue :=
  { q with committed := q.committed ++ q.room.take n, room := q.room.drop n }

def take (q : Queue) (n : Nat) : Queue :=
  { q with taken := q.taken + n, room := q.room ++ q.unread.take n }

/-- Everything is room again, in the order in which it was room at first. -/
def clear (q : Queue) : Queue :=
  { q with
    committed := []
    taken := 0
    room := (q.unread ++ q.room).rotate (q.capacity - q.taken % q.capacity) }

def ask {α : Type} (q : Queue) (there : Bool) (value : α) : Option (Option α) :=
  if there then some (some value)
  else match q.mode with
    | .busyPoll => some none
    | .blocking => none

def perform (q : Queue) : Op → Option (Answer × Queue)
  | .writable => (q.ask (0 < q.room.length) q.room.length).map fun n => (.region n, q)
  | .write bs =>
    (q.ask (0 < q.room.length) q.room.length).map fun n => (.region n, q.write bs)
  | .commitWrite n =>
    if n ≤ q.room.length then some (.done, q.commit n) else some (.misused (.overrunsFree n), q)
  | .tryPush bs =>
    if q.capacity < bs.length then some (.refused .tooLarge, q)
    else if bs.length ≤ q.room.length then some (.done, (q.write bs).commit bs.length)
    else some (.refused .full, q)
  | .push bs =>
    if q.capacity < bs.length then some (.refused .tooLarge, q)
    else if bs.length ≤ q.room.length then some (.done, (q.write bs).commit bs.length)
    else none
  | .readable => (q.ask (0 < q.unread.length) q.unread).map fun bs => (.data bs, q)
  | .waitReadable min =>
    (q.ask (max min 1 ≤ q.unread.length) q.unread).map fun bs => (.data bs, q)
  | .commitRead n =>
    if n ≤ q.unread.length then some (.done, q.take n) else some (.misused (.overrunsFilled n), q)
  | .popExact n =>
    if max n 1 ≤ q.unread.length then some (.popped (q.unread.take n), q.take n) else none
  | .acknowledge token => some (.done, { q with lastToken := token })
  | .clear writer =>
    if writer = q.id then some (.done, q.clear) else some (.misused .foreignWriter, q)

def run (q : Queue) : List Op → Option (List Answer × Queue)
  | [] => some ([], q)
  | op :: ops =>
    match q.perform op with
    | none => none
    | some (a, s) => (s.run ops).map fun (as, t) => (a :: as, t)

end Queue

namespace Ring

/-- The ring stands for the queue: its cursors are those that the counts give,
and the cells between them are the queue's bytes. -/
structure Holds (r : Ring) (q : Queue) : Prop where
  sound : r.Sound
  id_eq : r.id = q.id
  capacity_eq : r.capacity = q.capacity
  mode_eq : r.mode = q.mode
  token_eq : r.lastToken = q.lastToken
  taken_le : q.taken ≤ q.committed.length
  tail_eq : r.tail = q.taken % q.capacity
  fill_eq : r.fill = q.committed.length - q.taken
  contents_eq : r.contents = q.unread
  room_eq : r.room = q.room

variable {r : Ring} {q : Queue}

theorem Holds.length_unread (h : r.Holds q) : q.unread.length = r.fill := by
  rw [← h.contents_eq, length_contents]

theorem Holds.length_room (h : r.Holds q) : q.room.length = r.free := by
  rw [← h.room_eq, Ring.length_room]

theorem holds_write (h : r.Holds q) (bs : Bytes) :
    (r.stage (bs.take r.free)).Holds (q.write bs) := by
  have hl : (bs.take r.free).length ≤ r.free := List.length_take_le ..
  refine { h with
    sound := stage_sound h.sound _
    contents_eq := (stage_contents h.sound hl).trans h.contents_eq
    room_eq := ?room_eq }
  case room_eq =>
    rw [stage_room h.sound hl, h.room_eq, Queue.write, h.length_room]
    congr 1
    by_cases hb : bs.length ≤ r.free
    · rw [List.take_of_length_le hb]
    · rw [List.drop_eq_nil_of_le (by rw [h.length_room, List.length_take]; omega),
        List.drop_eq_nil_of_le (by rw [h.length_room]; omega)]

theorem holds_commit (h : r.Holds q) {n : Nat} (hn : n ≤ r.free) :
    (r.publish n).Holds (q.commit n) := by
  have hr := h.length_room
  refine { h with
    sound := publish_sound h.sound hn
    taken_le := h.taken_le.trans (by simp [Queue.commit])
    fill_eq := ?fill_eq
    contents_eq := ?contents_eq
    room_eq := ?room_eq }
  case fill_eq =>
    have hf := h.fill_eq
    have ht := h.taken_le
    simp only [publish, Queue.commit, List.length_append, List.length_take]
    omega
  case contents_eq =>
    rw [publish_contents h.sound hn, h.contents_eq, h.room_eq]
    exact (List.drop_append_of_le_length h.taken_le).symm
  case room_eq =>
    rw [publish_room hn, h.room_eq]
    rfl

theorem holds_take (h : r.Holds q) {n : Nat} (hn : n ≤ r.fill) : (r.skip n).Holds (q.take n) := by
  have hf := h.fill_eq
  have ht := h.taken_le
  refine { h with
    sound := skip_sound h.sound hn
    taken_le := ?taken_le
    tail_eq := ?tail_eq
    fill_eq := ?fill_eq
    contents_eq := ?contents_eq
    room_eq := ?room_eq }
  case taken_le =>
    simp only [Queue.take]
    omega
  case tail_eq => simp only [skip, Queue.take, h.tail_eq, h.capacity_eq, Nat.mod_add_mod]
  case fill_eq =>
    simp only [skip, Queue.take]
    omega
  case contents_eq =>
    rw [skip_contents hn, h.contents_eq]
    exact List.drop_drop ..
  case room_eq =>
    rw [skip_room h.sound hn, h.contents_eq, h.room_eq]
    rfl

theorem holds_clear (h : r.Holds q) : r.emptied.Holds q.clear := by
  refine { h with
    sound := emptied_sound h.sound
    taken_le := Nat.zero_le _
    tail_eq := (Nat.zero_mod _).symm
    fill_eq := rfl
    contents_eq := rfl
    room_eq := ?room_eq }
  case room_eq =>
    rw [emptied_room h.sound, h.contents_eq, h.room_eq, h.tail_eq, h.capacity_eq]
    rfl

theorem holds_push (h : r.Holds q) {bs : Bytes} (hl : bs.length ≤ r.free) :
    (r.append bs).Holds ((q.write bs).commit bs.length) := by
  have hw := holds_write h bs
  rw [List.take_of_length_le hl] at hw
  exact holds_commit hw hl

abbrev Alike : Option (Answer × Ring) → Option (Answer × Queue) → Prop :=
  Option.Rel fun x y => x.1 = y.1 ∧ x.2.Holds y.2

theorem alike_of_holds (a : Answer) {s : Ring} {t : Queue} (h : s.Holds t) :
    Alike (some (a, s)) (some (a, t)) := .some ⟨rfl, h⟩

theorem alike_of_ask {α : Type} (h : r.Holds q) (there : Bool) (value : α)
    {f : Option α → Answer × Ring} {g : Option α → Answer × Queue}
    (hv : there = true → Alike (some (f value)) (some (g value)))
    (hn : there = false → Alike (some (f none)) (some (g none))) :
    Alike ((Attempt.once r.mode there value).fold f) ((q.ask there value).map g) := by
  rw [h.mode_eq]
  cases there with
  | true => exact hv rfl
  | false =>
    cases hm : q.mode with
    | busyPoll => simpa [Attempt.once, Attempt.fold, Queue.ask, hm] using hn rfl
    | blocking => simp [Attempt.once, Attempt.fold, Queue.ask, hm]

theorem perform_alike (h : r.Holds q) (op : Op) : Alike (r.perform op) (q.perform op) := by
  have hroom := h.length_room
  have hunread := h.length_unread
  have hcap := h.capacity_eq
  have hc := h.sound.fill_add_free
  cases op with
  | writable =>
    rw [perform, writable, Queue.perform, hroom]
    exact alike_of_ask h _ _ (fun _ => alike_of_holds _ h) fun _ => alike_of_holds _ h
  | write bs =>
    rw [perform, writable, Queue.perform, hroom]
    refine alike_of_ask h _ _ (fun _ => alike_of_holds _ (holds_write h bs)) fun hz => ?_
    have hw := holds_write h bs
    rw [show r.free = 0 by simpa using hz] at hw
    exact alike_of_holds _ hw
  | commitWrite n =>
    rw [perform, commitWrite_eq, Queue.perform, hroom]
    by_cases hn : n ≤ r.free
    · rw [if_neg (by omega), if_pos hn]
      exact alike_of_holds _ (holds_commit h hn)
    · rw [if_pos (by omega), if_neg hn]
      exact alike_of_holds _ h
  | tryPush bs =>
    rw [perform, tryPush, Queue.perform, hroom, ← hcap]
    by_cases ht : r.capacity < bs.length
    · rw [if_pos ht, if_pos ht]
      exact alike_of_holds _ h
    · rw [if_neg ht, if_neg ht]
      by_cases hl : bs.length ≤ r.free
      · rw [if_neg (by omega), if_pos hl]
        exact alike_of_holds _ (holds_push h hl)
      · rw [if_pos (by omega), if_neg hl]
        exact alike_of_holds _ h
  | push bs =>
    rw [perform, push, Queue.perform, hroom, ← hcap]
    by_cases ht : r.capacity < bs.length
    · rw [if_pos ht, if_pos ht]
      exact alike_of_holds _ h
    · rw [if_neg ht, if_neg ht, Attempt.persist]
      by_cases hl : bs.length ≤ r.free
      · rw [if_pos (by simpa using hl), if_pos hl]
        exact alike_of_holds _ (holds_push h hl)
      · rw [if_neg (by simpa using hl), if_neg hl]
        exact .none
  | readable =>
    rw [perform, readable, waitReadable, Queue.perform, hunread, h.contents_eq]
    exact alike_of_ask h _ _ (fun _ => alike_of_holds _ h) fun _ => alike_of_holds _ h
  | waitReadable min =>
    rw [perform, waitReadable, Queue.perform, hunread, h.contents_eq]
    exact alike_of_ask h _ _ (fun _ => alike_of_holds _ h) fun _ => alike_of_holds _ h
  | commitRead n =>
    rw [perform, commitRead, Queue.perform, hunread]
    by_cases hn : n ≤ r.fill
    · rw [if_neg (by omega), if_pos hn]
      exact alike_of_holds _ (holds_take h hn)
    · rw [if_pos (by omega), if_neg hn]
      exact alike_of_holds _ h
  | popExact n =>
    rw [perform, popExact, Queue.perform, hunread]
    by_cases hn : max n 1 ≤ r.fill
    · have hle : n ≤ r.fill := by omega
      rw [Attempt.persist, if_pos (by simpa using hn), if_pos hn, peek_eq_take r n hle,
        h.contents_eq]
      exact alike_of_holds _ (holds_take h hle)
    · rw [Attempt.persist, if_neg (by simpa using hn), if_neg hn]
      exact .none
  | acknowledge token =>
    have hs := h.sound
    exact alike_of_holds _ ⟨⟨hs.capacity_pos, hs.tail_lt, hs.fill_le, hs.head_eq⟩, h.id_eq,
      h.capacity_eq, h.mode_eq, rfl, h.taken_le, h.tail_eq, h.fill_eq, h.contents_eq, h.room_eq⟩
  | clear writer =>
    rw [perform, clear, Queue.perform, ← h.id_eq]
    by_cases hw : writer = r.id
    · rw [if_pos hw, if_pos hw]
      exact alike_of_holds _ (holds_clear h)
    · rw [if_neg hw, if_neg hw]
      exact alike_of_holds _ h

/-- What the two holders see of a ring, in the memory that appears twice in a row. -/
def byteAt (r : Ring) (address : Nat) : UInt8 := r.memory.get (address % r.capacity)

/-- The cursors stand inside the memory, both regions are runs of neighbouring
addresses inside its two appearances, and neither writing nor an operation
that fails does harm. -/
structure Orderly (r : Ring) : Prop where
  head_lt : r.head < r.capacity
  tail_lt : r.tail < r.capacity
  fill_le : r.fill ≤ r.capacity
  head_eq : r.head = (r.tail + r.fill) % r.capacity
  readable_run : ∀ i < r.fill,
    r.tail + i < 2 * r.capacity ∧ r.contents[i]? = some (r.byteAt (r.tail + i))
  length_room : r.room.length = r.capacity - r.fill
  writable_run : ∀ i < r.capacity - r.fill,
    r.head + i < 2 * r.capacity ∧ r.room[i]? = some (r.byteAt (r.head + i))
  staged : ∀ bs : Bytes, bs.length ≤ r.capacity - r.fill → (r.stage bs).contents = r.contents
  failed : ∀ op a s, r.perform op = some (a, s) → a.isFailure = true → s = r

theorem eq_of_fold {α β : Type} {f : Option α → β} {t : Attempt α} {b : β}
    (h : t.fold f = some b) : ∃ v, b = f v := by
  cases t with
  | ready v => exact ⟨some v, (Option.some.inj h).symm⟩
  | absent => exact ⟨none, (Option.some.inj h).symm⟩
  | waits => cases h

theorem perform_failed {op : Op} {a : Answer} {s : Ring} (h : r.perform op = some (a, s))
    (hf : a.isFailure = true) : s = r := by
  cases op with
  | writable | readable | waitReadable =>
    rw [perform] at h
    obtain ⟨v, hv⟩ := eq_of_fold h
    exact (Prod.mk.inj hv).2
  | write bs =>
    rw [perform] at h
    obtain ⟨v, hv⟩ := eq_of_fold h
    obtain ⟨rfl, rfl⟩ := Prod.mk.inj hv
    cases v with
    | none => rfl
    | some n => cases hf
  | acknowledge =>
    obtain ⟨rfl, -⟩ := Prod.mk.inj (Option.some.inj h)
    cases hf
  | commitWrite | tryPush | push | commitRead | popExact | clear =>
    rw [perform] at h
    split at h
    all_goals first
      | exact (Prod.mk.inj (Option.some.inj h)).2.symm
      | (obtain ⟨rfl, -⟩ := Prod.mk.inj (Option.some.inj h); cases hf)
      | cases h

theorem orderly_of_sound (hr : r.Sound) : r.Orderly where
  head_lt := hr.head_lt
  tail_lt := hr.tail_lt
  fill_le := hr.fill_le
  head_eq := hr.head_eq
  readable_run i hi := by
    have := hr.tail_lt
    have := hr.fill_le
    exact ⟨by omega, Memory.getElem?_load _ _ _ _ _ hi⟩
  length_room := Ring.length_room r
  writable_run i hi := by
    have := hr.head_lt
    exact ⟨by omega, Memory.getElem?_load _ _ _ _ _ hi⟩
  staged bs hl := stage_contents hr hl
  failed op a s h hf := perform_failed h hf

/-- One step keeps ring and queue together, so every sequence of steps does. -/
theorem run_alike (h : r.Holds q) (ops : List Op) :
    Option.Rel (fun x y => x.1 = y.1 ∧ x.2.Holds y.2) (r.run ops) (q.run ops) := by
  induction ops generalizing r q with
  | nil => exact .some ⟨rfl, h⟩
  | cons op ops ih =>
    have hp := perform_alike h op
    rw [run, Queue.run]
    generalize r.perform op = x at hp
    generalize q.perform op = y at hp
    cases hp with
    | none => exact .none
    | @some x y hxy =>
      obtain ⟨a, s⟩ := x
      obtain ⟨b, t⟩ := y
      obtain ⟨rfl, hs⟩ := hxy
      have hrun := ih hs
      dsimp only
      generalize s.run ops = x at hrun
      generalize t.run ops = y at hrun
      cases hrun with
      | none => exact .none
      | some hxy => exact .some ⟨congrArg (a :: ·) hxy.1, hxy.2⟩

theorem create_holds {id : Nat} {settings : Settings} {usable : String → Bool}
    (h : create id settings usable = .ok r) : r.Holds (.empty id r.capacity settings.mode) := by
  have hs := create_sound h
  have hroom := create_room h
  obtain ⟨-, rfl⟩ := create_eq h
  exact ⟨hs, rfl, rfl, rfl, rfl, Nat.le_refl _, (Nat.zero_mod _).symm, rfl, rfl, hroom⟩

/-- After any operations, none of which had to wait, a ring has answered as the
bounded queue has, and holds its bytes; and if one has to wait, it has to wait
on the queue too. -/
theorem run_fifo {id : Nat} {settings : Settings} {usable : String → Bool}
    (h : create id settings usable = .ok r) (ops : List Op) :
    Option.Rel (fun x y => x.1 = y.1 ∧ x.2.Holds y.2 ∧ x.2.Orderly) (r.run ops)
      ((Queue.empty id r.capacity settings.mode).run ops) := by
  have hrun := run_alike (create_holds h) ops
  generalize r.run ops = x at hrun
  generalize (Queue.empty id r.capacity settings.mode).run ops = y at hrun
  cases hrun with
  | none => exact .none
  | some hxy => exact .some ⟨hxy.1, hxy.2, orderly_of_sound hxy.2.sound⟩

/-- A commit goes beyond what was written, and the wrong writer is handed in. -/
theorem run_fifo_of_page :
    create 0 { capacity := 1 } (fun _ => true) =
        .ok ⟨0, 4096, {}, 0, 0, 0, noToken, .busyPoll, 100⟩ ∧
      ((⟨0, 4096, {}, 0, 0, 0, noToken, .busyPoll, 100⟩ : Ring).run
          [.write [1, 2, 3], .commitWrite 5, .popExact 4, .push [9, 8], .clear 1, .readable]).map
        Prod.fst =
        some [.region (some 4096), .done, .popped [1, 2, 3, 0], .done, .misused .foreignWriter,
          .data (some [0, 9, 8])] ∧
      Option.Rel (fun x y => x.1 = y.1 ∧ x.2.Holds y.2 ∧ x.2.Orderly)
        ((⟨0, 4096, {}, 0, 0, 0, noToken, .busyPoll, 100⟩ : Ring).run
          [.write [1, 2, 3], .commitWrite 5, .popExact 4, .push [9, 8], .clear 1, .readable])
        ((Queue.empty 0 4096 .busyPoll).run
          [.write [1, 2, 3], .commitWrite 5, .popExact 4, .push [9, 8], .clear 1, .readable]) := by
  have hc : create 0 { capacity := 1 } (fun _ => true) =
      .ok ⟨0, 4096, {}, 0, 0, 0, noToken, .busyPoll, 100⟩ := rfl
  refine ⟨hc, ?_, ?_⟩
  · decide +kernel
  · exact run_fifo hc _

end Ring

end RenderRelay
