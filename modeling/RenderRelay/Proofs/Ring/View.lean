import Mathlib.Data.List.Rotate
import RenderRelay.Ring

/-!
# What a ring holds

The cells of a ring, read from the reader's cursor once around, are the
committed bytes followed by the free cells in the order in which they will be
written. Staging changes the free cells alone, committing moves their front
to the committed bytes, and giving bytes back moves the front of those to the
end of the free cells.
-/

set_option autoImplicit false

namespace RenderRelay.Attempt

variable {α β : Type} {f : α → β}

theorem map_persist (f : α → β) (there : Bool) (a : α) :
    (persist there a).map f = .persist there (f a) := by
  cases there <;> rfl

theorem map_eq_ready {a : Attempt α} {b : β} (h : a.map f = .ready b) :
    ∃ x, a = .ready x ∧ f x = b := by
  cases a with
  | ready x => exact ⟨x, rfl, ready.inj h⟩
  | absent | waits => cases h

end RenderRelay.Attempt

namespace RenderRelay.Ring

namespace Memory

theorem load_add (m : Memory) (size start a b : Nat) :
    m.load size start (a + b) = m.load size start a ++ m.load size (start + a) b := by
  simp [load, List.range_add, Function.comp_def, Nat.add_assoc]

theorem load_mod (m : Memory) (size start count : Nat) :
    m.load size (start % size) count = m.load size start count := by
  simp [load]

theorem load_mod_add (m : Memory) (size start k count : Nat) :
    m.load size (start % size + k) count = m.load size (start + k) count := by
  rw [← load_mod, Nat.mod_add_mod, load_mod]

theorem load_behind (m : Memory) (size start count : Nat) :
    m.load size (start + size) count = m.load size start count := by
  rw [← load_mod, Nat.add_mod_right, load_mod]

theorem drop_load (m : Memory) (size start count n : Nat) (h : n ≤ count) :
    (m.load size start count).drop n = m.load size (start + n) (count - n) := by
  obtain ⟨k, rfl⟩ := Nat.exists_eq_add_of_le h
  rw [load_add, List.drop_left' (length_load ..), Nat.add_sub_cancel_left]

theorem getElem?_load (m : Memory) (size start count i : Nat) (hi : i < count) :
    (m.load size start count)[i]? = some (m.get ((start + i) % size)) := by
  simp [load, hi]

/-- Bytes of one store never meet: there are no more of them than cells. -/
theorem get_store (m : Memory) (size start k : Nat) (bs : Bytes)
    (hl : bs.length ≤ size) (hk : k < size) :
    (m.store size start bs).get ((start + k) % size) =
      bs[k]?.getD (m.get ((start + k) % size)) := by
  induction bs generalizing m start k with
  | nil => simp [store]
  | cons b bs ih =>
    simp only [List.length_cons] at hl
    rw [store]
    cases k with
    | zero =>
      -- The cell at the start is the last one that the rest could reach.
      have hw : (start + 1 + (size - 1)) % size = (start + 0) % size := by
        rw [show start + 1 + (size - 1) = start + size by omega, Nat.add_mod_right, Nat.add_zero]
      have h := ih (m.put (start % size) b) (start + 1) (size - 1) (by omega) (by omega)
      rw [hw] at h
      rw [h, List.getElem?_eq_none (by omega)]
      simp [get_put]
    | succ k =>
      have h := ih (m.put (start % size) b) (start + 1) k (by omega) (by omega)
      rw [show start + 1 + k = start + (k + 1) by omega] at h
      have hne : start % size ≠ (start + (k + 1)) % size := by
        intro he
        have hd := Nat.sub_mod_eq_zero_of_mod_eq he.symm
        rw [Nat.add_sub_cancel_left] at hd
        rw [Nat.mod_eq_of_lt hk] at hd
        omega
      rw [h, get_put, if_neg hne]
      simp

theorem load_store (m : Memory) (size start : Nat) (bs : Bytes) (hl : bs.length ≤ size) :
    (m.store size start bs).load size start size =
      bs ++ (m.load size start size).drop bs.length := by
  apply List.ext_getElem?
  intro i
  by_cases hi : i < size
  · rw [getElem?_load _ _ _ _ _ hi, get_store _ _ _ _ _ hl hi]
    by_cases hb : i < bs.length
    · simp [List.getElem?_append_left hb, hb]
    · rw [List.getElem?_append_right (by omega), List.getElem?_drop,
        show bs.length + (i - bs.length) = i by omega, getElem?_load _ _ _ _ _ hi,
        List.getElem?_eq_none (by omega)]
      rfl
  · rw [List.getElem?_eq_none (by simpa using hi), List.getElem?_eq_none]
    simp
    omega

end Memory

structure Sound (r : Ring) : Prop where
  capacity_pos : 0 < r.capacity
  tail_lt : r.tail < r.capacity
  fill_le : r.fill ≤ r.capacity
  head_eq : r.head = (r.tail + r.fill) % r.capacity

def room (r : Ring) : Bytes := r.memory.load r.capacity r.head r.free

@[simp] theorem length_room (r : Ring) : r.room.length = r.free := by simp [room]

variable {r : Ring}

theorem Sound.head_lt (hr : r.Sound) : r.head < r.capacity := by
  rw [hr.head_eq]
  exact Nat.mod_lt _ hr.capacity_pos

theorem Sound.fill_add_free (hr : r.Sound) : r.fill + r.free = r.capacity :=
  Nat.add_sub_of_le hr.fill_le

theorem load_head (hr : r.Sound) (n : Nat) :
    r.memory.load r.capacity (r.head + r.free) n = r.peek n := by
  rw [hr.head_eq, Memory.load_mod_add, Nat.add_assoc, hr.fill_add_free, Memory.load_behind]
  rfl

theorem room_append_contents (hr : r.Sound) :
    r.memory.load r.capacity r.head r.capacity = r.room ++ r.contents := by
  conv_lhs => rw [← hr.fill_add_free, Nat.add_comm r.fill, Memory.load_add]
  rw [Nat.add_comm r.free, hr.fill_add_free, load_head hr]
  rfl

theorem contents_append_room (hr : r.Sound) : r.peek r.capacity = r.contents ++ r.room := by
  have h := Memory.load_add r.memory r.capacity r.tail r.fill r.free
  rw [hr.fill_add_free, ← Memory.load_mod _ _ (r.tail + r.fill), ← hr.head_eq] at h
  exact h

/-! Staging -/

theorem stage_sound (hr : r.Sound) (bs : Bytes) : (r.stage bs).Sound :=
  ⟨hr.capacity_pos, hr.tail_lt, hr.fill_le, hr.head_eq⟩

theorem stage_room_contents (hr : r.Sound) {bs : Bytes} (hl : bs.length ≤ r.free) :
    (r.stage bs).room = bs ++ r.room.drop bs.length ∧ (r.stage bs).contents = r.contents := by
  have hc := hr.fill_add_free
  have h := room_append_contents (stage_sound hr bs)
  have hs := Memory.load_store r.memory r.capacity r.head bs (by omega)
  rw [room_append_contents hr, List.drop_append_of_le_length (by simpa using hl),
    ← List.append_assoc] at hs
  have he := h.symm.trans hs
  exact List.append_inj he (by simp [stage, free] at hl ⊢; omega)

theorem stage_contents (hr : r.Sound) {bs : Bytes} (hl : bs.length ≤ r.free) :
    (r.stage bs).contents = r.contents := (stage_room_contents hr hl).2

theorem stage_room (hr : r.Sound) {bs : Bytes} (hl : bs.length ≤ r.free) :
    (r.stage bs).room = bs ++ r.room.drop bs.length := (stage_room_contents hr hl).1

/-! Committing -/

def publish (r : Ring) (n : Nat) : Ring :=
  { r with head := (r.head + n) % r.capacity, fill := r.fill + n }

theorem commitWrite_eq (r : Ring) (n : Nat) :
    r.commitWrite n = if r.free < n then .error (.overrunsFree n) else .ok (r.publish n) := rfl

theorem append_eq (r : Ring) (bs : Bytes) : r.append bs = (r.stage bs).publish bs.length := rfl

theorem publish_sound (hr : r.Sound) {n : Nat} (hn : n ≤ r.free) : (r.publish n).Sound where
  capacity_pos := hr.capacity_pos
  tail_lt := hr.tail_lt
  fill_le := by
    have := hr.fill_add_free
    simp only [publish]
    omega
  head_eq := by simp [publish, hr.head_eq, Nat.add_assoc]

theorem publish_contents (hr : r.Sound) {n : Nat} (hn : n ≤ r.free) :
    (r.publish n).contents = r.contents ++ r.room.take n := by
  have h := Memory.load_add r.memory r.capacity r.tail r.fill n
  rw [← Memory.load_mod _ _ (r.tail + r.fill), ← hr.head_eq] at h
  rw [room, Memory.take_load _ _ _ _ _ hn]
  exact h

theorem publish_room {n : Nat} (hn : n ≤ r.free) : (r.publish n).room = r.room.drop n := by
  have hf : (r.publish n).free = r.free - n := by simp [publish, free, Nat.sub_sub]
  rw [room, hf, room, Memory.drop_load _ _ _ _ _ hn]
  exact Memory.load_mod ..

theorem append_sound (hr : r.Sound) {bs : Bytes} (hl : bs.length ≤ r.free) : (r.append bs).Sound :=
  publish_sound (stage_sound hr bs) hl

theorem append_contents (hr : r.Sound) {bs : Bytes} (hl : bs.length ≤ r.free) :
    (r.append bs).contents = r.contents ++ bs := by
  rw [append_eq, publish_contents (stage_sound hr bs) hl, stage_contents hr hl, stage_room hr hl,
    List.take_left]

theorem append_room (hr : r.Sound) {bs : Bytes} (hl : bs.length ≤ r.free) :
    (r.append bs).room = r.room.drop bs.length := by
  have hf : bs.length ≤ (r.stage bs).free := hl
  rw [append_eq, publish_room hf, stage_room hr hl, List.drop_left]

/-! Giving back -/

theorem skip_sound (hr : r.Sound) {n : Nat} (hn : n ≤ r.fill) : (r.skip n).Sound where
  capacity_pos := hr.capacity_pos
  tail_lt := Nat.mod_lt _ hr.capacity_pos
  fill_le := (Nat.sub_le ..).trans hr.fill_le
  head_eq := by
    simp only [skip, Nat.mod_add_mod]
    rw [Nat.add_assoc, Nat.add_sub_of_le hn, hr.head_eq]

theorem skip_contents {n : Nat} (hn : n ≤ r.fill) : (r.skip n).contents = r.contents.drop n := by
  rw [contents, peek, contents, peek, Memory.drop_load _ _ _ _ _ hn]
  exact Memory.load_mod ..

theorem skip_room (hr : r.Sound) {n : Nat} (hn : n ≤ r.fill) :
    (r.skip n).room = r.room ++ r.contents.take n := by
  have hf : (r.skip n).free = r.free + n := by
    have := hr.fill_add_free
    simp only [skip, free]
    omega
  rw [room, hf, ← peek_eq_take r n hn, ← load_head hr]
  exact Memory.load_add ..

/-! Clearing -/

def emptied (r : Ring) : Ring := { r with head := 0, tail := 0, fill := 0 }

theorem emptied_sound (hr : r.Sound) : r.emptied.Sound :=
  ⟨hr.capacity_pos, hr.capacity_pos, Nat.zero_le _, (Nat.zero_mod _).symm⟩

/-- No cell changes, so what was held is free again from the first cell on. -/
theorem emptied_room (hr : r.Sound) :
    r.emptied.room = (r.contents ++ r.room).rotate (r.capacity - r.tail) := by
  have ht := hr.tail_lt
  have h := Memory.load_add r.memory r.capacity r.tail (r.capacity - r.tail) r.tail
  rw [Nat.sub_add_cancel ht.le, Nat.add_sub_of_le ht.le] at h
  have hw := List.rotate_append_length_eq (r.memory.load r.capacity r.tail (r.capacity - r.tail))
    (r.memory.load r.capacity r.capacity r.tail)
  rw [← h, Memory.length_load] at hw
  have hz := Memory.load_behind r.memory r.capacity 0 r.tail
  have ha := Memory.load_add r.memory r.capacity 0 r.tail (r.capacity - r.tail)
  rw [Nat.zero_add] at hz ha
  rw [← contents_append_room hr, peek, hw, hz, ← ha, Nat.add_sub_of_le ht.le]
  rfl

/-! Pushing -/

theorem push_of_le {record : Bytes} (hl : record.length ≤ r.capacity) :
    r.push record = if record.length ≤ r.free then .ready (.ok (r.append record)) else .waits := by
  rw [push, if_neg (by omega), Attempt.persist]
  simp only [decide_eq_true_eq]

/-- A change to what a push neither goes by nor sets can as well be made behind it. -/
theorem push_map (change : Ring → Ring) {record : Bytes}
    (hc : (change r).capacity = r.capacity) (hf : (change r).free = r.free)
    (ha : (change r).append record = change (r.append record)) :
    (change r).push record = (r.push record).map (.map change) := by
  rw [push, push, hc, hf, ha]
  by_cases hl : r.capacity < record.length
  · rw [if_pos hl, if_pos hl]
    rfl
  · rw [if_neg hl, if_neg hl, Attempt.map_persist]
    rfl

/-! A fresh ring -/

theorem create_eq {id : Nat} {settings : Settings} {usable : String → Bool}
    (h : create id settings usable = .ok r) :
    roundToPage settings.capacity < 0xFFFFFFFF ∧
      r = ⟨id, roundToPage settings.capacity, {}, 0, 0, 0, noToken, settings.mode,
        settings.pollInterval⟩ := by
  simp only [create] at h
  split at h
  · simp at h
  · split at h
    · simp at h
    · exact ⟨by omega, (Except.ok.inj h).symm⟩

theorem create_sound {id : Nat} {settings : Settings} {usable : String → Bool}
    (h : create id settings usable = .ok r) : r.Sound := by
  obtain ⟨-, rfl⟩ := create_eq h
  have hp := roundToPage_pos settings.capacity
  exact ⟨hp, hp, Nat.zero_le _, (Nat.zero_mod _).symm⟩

theorem create_contents {id : Nat} {settings : Settings} {usable : String → Bool}
    (h : create id settings usable = .ok r) : r.contents = [] := by
  obtain ⟨-, rfl⟩ := create_eq h
  rfl

theorem create_room {id : Nat} {settings : Settings} {usable : String → Bool}
    (h : create id settings usable = .ok r) : r.room = List.replicate r.capacity 0 := by
  obtain ⟨-, rfl⟩ := create_eq h
  apply List.eq_replicate_iff.mpr
  refine ⟨by simp [free], ?_⟩
  intro b hb
  simp only [room, Memory.load, List.mem_map] at hb
  obtain ⟨i, -, rfl⟩ := hb
  simp [Memory.get]

end RenderRelay.Ring
