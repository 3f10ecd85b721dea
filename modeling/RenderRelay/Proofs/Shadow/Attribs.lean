import RenderRelay.Shadow.Attribs

/-!
# Vertex attributes as a function of the index

Every index has a descriptor, the default one until it is changed. Where the
descriptors are stored and when they move shows nowhere: an update changes
the descriptor at its index and no other.
-/

set_option autoImplicit false

namespace RenderRelay.AttribList

namespace Storage

def size : Storage → Nat
  | embedded _ => embeddedCount
  | heap slots => slots.size

theorem get_set (s : Storage) {i : Nat} (hi : i < s.size) (a : VertexAttrib) (j : Nat) :
    (s.set i a).get j = if j = i then a else s.get j := by
  cases s with
  | embedded slots =>
    have hi : i < embeddedCount := hi
    by_cases h : j = i
    · simp [set, get, h, hi]
    · simp [set, get, h, Ne.symm h]
  | heap slots =>
    have hi : i < slots.size := hi
    by_cases h : j = i
    · simp [set, get, h, hi]
    · simp [set, get, h, Ne.symm h]

@[simp] theorem size_set (s : Storage) (i : Nat) (a : VertexAttrib) :
    (s.set i a).size = s.size := by
  cases s with
  | embedded slots => rfl
  | heap slots => simp [set, size]

theorem get_map (s : Storage) {f : VertexAttrib → VertexAttrib} (hf : f {} = {}) (j : Nat) :
    (s.map f).get j = f (s.get j) := by
  cases s with
  | embedded slots =>
    simp only [map, get, Vector.toArray_map, Array.getD_eq_getD_getElem?, Array.getElem?_map]
    cases slots.toArray[j]? with
    | none => exact hf.symm
    | some a => rfl
  | heap slots =>
    simp only [map, get, Array.getD_eq_getD_getElem?, Array.getElem?_map]
    cases slots[j]? with
    | none => exact hf.symm
    | some a => rfl

@[simp] theorem size_map (s : Storage) (f : VertexAttrib → VertexAttrib) :
    (s.map f).size = s.size := by
  cases s with
  | embedded slots => rfl
  | heap slots => simp [map, size]

end Storage

/-- There is room for all that was touched, and the rest is as it was at first. -/
structure Sound (l : AttribList) : Prop where
  count_le : l.count ≤ l.storage.size
  blank : ∀ i, l.count ≤ i → l.storage.get i = {}

theorem empty_sound : ({} : AttribList).Sound where
  count_le := Nat.zero_le _
  blank i _ := by
    simp only [Storage.get, Array.getD_eq_getD_getElem?, Vector.toArray_replicate,
      Array.getElem?_replicate]
    split <;> rfl

variable {l : AttribList}

theorem Sound.get_eq (hl : l.Sound) (i : Nat) : l.get i = l.storage.get i := by
  unfold get get?
  split
  · rfl
  · next hi => exact (hl.blank i (Nat.le_of_not_lt hi)).symm

/-! Growing -/

theorem getElem?_toList (l : AttribList) (i : Nat) : l.toList[i]? = l.get? i := by
  by_cases hi : i < l.count
  · simp [toList, get?, hi]
  · simp [toList, get?, hi]

/-- A new array has the descriptors of the old storage, and default ones behind them. -/
theorem get_growTo (hl : l.Sound) (n i : Nat) :
    (l.growTo n).storage.get i = l.storage.get i := by
  unfold growTo
  split
  · rfl
  · rw [← hl.get_eq i, get, ← getElem?_toList]
    simp only [Storage.get, Array.getD_eq_getD_getElem?, List.getElem?_toArray]
    by_cases hi : i < l.toList.length
    · rw [List.getElem?_append_left hi]
    · rw [List.getElem?_append_right (Nat.le_of_not_lt hi),
        List.getElem?_eq_none (Nat.le_of_not_lt hi), List.getElem?_replicate]
      split <;> rfl

theorem growTo_sound (hl : l.Sound) {n : Nat} (hn : l.count ≤ n) : (l.growTo n).Sound where
  count_le := by
    unfold growTo
    split
    · next h =>
      simp only [isEmbedded, Bool.and_eq_true, decide_eq_true_eq] at h
      cases hs : l.storage with
      | embedded slots => exact h.1
      | heap slots =>
        rw [hs] at h
        cases h.2
    · simp only [Storage.size, List.size_toArray, List.length_append, length_toList,
        List.length_replicate]
      omega
  blank i hi := by
    have hc : (l.growTo n).count = n := by
      unfold growTo
      split <;> rfl
    rw [get_growTo hl]
    exact hl.blank i (by omega)

theorem get_touch (hl : l.Sound) (i j : Nat) : (l.touch i).storage.get j = l.storage.get j := by
  unfold touch
  split
  · rfl
  · exact get_growTo hl (i + 1) j

theorem touch_sound (hl : l.Sound) (i : Nat) : (l.touch i).Sound := by
  unfold touch
  split
  · exact hl
  · exact growTo_sound hl (by omega)

/-! Changing -/

theorem update_sound (hl : l.Sound) (i : Nat) (f : VertexAttrib → VertexAttrib) :
    (l.update i f).Sound := by
  have ht := touch_sound hl i
  have hc := count_touch l i
  have hi : i < (l.touch i).storage.size := by
    have := ht.count_le
    omega
  constructor
  case count_le => exact (Storage.size_set _ _ _).symm ▸ ht.count_le
  case blank =>
    intro j hj
    have hj : (l.touch i).count ≤ j := hj
    have hne : j ≠ i := by omega
    simp only [update, Storage.get_set _ hi, if_neg hne]
    exact ht.blank j hj

theorem get_update (hl : l.Sound) (i : Nat) (f : VertexAttrib → VertexAttrib) (j : Nat) :
    (l.update i f).get j = if j = i then f (l.get i) else l.get j := by
  have ht := touch_sound hl i
  have hc := count_touch l i
  have hi : i < (l.touch i).storage.size := by
    have := ht.count_le
    omega
  rw [(update_sound hl i f).get_eq, hl.get_eq, hl.get_eq]
  simp only [update, Storage.get_set _ hi, get_touch hl]

/-! Forgetting a buffer -/

theorem forgetBuffer_sound (hl : l.Sound) (buffer : UInt32) : (l.forgetBuffer buffer).Sound where
  count_le := (Storage.size_map _ _).symm ▸ hl.count_le
  blank i hi := by
    rw [forgetBuffer, Storage.get_map _ (by split <;> rfl), hl.blank i hi]
    split <;> rfl

theorem get_forgetBuffer (hl : l.Sound) (buffer : UInt32) (i : Nat) :
    (l.forgetBuffer buffer).get i =
      if (l.get i).buffer = buffer then { l.get i with buffer := 0 } else l.get i := by
  rw [(forgetBuffer_sound hl buffer).get_eq, hl.get_eq, forgetBuffer,
    Storage.get_map _ (by split <;> rfl)]

end RenderRelay.AttribList
