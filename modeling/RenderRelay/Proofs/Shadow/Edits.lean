import Mathlib.Data.List.Induction
import RenderRelay.Proofs.Shadow.Attribs

/-!
# Vertex attributes after any edits

A list of descriptors stands for a map that has one at every index. The list
has those up to the highest index that was touched, each of them with all that
was done to it, wherever it was stored at the time. Embedded storage is left
just when it is too small, and from then on each growth makes an array.
-/

set_option autoImplicit false

namespace RenderRelay.AttribList

/-! ## Storage that fits -/

def Storage.Fits (n : Nat) : Storage → Prop
  | embedded _ => n ≤ embeddedCount
  | heap slots => slots.size = n ∧ embeddedCount < n

def stored (l : AttribList) : List VertexAttrib :=
  match l.storage with
  | .embedded slots => slots.toList.take l.count
  | .heap slots => slots.toList

structure Exact (l : AttribList) : Prop where
  sound : l.Sound
  fits : l.storage.Fits l.count

theorem empty_exact : ({} : AttribList).Exact where
  sound := empty_sound
  fits := Nat.zero_le _

variable {l : AttribList}

theorem Storage.fits_set {s : Storage} {n : Nat} (hs : s.Fits n) (i : Nat) (a : VertexAttrib) :
    (s.set i a).Fits n := by
  cases s with
  | embedded slots => exact hs
  | heap slots => exact ⟨Array.size_setIfInBounds.trans hs.1, hs.2⟩

theorem Storage.fits_map {s : Storage} {n : Nat} (hs : s.Fits n)
    (f : VertexAttrib → VertexAttrib) : (s.map f).Fits n := by
  cases s with
  | embedded slots => exact hs
  | heap slots => exact ⟨(Array.size_map ..).trans hs.1, hs.2⟩

theorem isEmbedded_iff (hl : l.Exact) : l.isEmbedded = true ↔ l.count ≤ embeddedCount := by
  have hfits := hl.fits
  unfold isEmbedded
  cases hs : l.storage with
  | embedded slots =>
    rw [hs] at hfits
    exact ⟨fun _ => hfits, fun _ => rfl⟩
  | heap slots =>
    rw [hs] at hfits
    exact ⟨Bool.noConfusion, fun h => absurd hfits.2 (Nat.not_lt_of_le h)⟩

theorem length_stored (hl : l.Exact) : l.stored.length = l.count := by
  have hfits := hl.fits
  unfold stored
  cases hs : l.storage with
  | embedded slots =>
    rw [hs] at hfits
    rw [List.length_take, Vector.length_toList]
    exact Nat.min_eq_left hfits
  | heap slots =>
    rw [hs] at hfits
    exact hfits.1

theorem getElem?_stored (hl : l.Exact) (i : Nat) : l.stored[i]? = l.get? i := by
  have hfits := hl.fits
  unfold stored get?
  cases hs : l.storage with
  | embedded slots =>
    rw [hs] at hfits
    rw [List.getElem?_take]
    by_cases hi : i < l.count
    · have hslot : i < embeddedCount := Nat.lt_of_lt_of_le hi hfits
      simp [Storage.get, hi, hslot]
    · rw [if_neg hi, if_neg hi]
  | heap slots =>
    rw [hs] at hfits
    by_cases hi : i < l.count
    · have hslot : i < slots.size := hfits.1 ▸ hi
      simp [Storage.get, hi, hslot]
    · have hslot : slots.size ≤ i := by
        have hsize := hfits.1
        omega
      simp [hi, hslot]

/-! ## Growing -/

theorem count_growTo (l : AttribList) (n : Nat) : (l.growTo n).count = n := by
  unfold growTo
  split <;> rfl

theorem embedded_growing_iff (hl : l.Exact) {n : Nat} (hn : l.count ≤ n) :
    (n ≤ embeddedCount && l.isEmbedded) = true ↔ n ≤ embeddedCount := by
  rw [Bool.and_eq_true, decide_eq_true_eq, isEmbedded_iff hl]
  omega

theorem growTo_exact (hl : l.Exact) {n : Nat} (hn : l.count ≤ n) : (l.growTo n).Exact where
  sound := growTo_sound hl.sound hn
  fits := by
    have hiff := embedded_growing_iff hl hn
    unfold growTo
    split
    · next h =>
      have hsmall := hiff.mp h
      cases hs : l.storage with
      | embedded slots => exact hsmall
      | heap slots =>
        have hfits := hl.fits
        rw [hs] at hfits
        have hlarge := hfits.2
        omega
    · next h =>
      refine ⟨?_, Nat.lt_of_not_le fun hsmall => h (hiff.mpr hsmall)⟩
      rw [List.size_toArray, List.length_append, length_toList, List.length_replicate]
      exact Nat.add_sub_cancel' hn

theorem touch_exact (hl : l.Exact) (i : Nat) : (l.touch i).Exact := by
  unfold touch
  split
  · exact hl
  · exact growTo_exact hl (by omega)

def outgrownBy (l : AttribList) (i : Nat) : Bool := l.count ≤ i && embeddedCount ≤ i

/-- Only growth that the embedded slots have no room for makes an array. -/
theorem heapAllocations_touch (hl : l.Exact) (i : Nat) :
    (l.touch i).heapAllocations = l.heapAllocations + if l.outgrownBy i then 1 else 0 := by
  unfold touch outgrownBy
  split
  · next hi => simp [Nat.not_le_of_lt hi]
  · next hi =>
    have hiff := embedded_growing_iff hl (n := i + 1) (by omega)
    unfold growTo
    split
    · next h =>
      have hsmall := hiff.mp h
      simp [Nat.not_le_of_lt hsmall]
    · next h =>
      have hlarge : embeddedCount ≤ i := Nat.le_of_not_lt fun hsmall => h (hiff.mpr hsmall)
      simp [Nat.le_of_not_lt hi, hlarge]

/-- The descriptors that were touched stay, and those that come new are default ones. -/
theorem get?_growTo (hl : l.Sound) {n : Nat} (hn : l.count ≤ n) (i : Nat) :
    (l.growTo n).get? i = if i < l.count then l.get? i else if i < n then some {} else none := by
  rw [get?, count_growTo, get_growTo hl, get?]
  by_cases hi : i < l.count
  · rw [if_pos hi, if_pos hi, if_pos (by omega)]
  · rw [if_neg hi, hl.blank i (by omega)]

theorem get?_touch (hl : l.Sound) (i j : Nat) :
    (l.touch i).get? j = if j < l.count then l.get? j else if j ≤ i then some {} else none := by
  unfold touch
  split
  · next hi =>
    split
    · rfl
    · next hj => rw [if_neg (by omega), get?, if_neg hj]
  · next hi =>
    rw [get?_growTo hl (by omega)]
    simp only [Nat.lt_succ_iff]

theorem get?_update_of_ne (hl : l.Sound) {i j : Nat} (hj : j ≠ i)
    (f : VertexAttrib → VertexAttrib) :
    (l.update i f).get? j = if j < l.count then l.get? j else if j < i then some {} else none := by
  have hcount := count_touch l i
  have hroom : i < (l.touch i).storage.size := by
    have hle := (touch_sound hl i).count_le
    omega
  have hsame : (l.update i f).get? j = (l.touch i).get? j := by
    simp only [get?, update, Storage.get_set _ hroom, if_neg hj]
  have hlt : j ≤ i ↔ j < i := by omega
  rw [hsame, get?_touch hl]
  simp only [hlt]

/-! ## Edits -/

inductive Edit where
  | update (i : Nat) (f : VertexAttrib → VertexAttrib)
  | forgetBuffer (buffer : UInt32)

namespace Edit

def index? : Edit → Option Nat
  | update i _ => some i
  | forgetBuffer _ => none

def apply (e : Edit) (i : Nat) (a : VertexAttrib) : VertexAttrib :=
  match e with
  | update j f => if i = j then f a else a
  | forgetBuffer buffer => if a.buffer = buffer then { a with buffer := 0 } else a

end Edit

def edit (l : AttribList) : Edit → AttribList
  | .update i f => l.update i f
  | .forgetBuffer buffer => l.forgetBuffer buffer

def run (l : AttribList) (edits : List Edit) : AttribList := edits.foldl edit l

def moments (l : AttribList) : List Edit → List (AttribList × Edit)
  | [] => []
  | e :: edits => (l, e) :: (l.edit e).moments edits

/-- The descriptor that the map of all indices has at `i`: the default one,
after what was done to it and the buffers that were forgotten. -/
def described (edits : List Edit) (i : Nat) : VertexAttrib :=
  edits.foldl (fun a e => e.apply i a) {}

structure Refines (edits : List Edit) (l : AttribList) : Prop where
  get?_eq : ∀ i, l.get? i = if i < l.count then some (described edits i) else none
  count_eq : l.count = ((edits.filterMap Edit.index?).max?.map (· + 1)).getD 0
  getElem?_stored : ∀ i, l.stored[i]? = l.get? i
  length_stored : l.stored.length = l.count
  toList_eq : l.toList = l.stored
  isEmbedded_iff : l.isEmbedded = true ↔ l.count ≤ embeddedCount
  heapAllocations_eq : l.heapAllocations =
    (moments {} edits).countP fun (m, e) => e.index?.any m.outgrownBy
  /-- Wherever the descriptors move, only that of the update changes. -/
  others : ∀ i f j, j ≠ i → (l.update i f).get? j =
    if j < l.count then l.get? j else if j < i then some {} else none

/-! ## Runs -/

theorem run_concat (edits : List Edit) (e : Edit) :
    l.run (edits ++ [e]) = (l.run edits).edit e := List.foldl_append

theorem described_concat (edits : List Edit) (e : Edit) (i : Nat) :
    described (edits ++ [e]) i = e.apply i (described edits i) := List.foldl_append

theorem moments_concat (l : AttribList) (edits : List Edit) (e : Edit) :
    l.moments (edits ++ [e]) = l.moments edits ++ [(l.run edits, e)] := by
  induction edits generalizing l with
  | nil => rfl
  | cons first edits ih => exact congrArg (_ :: ·) (ih (l.edit first))

theorem max?_concat (is : List Nat) (i : Nat) :
    (is ++ [i]).max? = some (max (is.max?.getD i) i) := by
  cases is with
  | nil => exact congrArg some (Nat.max_self i).symm
  | cons j is =>
    rw [List.cons_append, List.max?_cons', List.max?_cons', List.foldl_append]
    rfl

theorem edit_exact (hl : l.Exact) (e : Edit) : (l.edit e).Exact := by
  cases e with
  | update i f =>
    exact ⟨update_sound hl.sound i f, Storage.fits_set (touch_exact hl i).fits i _⟩
  | forgetBuffer buffer =>
    exact ⟨forgetBuffer_sound hl.sound buffer, Storage.fits_map hl.fits _⟩

theorem get_edit (hl : l.Sound) (e : Edit) (i : Nat) : (l.edit e).get i = e.apply i (l.get i) := by
  cases e with
  | update j f =>
    rw [edit, get_update hl, Edit.apply]
    split
    · next h => rw [h]
    · rfl
  | forgetBuffer buffer => exact get_forgetBuffer hl buffer i

theorem exact_run (edits : List Edit) : (({} : AttribList).run edits).Exact := by
  induction edits using List.reverseRecOn with
  | nil => exact empty_exact
  | append_singleton edits e ih =>
    rw [run_concat]
    exact edit_exact ih e

theorem get_run (edits : List Edit) (i : Nat) :
    (({} : AttribList).run edits).get i = described edits i := by
  induction edits using List.reverseRecOn with
  | nil => rfl
  | append_singleton edits e ih =>
    rw [run_concat, get_edit (exact_run edits).sound, ih, described_concat]

theorem count_run (edits : List Edit) : (({} : AttribList).run edits).count =
    ((edits.filterMap Edit.index?).max?.map (· + 1)).getD 0 := by
  induction edits using List.reverseRecOn with
  | nil => rfl
  | append_singleton edits e ih =>
    rw [run_concat, List.filterMap_append]
    cases e with
    | update i f =>
      have hindex : [Edit.update i f].filterMap Edit.index? = [i] := rfl
      rw [edit, count_update, ih, hindex, max?_concat]
      cases (edits.filterMap Edit.index?).max? with
      | none => simp
      | some j => simp [Nat.succ_max_succ]
    | forgetBuffer buffer =>
      have hindex : [Edit.forgetBuffer buffer].filterMap Edit.index? = [] := rfl
      rw [hindex, List.append_nil]
      exact ih

theorem heapAllocations_run (edits : List Edit) :
    (({} : AttribList).run edits).heapAllocations =
      (moments {} edits).countP fun (m, e) => e.index?.any m.outgrownBy := by
  induction edits using List.reverseRecOn with
  | nil => rfl
  | append_singleton edits e ih =>
    rw [run_concat, moments_concat, List.countP_append, List.countP_singleton, ← ih]
    cases e with
    | update i f => exact heapAllocations_touch (exact_run edits) i
    | forgetBuffer buffer => rfl

/-- After any edits of a new list it is what they make of a map of all indices. -/
theorem run_refines (edits : List Edit) : Refines edits (({} : AttribList).run edits) := by
  have hl := exact_run edits
  constructor
  case get?_eq =>
    intro i
    rw [get?, ← hl.sound.get_eq, get_run]
  case count_eq => exact count_run edits
  case getElem?_stored => exact getElem?_stored hl
  case length_stored => exact length_stored hl
  case toList_eq =>
    apply List.ext_getElem?
    intro i
    rw [getElem?_toList, getElem?_stored hl]
  case isEmbedded_iff => exact isEmbedded_iff hl
  case heapAllocations_eq => exact heapAllocations_run edits
  case others => exact fun i f j hj => get?_update_of_ne hl.sound hj f

example : (({} : AttribList).run [.update 3 id, .update 40 id, .forgetBuffer 5, .update 41 id,
    .update 10 id]).heapAllocations = 2 := by decide

end RenderRelay.AttribList
