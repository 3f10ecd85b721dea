/-!
# Arenas

Values in numbered slots. A handle is a slot with the generation it had when
the value went in; taking the value out starts the next generation, so old
handles find nothing. Vacant slots wait on a stack for the next value.
-/

set_option autoImplicit false

namespace RenderRelay

structure Handle where
  index : UInt32
  generation : UInt32
  deriving DecidableEq, Repr

namespace Arena

structure Slot (α : Type) where
  generation : UInt32 := 0
  value : Option α
  deriving DecidableEq, Repr

end Arena

structure Arena (α : Type) where
  slots : List (Arena.Slot α) := []
  /-- Vacant slots, the one to be used next in front. -/
  vacant : List UInt32 := []
  /-- Number of values. -/
  count : Nat := 0
  deriving DecidableEq, Repr

namespace Arena

variable {α : Type}

def get? (a : Arena α) (h : Handle) : Option α := do
  let slot ← a.slots[h.index.toNat]?
  if slot.generation = h.generation then slot.value else none

/-- The values with their handles, in slot order. -/
def entries (a : Arena α) : List (Handle × α) :=
  a.slots.zipIdx.filterMap fun (slot, i) =>
    slot.value.map fun v => (⟨UInt32.ofNat i, slot.generation⟩, v)

def handles (a : Arena α) : List Handle := a.entries.map Prod.fst

/-- The first value, in slot order, that satisfies `p`. -/
def find? (a : Arena α) (p : α → Bool) : Option (Handle × α) := a.entries.find? (p ·.2)

/-- Puts another value in the place of the one at `h`, if there is one. -/
def set (a : Arena α) (h : Handle) (v : α) : Arena α :=
  match a.get? h with
  | none => a
  | some _ => { a with slots := a.slots.set h.index.toNat ⟨h.generation, some v⟩ }

/-- Puts a value into the slot vacated last, or into a new one. -/
def insert (a : Arena α) (v : α) : Handle × Arena α :=
  match a.vacant with
  | i :: vacant =>
    let generation := (a.slots[i.toNat]?.map Slot.generation).getD 0
    (⟨i, generation⟩,
     { slots := a.slots.set i.toNat ⟨generation, some v⟩, vacant, count := a.count + 1 })
  | [] =>
    (⟨UInt32.ofNat a.slots.length, 0⟩,
     { a with slots := a.slots ++ [⟨0, some v⟩], count := a.count + 1 })

/-- Takes out the value at `h`, if there is one, and starts the next generation. -/
def erase (a : Arena α) (h : Handle) : Arena α :=
  match a.get? h with
  | none => a
  | some _ => {
    slots := a.slots.set h.index.toNat ⟨h.generation + 1, none⟩
    vacant := h.index :: a.vacant
    count := a.count - 1 }

/-- Changes every value. -/
def map (a : Arena α) (f : α → α) : Arena α :=
  { a with slots := a.slots.map fun s => { s with value := s.value.map f } }

theorem get?_empty (h : Handle) : ({} : Arena α).get? h = none := by
  simp [get?]

theorem index_lt_of_get? {a : Arena α} {h : Handle} {v : α} (hv : a.get? h = some v) :
    h.index.toNat < a.slots.length := by
  by_cases hi : h.index.toNat < a.slots.length
  · exact hi
  · simp [get?, List.getElem?_eq_none (Nat.le_of_not_lt hi)] at hv

theorem set_of_get? {a : Arena α} {h : Handle} {w : α} (hw : a.get? h = some w) (v : α) :
    a.set h v = { a with slots := a.slots.set h.index.toNat ⟨h.generation, some v⟩ } := by
  simp only [set, hw]

theorem erase_of_get? {a : Arena α} {h : Handle} {w : α} (hw : a.get? h = some w) :
    a.erase h = {
      slots := a.slots.set h.index.toNat ⟨h.generation + 1, none⟩
      vacant := h.index :: a.vacant
      count := a.count - 1 } := by
  simp only [erase, hw]

theorem get?_set_self (a : Arena α) (h : Handle) (v : α) :
    (a.set h v).get? h = (a.get? h).map fun _ => v := by
  cases hw : a.get? h with
  | none => simp [set, hw]
  | some w => rw [set_of_get? hw]; simp [get?, index_lt_of_get? hw]

theorem get?_map (a : Arena α) (f : α → α) (h : Handle) :
    (a.map f).get? h = (a.get? h).map f := by
  simp only [get?, map, List.getElem?_map]
  cases a.slots[h.index.toNat]? with
  | none => rfl
  | some s => by_cases hg : s.generation = h.generation <;> simp [hg]

end Arena

end RenderRelay
