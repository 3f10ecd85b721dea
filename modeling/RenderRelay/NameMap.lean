/-!
# Name maps

Finite maps as lists of entries with distinct keys. The lookup laws say all
there is to know about the operations.
-/

set_option autoImplicit false

namespace RenderRelay

structure NameMap (κ α : Type) where
  entries : List (κ × α) := []
  keys_nodup : (entries.map Prod.fst).Nodup := by simp
  deriving DecidableEq, Repr

namespace NameMap

variable {κ α : Type} [DecidableEq κ]

def size (m : NameMap κ α) : Nat := m.entries.length

def isEmpty (m : NameMap κ α) : Bool := m.entries.isEmpty

def lookup (m : NameMap κ α) (k : κ) : Option α :=
  (m.entries.find? (·.1 = k)).map Prod.snd

def erase (m : NameMap κ α) (k : κ) : NameMap κ α where
  entries := m.entries.filter (·.1 ≠ k)
  keys_nodup := List.Pairwise.sublist ((List.filter_sublist).map _) m.keys_nodup

/-- Binds `k` to `a`, in place of what it was bound to. -/
def insert (m : NameMap κ α) (k : κ) (a : α) : NameMap κ α where
  entries := (k, a) :: (m.erase k).entries
  keys_nodup := by
    rw [List.map_cons, List.nodup_cons]
    refine ⟨fun h => ?_, (m.erase k).keys_nodup⟩
    obtain ⟨e, he, hk⟩ := List.mem_map.mp h
    simp only [erase, List.mem_filter, decide_eq_true_eq] at he
    exact he.2 hk

@[simp] theorem lookup_empty (k : κ) : ({} : NameMap κ α).lookup k = none := rfl

omit [DecidableEq κ] in
@[simp] theorem size_empty : ({} : NameMap κ α).size = 0 := rfl

theorem lookup_erase (m : NameMap κ α) (k j : κ) :
    (m.erase k).lookup j = if k = j then none else m.lookup j := by
  simp only [lookup, erase, List.find?_filter]
  split
  · next h =>
    subst h
    simp
  · next h =>
    congr 2
    funext e
    by_cases he : e.1 = j
    · simp [he, Ne.symm h]
    · simp [he]

theorem lookup_insert (m : NameMap κ α) (k j : κ) (a : α) :
    (m.insert k a).lookup j = if k = j then some a else m.lookup j := by
  split
  · next h => simp [lookup, insert, h]
  · next h =>
    have := lookup_erase m k j
    simp only [h, if_false] at this
    rw [← this]
    simp [lookup, insert, h]

end NameMap

end RenderRelay
