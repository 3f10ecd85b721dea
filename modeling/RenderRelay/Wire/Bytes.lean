import RenderRelay.Scalar

/-!
# Little-endian words

Numbers as bytes, least significant first, and the step that takes a fixed
number of bytes off the front of the input.
-/

set_option autoImplicit false

namespace RenderRelay.Wire

/-- The `k` low bytes of `n`, least significant first. -/
def bytesLE : Nat → Nat → Bytes
  | 0, _ => []
  | k + 1, n => UInt8.ofNat (n % 256) :: bytesLE k (n / 256)

def natLE : Bytes → Nat
  | [] => 0
  | b :: bs => b.toNat + 256 * natLE bs

/-- How many numbers `k` bytes can tell apart. -/
def span : Nat → Nat
  | 0 => 1
  | k + 1 => 256 * span k

@[simp] theorem length_bytesLE (k n : Nat) : (bytesLE k n).length = k := by
  induction k generalizing n with
  | zero => rfl
  | succ k ih => simp [bytesLE, ih]

theorem natLE_bytesLE (k n : Nat) : natLE (bytesLE k n) = n % span k := by
  induction k generalizing n with
  | zero => simp [bytesLE, natLE, span, Nat.mod_one]
  | succ k ih =>
    rw [bytesLE, natLE, ih, span, Nat.mod_mul]
    simp

theorem natLE_lt (bs : Bytes) : natLE bs < span bs.length := by
  induction bs with
  | nil => simp [natLE, span]
  | cons b bs ih =>
    have hb := b.toNat_lt
    rw [natLE, List.length_cons, span]
    omega

theorem bytesLE_natLE (bs : Bytes) : bytesLE bs.length (natLE bs) = bs := by
  induction bs with
  | nil => rfl
  | cons b bs ih =>
    have hb := b.toNat_lt
    rw [natLE, List.length_cons, bytesLE,
      show (b.toNat + 256 * natLE bs) % 256 = b.toNat by omega,
      show (b.toNat + 256 * natLE bs) / 256 = natLE bs by omega, ih, UInt8.ofNat_toNat]

/-- The first `n` bytes and the rest, if there are that many. -/
def chop (n : Nat) (bs : Bytes) : Option (Bytes × Bytes) :=
  let front := bs.take n
  if front.length = n then some (front, bs.drop n) else none

theorem chop_append (front rest : Bytes) :
    chop front.length (front ++ rest) = some (front, rest) := by
  simp [chop]

theorem chop_eq_some_iff (n : Nat) (bs front rest : Bytes) :
    chop n bs = some (front, rest) ↔ front.length = n ∧ bs = front ++ rest := by
  constructor
  · intro h
    simp only [chop] at h
    split at h
    · next hn =>
      obtain ⟨rfl, rfl⟩ := by simpa using h
      exact ⟨hn, (List.take_append_drop n bs).symm⟩
    · simp at h
  · rintro ⟨rfl, rfl⟩
    exact chop_append front rest

theorem chop_eq_none_iff (n : Nat) (bs : Bytes) : chop n bs = none ↔ bs.length < n := by
  simp only [chop, List.length_take]
  split <;> simp <;> omega

end RenderRelay.Wire
