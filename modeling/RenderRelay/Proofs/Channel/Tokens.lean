import RenderRelay.Proofs.Engine.Direct

/-!
# The order of tokens

Tokens come around after all 32-bit numbers but one. Among neighbours, no more
than half of them apart, the comparison of two tokens tells which was given
out first; the token of no record counts as given out before all.
-/

set_option autoImplicit false

namespace RenderRelay

theorem toNat_nextToken (t : UInt32) :
    (nextToken t).toNat = if t.toNat = 4294967295 then 1 else t.toNat + 1 := by
  have ht := t.toNat_lt
  have hone : (1 : UInt32).toNat = 1 := rfl
  have hzero : Ring.noToken.toNat = 0 := rfl
  rw [nextToken]
  by_cases hw : t.toNat = 4294967295
  · have hwrap : t + 1 = Ring.noToken := by
      rw [← UInt32.toNat_inj, UInt32.toNat_add, hw]
      rfl
    rw [if_pos hwrap, if_pos hw, hone]
  · have hnext : (t + 1).toNat = t.toNat + 1 := by
      rw [UInt32.toNat_add, hone]
      omega
    have hne : t + 1 ≠ Ring.noToken := by
      intro h
      rw [h, hzero] at hnext
      omega
    rw [if_neg hne, if_neg hw, hnext]

theorem toNat_tokenAfter (k : Nat) : (tokenAfter (k + 1)).toNat = k % 4294967295 + 1 := by
  induction k with
  | zero => rfl
  | succ k ih =>
    rw [tokenAfter_succ, toNat_nextToken, ih]
    split <;> omega

/-- How far two tokens may be apart for their order to be told: half of all numbers but two. -/
def tokenSpan : Nat := 0x7FFFFFFE

structure TokensOrdered : Prop where
  /-- No command has the token of no record. -/
  ne_noToken : ∀ i, tokenAfter (i + 1) ≠ Ring.noToken
  /-- Among as many tokens in a row as there are no two are the same. -/
  distinct : ∀ i j, i < j → j - i < 0xFFFFFFFF → tokenAfter (i + 1) ≠ tokenAfter (j + 1)
  /-- A token is reached by itself and by those given out after it, and by no others. -/
  reached_iff : ∀ i j, 1 ≤ i → i ≤ j + tokenSpan → j ≤ i + tokenSpan →
    (tokenReached (tokenAfter j) (tokenAfter i) = true ↔ i ≤ j)

theorem tokenAfter_ne_noToken (i : Nat) : tokenAfter (i + 1) ≠ Ring.noToken := by
  rw [tokenAfter_succ]
  exact nextToken_ne _

theorem tokenAfter_ne {i j : Nat} (hij : i < j) (hspan : j - i < 0xFFFFFFFF) :
    tokenAfter (i + 1) ≠ tokenAfter (j + 1) := by
  intro h
  have hnumber := congrArg UInt32.toNat h
  rw [toNat_tokenAfter, toNat_tokenAfter] at hnumber
  omega

theorem tokenReached_noToken {i : Nat} (hi : i < tokenSpan) :
    tokenReached Ring.noToken (tokenAfter (i + 1)) = false := by
  have hzero : Ring.noToken.toNat = 0 := rfl
  rw [tokenSpan] at hi
  rw [tokenReached, decide_eq_false_iff_not, UInt32.toNat_sub, toNat_tokenAfter, hzero]
  omega

theorem tokenReached_tokenAfter {i j : Nat} (hi : 1 ≤ i) (hij : i ≤ j + tokenSpan)
    (hji : j ≤ i + tokenSpan) : tokenReached (tokenAfter j) (tokenAfter i) = true ↔ i ≤ j := by
  obtain ⟨i, rfl⟩ := Nat.exists_eq_add_of_le' hi
  cases j with
  | zero =>
    have hnone : tokenReached (tokenAfter 0) (tokenAfter (i + 1)) = false :=
      tokenReached_noToken (by omega)
    simp [hnone]
  | succ j =>
    rw [tokenSpan] at hij hji
    -- Between the two the numbers come around once at most.
    have hturns : j / 4294967295 = i / 4294967295 ∨ j / 4294967295 = i / 4294967295 + 1 ∨
        i / 4294967295 = j / 4294967295 + 1 := by omega
    rw [tokenReached, decide_eq_true_eq, UInt32.toNat_sub, toNat_tokenAfter, toNat_tokenAfter]
    rcases hturns with h | h | h <;> omega

theorem tokensOrdered : TokensOrdered where
  ne_noToken := tokenAfter_ne_noToken
  distinct _ _ hij hspan := tokenAfter_ne hij hspan
  reached_iff _ _ hi hij hji := tokenReached_tokenAfter hi hij hji

end RenderRelay
