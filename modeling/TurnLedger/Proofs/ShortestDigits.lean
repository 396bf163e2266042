import Mathlib
import TurnLedger.Decimal.Shortest

/-!
# Bounds on the shortest digits

The digits the writer gives a double `m * 2 ^ e` lie within its rounding interval, ends
included: `compareScaled` compares exactly (`compareScaled_ne_gt`), so a decimal that
`inInterval` accepts is between the interval's ends (`inInterval_bounds`), and the search
returns such a decimal or the mantissa itself (`searchDigits_cases`). Removing trailing zeros
keeps the value (`normalize_value`). So the shortest digits of a positive mantissa are positive
and at most half a unit above the double, or the mantissa itself (`shortestOf_bound`).
-/

namespace TurnLedger.Decimal


theorem compareScaled_ne_gt {a b : Nat} {p q p' q' : Int} :
    compareScaled a p q b p' q' ≠ .gt ↔
      (a : ℚ) * 2 ^ p * 10 ^ q ≤ (b : ℚ) * 2 ^ p' * 10 ^ q' := by
  unfold compareScaled
  dsimp only
  rw [Ne, Nat.compare_eq_gt, Nat.not_lt]
  -- both sides are the Nat sides scaled by `2 ^ p0 * 10 ^ q0`
  have hscale : ∀ (c : Nat) (r s : Int), min p p' ≤ r → min q q' ≤ s →
      (c : ℚ) * 2 ^ r * 10 ^ s =
        ((c * Nat.pow 2 (r - min p p').toNat * Nat.pow 10 (s - min q q').toNat : Nat) : ℚ) *
          (2 ^ min p p' * 10 ^ min q q') := by
    intro c r s hr hs
    have h2 : (2 : ℚ) ^ r = 2 ^ (r - min p p').toNat * 2 ^ min p p' := by
      rw [← zpow_natCast, ← zpow_add₀ (by norm_num)]
      congr 1
      omega
    have h10 : (10 : ℚ) ^ s = 10 ^ (s - min q q').toNat * 10 ^ min q q' := by
      rw [← zpow_natCast, ← zpow_add₀ (by norm_num)]
      congr 1
      omega
    rw [h2, h10]
    push_cast [Nat.pow_eq]
    ring
  rw [hscale a p q (min_le_left _ _) (min_le_left _ _),
    hscale b p' q' (min_le_right _ _) (min_le_right _ _)]
  have hpos : (0 : ℚ) < 2 ^ min p p' * 10 ^ min q q' := by positivity
  rw [mul_le_mul_iff_of_pos_right hpos, Nat.cast_le]

theorem inInterval_bounds {m c : Nat} {e k : Int} (h : inInterval m e c k = true) :
    ∃ gap ≤ 2, ((4 * m - gap : Nat) : ℚ) * 2 ^ (e - 2) ≤ (c : ℚ) * 10 ^ k ∧
      (c : ℚ) * 10 ^ k ≤ ((4 * m + 2 : Nat) : ℚ) * 2 ^ (e - 2) := by
  revert h
  unfold inInterval roundingInterval
  dsimp only
  generalize hgap : (if (m == Nat.pow 2 52 && decide (e > -1074)) = true then 1 else 2) = gap
  intro h
  simp only [Bool.and_eq_true, Bool.or_eq_true, beq_iff_eq] at h
  obtain ⟨hlo, hhi⟩ := h
  have hlo' := compareScaled_ne_gt.1 (by rcases hlo with h | ⟨-, h⟩ <;> rw [h] <;> decide)
  have hhi' := compareScaled_ne_gt.1 (by rcases hhi with h | ⟨-, h⟩ <;> rw [h] <;> decide)
  simp only [zpow_zero, mul_one] at hlo' hhi'
  refine ⟨gap, by rw [← hgap]; split <;> omega, hlo', hhi'⟩

theorem searchDigits_cases (m : Nat) (e E : Int) :
    ∀ fuel n, searchDigits m e E fuel n = ⟨m, 0⟩ ∨
      inInterval m e (searchDigits m e E fuel n).digits (searchDigits m e E fuel n).exponent = true
  | 0, _ => .inl rfl
  | fuel + 1, n => by
    rw [searchDigits]
    dsimp only
    split
    · -- both neighbours in the interval: the nearer is taken, either way one of them
      rename_i hboth
      rw [Bool.and_eq_true] at hboth
      right
      dsimp only
      split
      · exact hboth.1
      · split
        · exact hboth.2
        · split
          · exact hboth.1
          · exact hboth.2
    · split
      · exact .inr ‹_›
      · split
        · exact .inr ‹_›
        · exact searchDigits_cases m e E fuel (n + 1)

theorem normalize_value : ∀ (fuel : Nat) (s : Shortest),
    ((Shortest.normalize fuel s).digits : ℚ) * 10 ^ (Shortest.normalize fuel s).exponent =
        (s.digits : ℚ) * 10 ^ s.exponent ∧
      (s.digits ≠ 0 → (Shortest.normalize fuel s).digits ≠ 0)
  | 0, _ => ⟨rfl, id⟩
  | fuel + 1, s => by
    rw [Shortest.normalize]
    split_ifs with h
    · simp only [Bool.and_eq_true, bne_iff_ne, ne_eq, beq_iff_eq] at h
      obtain ⟨hv, hnz⟩ := normalize_value fuel ⟨s.digits / 10, s.exponent + 1⟩
      refine ⟨?_, fun _ => hnz (by dsimp only; omega)⟩
      rw [hv, zpow_add_one₀ (by norm_num)]
      have hq : s.digits / 10 * 10 = s.digits := Nat.div_mul_cancel (Nat.dvd_of_mod_eq_zero h.2)
      conv_rhs => rw [← hq]
      push_cast
      ring
    · exact ⟨rfl, id⟩

/-- The shortest digits of a positive `m * 2 ^ e` are nonzero, and their value is at most the top
of its rounding interval, `(m + 1 / 2) * 2 ^ e`, or the mantissa itself when the search found
nothing. -/
theorem shortestOf_bound {m : Nat} (hm : 0 < m) (e : Int) :
    0 < (shortestOf m e).digits ∧
      (((shortestOf m e).digits : ℚ) * 10 ^ (shortestOf m e).exponent ≤
          (2 * m + 1) * 2 ^ (e - 1) ∨
        ((shortestOf m e).digits : ℚ) * 10 ^ (shortestOf m e).exponent = m) := by
  unfold shortestOf
  dsimp only
  have hcases := searchDigits_cases m e (decimalExponent m e) 17 1
  generalize searchDigits m e (decimalExponent m e) 17 1 = r at hcases ⊢
  obtain ⟨hv, hnz⟩ := normalize_value 20 r
  rw [hv]
  rcases hcases with rfl | h
  · -- no count of digits found a decimal: the mantissa stands for itself
    exact ⟨Nat.pos_of_ne_zero (hnz (by dsimp only; omega)), .inr (by simp)⟩
  · obtain ⟨gap, hgap, hlo, hhi⟩ := inInterval_bounds h
    -- the interval lies above zero, so its decimal is not zero
    have hr : r.digits ≠ 0 := by
      intro h0
      rw [h0, Nat.cast_zero, zero_mul] at hlo
      have : (0 : ℚ) < ((4 * m - gap : Nat) : ℚ) * 2 ^ (e - 2) := by
        have : 0 < 4 * m - gap := by omega
        positivity
      linarith
    refine ⟨Nat.pos_of_ne_zero (hnz hr), .inl ?_⟩
    have htop : ((4 * m + 2 : Nat) : ℚ) * 2 ^ (e - 2) = (2 * m + 1) * 2 ^ (e - 1) := by
      rw [show e - 1 = (e - 2) + 1 by ring, zpow_add_one₀ (by norm_num)]
      push_cast
      ring
    linarith

end TurnLedger.Decimal
