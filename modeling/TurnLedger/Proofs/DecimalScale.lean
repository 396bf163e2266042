import Mathlib
import TurnLedger.Decimal.Read
import TurnLedger.Proofs.BinaryRounding

/-!
# Decimals composed into doubles

The reader turns a significand `sig` and a decimal exponent `e` into a double by rounding `sig`
and `10 ^ |e|` to doubles (`nearestDouble`) and multiplying or dividing them. A division never
overflows (`scaleRounds_neg`). A product overflows only near the top of the range: each
rounding is at most `2 ^ 53 / (2 ^ 53 - 1)` times the exact value (`nearestDouble_unpack`), so
a decimal whose value leaves room for both (`Composable`) gives a finite product
(`scaleRounds_pos`). Every decimal the reader composes with an exponent at most zero, or within
that room, gives a double (`scaleByTen_isSome`).
-/

open Float.Model Float.Model.UnpackedFloat

namespace TurnLedger.Decimal

theorem roundHalfEven_bounds (a b : Nat) (hb : 0 < b) :
    a / b ≤ roundHalfEven a b ∧ roundHalfEven a b ≤ a / b + 1 ∧
      2 * (roundHalfEven a b * b) ≤ 2 * a + b := by
  have hsplit := Nat.div_add_mod a b
  have hmod := Nat.mod_lt a hb
  unfold roundHalfEven
  generalize a / b = q at hsplit ⊢
  generalize a % b = r at hsplit hmod ⊢
  subst hsplit
  dsimp only
  split_ifs <;> refine ⟨by omega, by omega, ?_⟩ <;> rw [Nat.mul_comm] <;> nlinarith

theorem roundHalfEven_one (a : Nat) : roundHalfEven a 1 = a := by
  simp [roundHalfEven, Nat.mod_one]

/-- The mantissa `nearestDouble` rounds a positive integer to, at the exponent that leaves its
leading bit in place 52: `n` itself shifted left when it has at most 53 bits, `n / 2 ^ k`
rounded half to even otherwise. -/
theorem roundScaled_log2 {n : Nat} (hn : 0 < n) :
    2 ^ 52 ≤ roundScaled n 1 ((n.log2 : Int) - 52) ∧ roundScaled n 1 ((n.log2 : Int) - 52) ≤ 2 ^ 53 ∧
      (2 ^ 53 - 1) * ((roundScaled n 1 ((n.log2 : Int) - 52) : ℚ) * 2 ^ ((n.log2 : Int) - 52)) ≤
        2 ^ 53 * n ∧
      (52 ≤ n.log2 → 2 * (roundScaled n 1 ((n.log2 : Int) - 52) * 2 ^ (n.log2 - 52)) ≤
        2 * n + 2 ^ (n.log2 - 52)) := by
  have hlow := Nat.log2_self_le (Nat.pos_iff_ne_zero.1 hn)
  have hhigh := @Nat.lt_log2_self n
  unfold roundScaled
  by_cases hd : 52 ≤ n.log2
  · -- a long integer: its bits below the 53 leading ones are rounded away
    obtain ⟨k, hk⟩ : ∃ k, n.log2 = 52 + k := ⟨n.log2 - 52, by omega⟩
    rw [hk] at hlow hhigh ⊢
    have h1 : (-((((52 + k : Nat) : Int)) - 52)).toNat = 0 := by omega
    have h2 : ((((52 + k : Nat) : Int)) - 52).toNat = k := by omega
    simp only [h1, h2, Nat.pow_eq, Nat.pow_zero, Nat.mul_one, Nat.one_mul, Nat.add_sub_cancel_left]
    obtain ⟨hq1, hq2, hq3⟩ := roundHalfEven_bounds n (2 ^ k) (Nat.two_pow_pos k)
    have hdiv1 : 2 ^ 52 ≤ n / 2 ^ k := by
      rw [Nat.le_div_iff_mul_le (Nat.two_pow_pos k), ← Nat.pow_add]; exact hlow
    have hdiv2 : n / 2 ^ k < 2 ^ 53 := by
      rw [Nat.div_lt_iff_lt_mul (Nat.two_pow_pos k), ← Nat.pow_add]
      exact lt_of_lt_of_le hhigh (Nat.pow_le_pow_right (by decide) (by omega))
    refine ⟨by omega, by omega, ?_, fun _ => hq3⟩
    have hz : ((((52 + k : Nat) : Int)) - 52) = (k : Int) := by omega
    rw [hz, zpow_natCast]
    have hnat : (2 ^ 53 - 1) * (roundHalfEven n (2 ^ k) * 2 ^ k) ≤ 2 ^ 53 * n := by
      have hQ : 2 ^ 52 * 2 ^ k ≤ roundHalfEven n (2 ^ k) * 2 ^ k :=
        Nat.mul_le_mul_right _ (by omega)
      have := Nat.mul_le_mul_left (2 ^ 52) hq3
      rw [Nat.sub_mul, Nat.one_mul]
      generalize roundHalfEven n (2 ^ k) * 2 ^ k = Q at *
      generalize 2 ^ k = P at *
      omega
    have hcast : ((2 ^ 53 - 1 : Nat) : ℚ) = 2 ^ 53 - 1 := by norm_num
    rw [← hcast]
    exact_mod_cast hnat
  · -- a short integer is shifted left, exactly
    obtain ⟨k, hk⟩ : ∃ k, 52 = n.log2 + k := ⟨52 - n.log2, by omega⟩
    have h1 : (-(((n.log2 : Nat) : Int) - 52)).toNat = k := by omega
    have h2 : (((n.log2 : Nat) : Int) - 52).toNat = 0 := by omega
    simp only [h1, h2, Nat.pow_eq, Nat.pow_zero, Nat.one_mul, roundHalfEven_one]
    have hq1 : 2 ^ 52 ≤ n * 2 ^ k := by
      rw [hk, Nat.pow_add]; exact Nat.mul_le_mul_right _ hlow
    have hq2 : n * 2 ^ k < 2 ^ 53 := by
      calc n * 2 ^ k < 2 ^ (n.log2 + 1) * 2 ^ k := Nat.mul_lt_mul_of_pos_right hhigh (Nat.two_pow_pos k)
        _ = 2 ^ 53 := by rw [← Nat.pow_add]; congr 1; omega
    refine ⟨hq1, hq2.le, ?_, fun h => absurd h hd⟩
    have hz : ((n.log2 : Int) - 52) = -(k : Int) := by omega
    rw [hz, zpow_neg, zpow_natCast]
    push_cast
    rw [mul_assoc, mul_inv_cancel₀ (by positivity), mul_one]
    have : (0 : ℚ) ≤ n := by positivity
    linarith

theorem scaled_log2_ge {n : Nat} (hn : 0 < n) :
    2 ^ 52 ≤ n * 2 ^ (-((n.log2 : Int) - 52)).toNat / 2 ^ ((n.log2 : Int) - 52).toNat := by
  have hlow := Nat.log2_self_le (Nat.pos_iff_ne_zero.1 hn)
  by_cases hd : 52 ≤ n.log2
  · obtain ⟨k, hk⟩ : ∃ k, n.log2 = 52 + k := ⟨n.log2 - 52, by omega⟩
    rw [hk] at hlow ⊢
    rw [show (-((((52 + k : Nat) : Int)) - 52)).toNat = 0 by omega,
      show ((((52 + k : Nat) : Int)) - 52).toNat = k by omega, Nat.pow_zero, Nat.mul_one,
      Nat.le_div_iff_mul_le (Nat.two_pow_pos k), ← Nat.pow_add]
    exact hlow
  · rw [show (((n.log2 : Nat) : Int) - 52).toNat = 0 by omega, Nat.pow_zero, Nat.div_one]
    calc 2 ^ 52 = 2 ^ n.log2 * 2 ^ (-((n.log2 : Int) - 52)).toNat := by
          rw [← Nat.pow_add]; congr 1; omega
      _ ≤ n * 2 ^ (-((n.log2 : Int) - 52)).toNat := Nat.mul_le_mul_right _ hlow

theorem nearestDouble_unpack {n : Nat} (hn : 0 < n) (hlt : 2 * n < (2 ^ 54 - 1) * 2 ^ 971) :
    ∃ s m e h, (nearestDouble n 1).toModel.unpack = .finite s m e h ∧ 2 ^ 52 ≤ m ∧
      (2 ^ 53 - 1) * ((m : ℚ) * 2 ^ e) ≤ 2 ^ 53 * n := by
  obtain ⟨hq1, hq2, hval, hup⟩ := roundScaled_log2 hn
  have hd : n.log2 < 1024 := by
    refine (Nat.log2_lt (Nat.pos_iff_ne_zero.1 hn)).2 ?_
    norm_num at hlt ⊢
    omega
  have hlog1 : Nat.log2 1 = 0 := by decide
  unfold nearestDouble
  rw [if_neg (by simp; omega)]
  simp only [hlog1, Nat.cast_zero, sub_zero, Nat.pow_eq, Nat.one_mul]
  rw [if_neg (Nat.not_lt.2 (scaled_log2_ge hn)), max_eq_left (by omega)]
  generalize roundScaled n 1 ((n.log2 : Int) - 52) = q at hq1 hq2 hval hup
  -- below the boundary the pattern is not capped at infinity
  have hinf : infinityBits = 2047 * 2 ^ 52 := rfl
  have hcap : ¬ (((n.log2 : Int) - 52 + 1074).toNat * 2 ^ 52 + q ≥ infinityBits) := by
    rw [hinf]
    by_cases h1023 : n.log2 = 1023
    · have := hup (by omega)
      simp only [h1023] at this ⊢
      norm_num at this ⊢
      omega
    · omega
  rw [if_neg hcap]
  by_cases h53 : q < 2 ^ 53
  · obtain ⟨s, h, hu⟩ := @unpack_ofBits_scaled (((n.log2 : Int) - 52 + 1074).toNat) q hq1 h53
      (by omega)
    refine ⟨s, q, _, h, hu, hq1, ?_⟩
    rw [show ((((n.log2 : Int) - 52 + 1074).toNat : Nat) : Int) - 1074 = (n.log2 : Int) - 52 by
      omega]
    exact hval
  · -- a mantissa rounded up to `2 ^ 53` carries into the exponent
    obtain rfl : q = 2 ^ 53 := by omega
    have hbits : ((n.log2 : Int) - 52 + 1074).toNat * 2 ^ 52 + 2 ^ 53 =
        (((n.log2 : Int) - 52 + 1074).toNat + 1) * 2 ^ 52 + 2 ^ 52 := by ring
    obtain ⟨s, h, hu⟩ := @unpack_ofBits_scaled (((n.log2 : Int) - 52 + 1074).toNat + 1) (2 ^ 52)
      le_rfl (by norm_num) (by omega)
    refine ⟨s, 2 ^ 52, _, h, by rw [hbits]; exact hu, le_rfl, ?_⟩
    have hexp : ((((((n.log2 : Int) - 52 + 1074).toNat + 1 : Nat)) : Int) - 1074) =
        ((n.log2 : Int) - 52) + 1 := by omega
    rw [hexp, zpow_add_one₀ (by norm_num)]
    push_cast at hval ⊢
    linarith

theorem tenTo_of_le {k : Nat} (h : k ≤ 308) : tenTo k = some (powerOfTen k) := by
  simp [tenTo, powersOfTen, Array.getElem?_map]
  exact ⟨k, by simp [Array.getElem?_range]; omega, rfl⟩

theorem tenTo_of_lt {k : Nat} (h : 308 < k) : tenTo k = none := by
  simp [tenTo, powersOfTen, Array.getElem?_map]
  omega

theorem scaleRounds_neg : ∀ (fuel : Nat) (f : Float) {e : Int}, e < 0 →
    (scaleRounds fuel f e).isSome
  | 0, _, _, _ => rfl
  | fuel + 1, f, e, he => by
    rw [scaleRounds]
    cases ht : tenTo e.natAbs with
    | some p => simp [show ¬ 0 ≤ e by omega]
    | none =>
      -- past `10 ^ 308` one round divides by it, and the exponent stays negative
      have hbig : 308 < e.natAbs := by
        by_contra hle
        rw [tenTo_of_le (by omega)] at ht
        cases ht
      dsimp only
      split_ifs with hzero hpos
      · rfl
      · omega
      · exact scaleRounds_neg fuel _ (by omega)

/-- The decimals `sig * 10 ^ e` that compose without overflow: with the significand and the power
of ten each rounded up by at most `2 ^ 53 / (2 ^ 53 - 1)`, their product stays below the rounding
boundary of the largest double. -/
def Composable (sig : Nat) (e : Int) : Prop :=
  (2 : ℚ) ^ 107 * (sig * 10 ^ e) < (2 ^ 54 - 1) * (2 ^ 53 - 1) ^ 2 * 2 ^ 971

theorem composeBound_cast :
    (((2 ^ 54 - 1) * (2 ^ 53 - 1) ^ 2 * 2 ^ 971 : Nat) : ℚ) =
      (2 ^ 54 - 1) * (2 ^ 53 - 1) ^ 2 * 2 ^ 971 := by
  rw [Nat.cast_mul, Nat.cast_mul, Nat.cast_pow, Nat.cast_pow, Nat.cast_sub Nat.one_le_two_pow,
    Nat.cast_sub Nat.one_le_two_pow]
  norm_num

theorem Composable.mono {sig sig' : Nat} {e e' : Int} (h : Composable sig e)
    (hle : (sig' : ℚ) * 10 ^ e' ≤ sig * 10 ^ e) : Composable sig' e' :=
  (mul_le_mul_of_nonneg_left hle (by positivity)).trans_lt h

theorem composable_zero {sig : Nat} (hsig : sig < 2 ^ 64) : Composable sig 0 := by
  have hbound : 2 ^ 107 * 2 ^ 64 < (2 ^ 54 - 1) * (2 ^ 53 - 1) ^ 2 * 2 ^ 971 := by decide +kernel
  have hnat : 2 ^ 107 * sig < (2 ^ 54 - 1) * (2 ^ 53 - 1) ^ 2 * 2 ^ 971 :=
    lt_of_le_of_lt (Nat.mul_le_mul_left _ hsig.le) hbound
  unfold Composable
  rw [zpow_zero, mul_one, ← composeBound_cast]
  exact_mod_cast hnat

theorem le_308_of_composable {sig k : Nat} (hsig : 0 < sig) (h : Composable sig k) : k ≤ 308 := by
  by_contra hk
  have hbound : (2 ^ 54 - 1) * (2 ^ 53 - 1) ^ 2 * 2 ^ 971 ≤ 2 ^ 107 * 10 ^ 309 := by
    decide +kernel
  have hq : (2 : ℚ) ^ 107 * 10 ^ 309 ≤ 2 ^ 107 * ((sig : ℚ) * 10 ^ (k : Int)) := by
    rw [zpow_natCast]
    have h309 : (10 : ℚ) ^ 309 ≤ 10 ^ k := pow_le_pow_right₀ (by norm_num) (by omega)
    have hs : (1 : ℚ) ≤ sig := Nat.one_le_cast.2 hsig
    have := mul_le_mul hs h309 (by positivity) (by positivity)
    rw [one_mul] at this
    exact mul_le_mul_of_nonneg_left this (by positivity)
  have hcast : ((2 ^ 54 - 1) * (2 ^ 53 - 1) ^ 2 * 2 ^ 971 : ℚ) ≤ 2 ^ 107 * 10 ^ 309 := by
    rw [← composeBound_cast]
    exact_mod_cast hbound
  exact absurd (hcast.trans hq) (not_le.2 h)


theorem scaleRounds_pos (fuel : Nat) {sig k : Nat} (hsig : 0 < sig) (hlim : sig < 2 ^ 64)
    (h : Composable sig k) : (scaleRounds (fuel + 1) (nearestDouble sig 1) k).isSome := by
  have hk := le_308_of_composable hsig h
  rw [scaleRounds, Int.natAbs_natCast, tenTo_of_le hk]
  simp only [show (0 : Int) ≤ k from Int.natCast_nonneg k, if_true]
  obtain ⟨s₁, m₁, e₁, h₁, hu₁, hm₁, hv₁⟩ := nearestDouble_unpack hsig (by omega)
  obtain ⟨s₂, m₂, e₂, h₂, hu₂, hm₂, hv₂⟩ := @nearestDouble_unpack (10 ^ k) (by positivity)
    (by
      have h10 : 10 ^ k ≤ 10 ^ 308 := pow_le_pow_right₀ (by norm_num) hk
      have hbound : 2 * 10 ^ 308 < (2 ^ 54 - 1) * 2 ^ 971 := by decide +kernel
      omega)
  have hm : 2 ^ 52 ≤ m₁ * m₂ :=
    le_trans (Nat.le_mul_of_pos_right _ (by positivity)) (Nat.mul_le_mul hm₁ hm₂)
  -- the exact product is at most `(2 ^ 53 / (2 ^ 53 - 1)) ^ 2` times the decimal
  have hprod : ((2 : ℚ) ^ 53 - 1) ^ 2 * (((m₁ * m₂ : Nat) : ℚ) * 2 ^ (e₁ + e₂)) ≤
      2 ^ 106 * ((sig : ℚ) * 10 ^ k) := by
    have h1 : (0 : ℚ) ≤ (2 ^ 53 - 1) * ((m₁ : ℚ) * 2 ^ e₁) := by positivity
    have h2 : (0 : ℚ) ≤ 2 ^ 53 * (sig : ℚ) := by positivity
    have := mul_le_mul hv₁ hv₂ (by positivity) h2
    rw [zpow_add₀ (by norm_num)]
    push_cast at this ⊢
    linarith
  have hcomp : (2 : ℚ) ^ 107 * ((sig : ℚ) * 10 ^ k) <
      (2 ^ 54 - 1) * (2 ^ 53 - 1) ^ 2 * 2 ^ 971 := by
    unfold Composable at h
    rwa [zpow_natCast] at h
  have hv : 2 * ((m₁ * m₂ : Nat) : ℚ) * 2 ^ (e₁ + e₂) < (2 ^ 54 - 1) * 2 ^ (971 : ℤ) := by
    rw [zpow_ofNat, mul_assoc]
    have hpos : (0 : ℚ) < (2 ^ 53 - 1) ^ 2 := by norm_num
    generalize ((m₁ * m₂ : Nat) : ℚ) * 2 ^ (e₁ + e₂) = V at hprod ⊢
    generalize (sig : ℚ) * 10 ^ k = X at hprod hcomp
    generalize (2 : ℚ) ^ 971 = B at hcomp ⊢
    nlinarith
  change (if (nearestDouble sig 1 * nearestDouble (10 ^ k) 1).isInf then none else some _).isSome
    = true
  rw [isInf_mul hu₁ hu₂ hm hv]
  rfl

theorem scaleByTen_isSome (positive : Bool) {sig : Nat} {e : Int} (hsig : sig < 2 ^ 64)
    (h : e ≤ 0 ∨ (0 < sig ∧ Composable sig e)) : (scaleByTen positive sig e).isSome := by
  unfold scaleByTen
  rw [Option.isSome_map]
  rcases lt_or_ge e 0 with hneg | hnn
  · exact scaleRounds_neg 4 _ hneg
  obtain ⟨k, rfl⟩ := Int.eq_ofNat_of_zero_le hnn
  rcases Nat.eq_zero_or_pos sig with rfl | hpos
  · -- zero composes at exponent zero, the only one a zero significand is given here
    obtain rfl : k = 0 := by
      rcases h with h | ⟨h, -⟩
      · omega
      · cases h
    decide +kernel
  · have hc : Composable sig k := by
      rcases h with h | ⟨-, h⟩
      · obtain rfl : k = 0 := by omega
        exact composable_zero hsig
      · exact h
    exact scaleRounds_pos 3 hpos hsig hc

end TurnLedger.Decimal
