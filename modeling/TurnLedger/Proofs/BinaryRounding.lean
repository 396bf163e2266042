import Mathlib

/-!
# Rounding of binary doubles

Facts about the soft-float model of doubles that the reader of decimal numbers relies on. A
bit pattern whose exponent field is neither all zeros nor all ones unpacks to its normal value
(`unpack_normal`), and a normal value packs to a pattern that unpacks back to it
(`unpack_pack_normal`); so a pattern built from a biased exponent and a 53-bit mantissa is the
double of that mantissa and exponent (`unpack_ofBits_scaled`).

The product of two doubles rounds its exact product once, through a first shift to 53 bits, a
rounding half to even and a second shift that drops the bit a carry adds. Below the rounding
boundary of the largest double, `(2 ^ 53 - 1 / 2) * 2 ^ 971`, neither shift can reach the
exponent of infinity, so the product is finite (`isInf_mul`).
-/

open Float.Model Float.Model.UnpackedFloat

namespace TurnLedger.Decimal


theorem unpackExponent_toNat (w : UInt64) :
    (@unpackExponent Format.binary64 w.toBitVec).toNat = w.toNat / 2 ^ 52 % 2 ^ 11 := by
  change (w.toNat >>> 52) % 2 ^ 11 = _
  rw [Nat.shiftRight_eq_div_pow]

theorem unpackMantissa_toNat (w : UInt64) :
    (@unpackMantissa Format.binary64 w.toBitVec).toNat = w.toNat % 2 ^ 52 := by
  change (w.toNat >>> 0) % 2 ^ 52 = _
  rw [Nat.shiftRight_zero]

theorem toNat_one_append (x : BitVec 52) : (1#1 ++ x).toNat = 2 ^ 52 + x.toNat := by
  change 2 ^ 52 ||| x.toNat = _
  rw [Nat.or_comm, Nat.or_two_pow_eq_add_of_lt x.isLt, Nat.add_comm]

theorem unpack_normal (w : UInt64) {m : Nat} {e : Int} (hm : m = 2 ^ 52 + w.toNat % 2 ^ 52)
    (he : e = (w.toNat / 2 ^ 52 % 2 ^ 11 : Nat) - 1075) (h0 : 0 < w.toNat / 2 ^ 52 % 2 ^ 11)
    (h1 : w.toNat / 2 ^ 52 % 2 ^ 11 < 2047) :
    ∃ s h, UnpackedFloat.unpack Format.binary64 w.toBitVec = .finite s m e h := by
  subst hm he
  have hne : @unpackExponent Format.binary64 w.toBitVec ≠ -1#11 := by
    intro h
    have := congrArg BitVec.toNat h
    rw [unpackExponent_toNat] at this
    exact absurd this (by simp; omega)
  have hz : @unpackExponent Format.binary64 w.toBitVec ≠ 0#11 := by
    intro h
    have := congrArg BitVec.toNat h
    rw [unpackExponent_toNat] at this
    simp at this
    omega
  unfold UnpackedFloat.unpack
  simp only [hne, hz, if_false]
  refine ⟨Sign.ofBitVec (@unpackSign Format.binary64 w.toBitVec), by omega, ?_⟩
  congr 1
  · rw [toNat_one_append, unpackMantissa_toNat]
  · rw [unpackExponent_toNat]
    rfl

theorem unpack_pack_normal (s : Sign) {m : Nat} {e : Int} (hm : 0 < m) (hlo : 2 ^ 52 ≤ m)
    (hhi : m < 2 ^ 53) (he : -1074 ≤ e) (he' : e ≤ 971) :
    ∃ s', (Float.Model.pack (.finite s m e hm)).unpack = .finite s' m e hm := by
  have hlog : m.log2 = 52 := (Nat.log2_eq_iff (by omega)).2 ⟨hlo, hhi⟩
  unfold Float.Model.pack Float.Model.unpack
  unfold UnpackedFloat.pack
  have hbiased : (e + Format.binary64.exponentBias + Format.binary64.mantissaBitsWithoutImplicit).toNat
      = (e + 1075).toNat := by
    change (e + 1023 + 52).toNat = _
    omega
  rw [hbiased, if_neg (by change ¬ 2048 ≤ _ + 1; omega), hlog,
    if_pos (show 52 + 1 = Format.binary64.mantissaBits from rfl)]
  have hne : ∀ x : BitVec 11, x.toNat ≠ 2047 → x ≠ -1#11 := by
    rintro x hx rfl
    exact hx (by decide)
  have hz : ∀ x : BitVec 11, x.toNat ≠ 0 → x ≠ 0#11 := by
    rintro x hx rfl
    exact hx rfl
  unfold UnpackedFloat.unpack
  simp only [unpackExponent_packComponents, unpackMantissa_packComponents]
  rw [if_neg (hne _ (by rw [BitVec.toNat_ofNat]; omega)),
    if_neg (hz _ (by rw [BitVec.toNat_ofNat]; omega))]
  refine ⟨Sign.ofBitVec (unpackSign (packComponents Format.binary64 s
    (BitVec.ofNat 11 (e + 1075).toNat) (BitVec.ofNat 52 m))), ?_⟩
  congr 1
  · rw [toNat_one_append, BitVec.toNat_ofNat]
    omega
  · rw [BitVec.toNat_ofNat]
    change ((((e + 1075).toNat % 2 ^ 11 : Nat) : Int) - 1075) = e
    omega

theorem unpack_ofBits_normal (w : UInt64) {m : Nat} {e : Int}
    (hm : m = 2 ^ 52 + w.toNat % 2 ^ 52) (he : e = (w.toNat / 2 ^ 52 % 2 ^ 11 : Nat) - 1075)
    (h0 : 0 < w.toNat / 2 ^ 52 % 2 ^ 11) (h1 : w.toNat / 2 ^ 52 % 2 ^ 11 < 2047) :
    ∃ s h, (Float.ofBits w).toModel.unpack = .finite s m e h := by
  obtain ⟨s, h, hu⟩ := unpack_normal w hm he h0 h1
  obtain ⟨s', hs'⟩ := @unpack_pack_normal s m e h (by omega) (by omega) (by omega) (by omega)
  refine ⟨s', h, ?_⟩
  change (Float.Model.pack (UnpackedFloat.unpack Format.binary64 w.toBitVec)).unpack = _
  rw [hu, hs']

theorem unpack_ofBits_scaled {g q : Nat} (hq : 2 ^ 52 ≤ q) (hq' : q < 2 ^ 53) (hg : g ≤ 2045) :
    ∃ s h, (Float.ofBits (g * 2 ^ 52 + q).toUInt64).toModel.unpack =
      .finite s q ((g : Int) - 1074) h := by
  have hw : (g * 2 ^ 52 + q).toUInt64.toNat = g * 2 ^ 52 + q := by
    rw [Nat.toUInt64_eq, UInt64.toNat_ofNat', Nat.mod_eq_of_lt (by omega)]
  have hfield : (g * 2 ^ 52 + q) / 2 ^ 52 % 2 ^ 11 = g + 1 := by omega
  have hfrac : (g * 2 ^ 52 + q) % 2 ^ 52 = q - 2 ^ 52 := by omega
  exact unpack_ofBits_normal _ (by rw [hw, hfrac]; omega) (by rw [hw, hfield]; push_cast; ring)
    (by rw [hw, hfield]; omega) (by rw [hw, hfield]; omega)

theorem shiftRight_mantissa (em : ExtendedMantissa) (n : Nat) :
    (em >>> n).mantissa = em.mantissa / 2 ^ n := by
  induction n with
  | zero => exact (Nat.div_one _).symm
  | succ n ih =>
    change (em >>> n).mantissa / 2 = _
    rw [ih, Nat.div_div_eq_div_mul, Nat.pow_succ]

theorem half_le_of_roundBit {M n : Nat}
    (h : ((⟨M, false, false⟩ : ExtendedMantissa) >>> n).roundBit = true) :
    2 ^ n ≤ 2 * (M % 2 ^ n) := by
  cases n with
  | zero => cases h
  | succ n =>
    change (((⟨M, false, false⟩ : ExtendedMantissa) >>> n).mantissa % 2 != 0) = true at h
    rw [shiftRight_mantissa, bne_iff_ne, ne_eq] at h
    rw [Nat.mod_pow_succ, Nat.mod_two_ne_zero.mp h, Nat.pow_succ]
    omega

theorem roundedMantissa_le (em : ExtendedMantissa) : em.roundedMantissa ≤ em.mantissa + 1 := by
  rcases em with ⟨m, _ | _, _ | _⟩ <;>
    simp [ExtendedMantissa.roundedMantissa, ExtendedMantissa.accuracy,
      Accuracy.roundToNearestEven]
  omega

theorem roundBit_of_lt_roundedMantissa {em : ExtendedMantissa}
    (h : em.mantissa < em.roundedMantissa) : em.roundBit = true := by
  rcases em with ⟨m, _ | _, _ | _⟩ <;>
    simp_all [ExtendedMantissa.roundedMantissa, ExtendedMantissa.accuracy,
      Accuracy.roundToNearestEven]

theorem isInf_pack_finite {s : Sign} {m : Nat} {e : Int} {hm : 0 < m} (he : e ≤ 971) :
    (Float.Model.pack (.finite s m e hm)).unpack.isInf = false := by
  have hbiased : (e + Format.binary64.exponentBias + Format.binary64.mantissaBitsWithoutImplicit).toNat
      < 2047 := by
    change (e + 1023 + 52).toNat < 2047
    omega
  unfold Float.Model.pack Float.Model.unpack
  unfold UnpackedFloat.pack
  generalize (e + Format.binary64.exponentBias + Format.binary64.mantissaBitsWithoutImplicit).toNat
    = biased at hbiased ⊢
  rw [if_neg (by change ¬ 2048 ≤ _ + 1; omega)]
  have hne : ∀ x : BitVec 11, x.toNat < 2047 → x ≠ -1#11 := by
    intro x hx h
    rw [h] at hx
    exact absurd hx (by decide)
  split
  all_goals
    unfold UnpackedFloat.unpack
    simp only [unpackExponent_packComponents]
    rw [if_neg (hne _ (by rw [BitVec.toNat_ofNat]; omega))]
    split
    · split <;> rfl
    · rfl

theorem isInf_pack_zero (s : Sign) : (Float.Model.pack (.zero s)).unpack.isInf = false := by
  cases s <;> rfl

section Rounding

variable {M : Nat} {E : Int}

theorem shiftToTargetExponent_exact (hM : 52 ≤ M.log2) :
    shiftToTargetExponent Format.binary64 M E .exact =
      ((⟨M, false, false⟩ : ExtendedMantissa) >>>
          (max ((M.log2 : Int) + E - 52) (-1074) - E).toNat,
        max ((M.log2 : Int) + E - 52) (-1074)) := by
  have ht : Format.binary64.targetExponent (totalExponent M E) =
      max ((M.log2 : Int) + E - 52) (-1074) := by
    simp only [Format.targetExponent, totalExponent, Format.mantissaBits, Format.minExponent]
    norm_num
    omega
  simp only [shiftToTargetExponent, shiftToExponent, ht, ExtendedMantissa.ofMantissaAndAccuracy]
  congr 1
  omega

/-- A value below the rounding boundary of the largest double keeps the first rounding of its
mantissa within 53 bits at an exponent of at most `971`, and a mantissa that rounds up to
`2 ^ 53` below `971`. -/
theorem firstRounding_bounds (hM : 52 ≤ M.log2)
    (hv : 2 * (M : ℚ) * 2 ^ E < (2 ^ 54 - 1) * 2 ^ (971 : ℤ)) :
    max ((M.log2 : Int) + E - 52) (-1074) ≤ 971 ∧
      ((⟨M, false, false⟩ : ExtendedMantissa) >>>
          (max ((M.log2 : Int) + E - 52) (-1074) - E).toNat).roundedMantissa ≤ 2 ^ 53 ∧
      (2 ^ 53 ≤ ((⟨M, false, false⟩ : ExtendedMantissa) >>>
          (max ((M.log2 : Int) + E - 52) (-1074) - E).toNat).roundedMantissa →
        max ((M.log2 : Int) + E - 52) (-1074) ≤ 970) := by
  generalize ht : max ((M.log2 : Int) + E - 52) (-1074) = t
  generalize hs : (t - E).toNat = s
  have hsE : (s : Int) = t - E := by omega
  have hM0 : M ≠ 0 := by rintro rfl; simp at hM
  -- the mantissa kept has at most 53 bits
  have hq : M / 2 ^ s < 2 ^ 53 := by
    rw [Nat.div_lt_iff_lt_mul (Nat.two_pow_pos s), ← Nat.pow_add]
    exact lt_of_lt_of_le Nat.lt_log2_self (Nat.pow_le_pow_right (by decide) (by omega))
  have hr : ((⟨M, false, false⟩ : ExtendedMantissa) >>> s).roundedMantissa ≤ M / 2 ^ s + 1 := by
    have h := roundedMantissa_le ((⟨M, false, false⟩ : ExtendedMantissa) >>> s)
    rwa [shiftRight_mantissa] at h
  have hpos : (0 : ℚ) < 2 ^ E := zpow_pos (by norm_num) E
  -- the value is below `2 ^ 1024`, so its leading bit is at most `2 ^ 1023`
  have hmag : (M.log2 : Int) + E < 1024 := by
    have hlow : (2 : ℚ) ^ (M.log2 : ℤ) ≤ M := by
      rw [zpow_natCast]
      exact_mod_cast Nat.log2_self_le hM0
    have hlt : (2 : ℚ) ^ ((M.log2 : ℤ) + E) < 2 ^ (1024 : ℤ) := by
      rw [zpow_add₀ (by norm_num)]
      have h1024 : (2 : ℚ) ^ (1024 : ℤ) = 2 ^ 53 * 2 ^ (971 : ℤ) := by
        rw [show (1024 : ℤ) = 53 + 971 by norm_num, zpow_add₀ (by norm_num)]
        norm_num
      have h971 : (0 : ℚ) < 2 ^ (971 : ℤ) := zpow_pos (by norm_num) _
      have hup := mul_le_mul_of_nonneg_right hlow hpos.le
      rw [h1024]
      clear h1024
      generalize (2 : ℚ) ^ (971 : ℤ) = B at *
      generalize (2 : ℚ) ^ E = P at *
      generalize (2 : ℚ) ^ (M.log2 : ℤ) = L at *
      linarith
    exact (zpow_lt_zpow_iff_right₀ (by norm_num : (1 : ℚ) < 2)).1 hlt
  refine ⟨by omega, by omega, fun h53 => ?_⟩
  -- rounding up to `2 ^ 53` needs the bits dropped to reach half of the last place
  have hup : M / 2 ^ s < ((⟨M, false, false⟩ : ExtendedMantissa) >>> s).roundedMantissa := by
    omega
  have hhalf := half_le_of_roundBit
    (roundBit_of_lt_roundedMantissa (by rwa [shiftRight_mantissa]))
  have hkept : M / 2 ^ s = 2 ^ 53 - 1 := by omega
  have hsplit := Nat.div_add_mod M (2 ^ s)
  rw [hkept] at hsplit
  have hnat : 2 ^ 54 * 2 ^ s ≤ 2 * M + 2 ^ s := by
    rw [show 2 ^ 54 * 2 ^ s = 2 * (2 ^ s * (2 ^ 53 - 1)) + 2 * 2 ^ s by ring_nf]
    omega
  have hq' : (2 : ℚ) ^ 54 * 2 ^ s ≤ 2 * M + 2 ^ s := by exact_mod_cast hnat
  have hX : (2 : ℚ) ^ ((s : ℤ) + E) = 2 ^ s * 2 ^ E := by
    rw [zpow_add₀ (by norm_num), zpow_natCast]
  have hlt : (2 : ℚ) ^ ((s : ℤ) + E) < 2 ^ (971 : ℤ) := by
    rw [hX]
    nlinarith [mul_le_mul_of_nonneg_right hq' hpos.le]
  have := (zpow_lt_zpow_iff_right₀ (by norm_num : (1 : ℚ) < 2)).1 hlt
  omega

theorem isInf_roundWithAccuracy (s : Sign) (hM : 52 ≤ M.log2)
    (hv : 2 * (M : ℚ) * 2 ^ E < (2 ^ 54 - 1) * 2 ^ (971 : ℤ)) :
    (Float.Model.pack (roundWithAccuracy Format.binary64 s M E .exact)).unpack.isInf = false := by
  obtain ⟨ht, hr, hup⟩ := firstRounding_bounds hM hv
  unfold roundWithAccuracy
  rw [shiftToTargetExponent_exact hM]
  dsimp only
  generalize ExtendedMantissa.roundedMantissa _ = r at hr hup ⊢
  generalize max ((M.log2 : Int) + E - 52) (-1074) = t at ht hup ⊢
  -- the second shift drops one bit at most, and only from `2 ^ 53`
  have hlog : r.log2 ≤ 52 ∨ (r.log2 = 53 ∧ t ≤ 970) := by
    by_cases h53 : r < 2 ^ 53
    · left
      by_cases h0 : r = 0
      · simp [h0]
      · exact Nat.lt_succ_iff.1 ((Nat.log2_lt h0).2 h53)
    · right
      obtain rfl : r = 2 ^ 53 := by omega
      exact ⟨Nat.log2_two_pow, hup (Nat.le_refl _)⟩
  have hexp : (shiftToTargetExponent Format.binary64 r t .exact).2 ≤ 971 := by
    simp only [shiftToTargetExponent, shiftToExponent, Format.targetExponent, totalExponent,
      Format.mantissaBits, Format.minExponent]
    norm_num
    omega
  generalize shiftToTargetExponent Format.binary64 r t .exact = second at hexp ⊢
  obtain ⟨em, e'⟩ := second
  dsimp only at hexp ⊢
  by_cases h0 : em.mantissa = 0
  · rw [dif_pos h0]
    exact isInf_pack_zero s
  · rw [dif_neg h0]
    exact isInf_pack_finite hexp

end Rounding

theorem isInf_mul {a b : Float} {s₁ s₂ : Sign} {m₁ m₂ : Nat} {e₁ e₂ : Int} {h₁ : 0 < m₁}
    {h₂ : 0 < m₂} (ha : a.toModel.unpack = .finite s₁ m₁ e₁ h₁)
    (hb : b.toModel.unpack = .finite s₂ m₂ e₂ h₂) (hm : 2 ^ 52 ≤ m₁ * m₂)
    (hv : 2 * ((m₁ * m₂ : Nat) : ℚ) * 2 ^ (e₁ + e₂) < (2 ^ 54 - 1) * 2 ^ (971 : ℤ)) :
    (a * b).isInf = false := by
  change (Float.Model.pack (UnpackedFloat.mul Format.binary64 a.toModel.unpack
    b.toModel.unpack)).unpack.isInf = false
  rw [ha, hb]
  exact isInf_roundWithAccuracy _ ((Nat.le_log2 (by omega)).2 hm) hv

end TurnLedger.Decimal
