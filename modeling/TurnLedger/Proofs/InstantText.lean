import Mathlib.Tactic.IntervalCases
import TurnLedger.Time.Parse

/-!
# Instants read back from their text

The text of a valid instant reads back as that instant (`parse_text`). An instant is valid when
its day lies within the calendar's range, its nanoseconds stay below two seconds, and a leap
second falls only at the end of a minute; these are the instants the parser returns.

The date arithmetic splits a day of a 400-year era into its century, four-year cycle, year and
day of the year counted from March (`eraDay_split`). Then `CivilDate.ofDays` numbers back to the
day it started from (`toDays_ofDays`) and gives a valid date within the range (`ofDays_isValid`).
The text is read field by field, each field being a run of digits that ends where a non-digit
follows or the field's width is reached (`digitsLoop_digits`).
-/

namespace TurnLedger.Time

section Days

theorem eraDay_split {doe : Int} (h0 : 0 ≤ doe) (h1 : doe ≤ 146096) :
    ∃ u v s k : Int, doe = 36524 * u + 1461 * v + 365 * s + k ∧ 0 ≤ u ∧ u ≤ 3 ∧ 0 ≤ v ∧
      v ≤ 24 ∧ 0 ≤ s ∧ s ≤ 3 ∧ 0 ≤ k ∧ k ≤ 365 ∧ (k = 365 → s = 3 ∧ (v < 24 ∨ u = 3)) := by
  -- the century is capped at 3 so that the last day of an era stays in its fourth century
  refine ⟨min (doe / 36524) 3, (doe - 36524 * min (doe / 36524) 3) / 1461,
    min ((doe - 36524 * min (doe / 36524) 3) % 1461 / 365) 3,
    (doe - 36524 * min (doe / 36524) 3) % 1461 -
      365 * min ((doe - 36524 * min (doe / 36524) 3) % 1461 / 365) 3, ?_⟩
  omega

theorem yearOfEra_eq {u v s k : Int} (hu0 : 0 ≤ u) (hu : u ≤ 3) (hv0 : 0 ≤ v) (hv : v ≤ 24)
    (hs0 : 0 ≤ s) (hs : s ≤ 3) (hk0 : 0 ≤ k) (hk : k ≤ 365)
    (h365 : k = 365 → s = 3 ∧ (v < 24 ∨ u = 3)) (doe : Int)
    (hdoe : doe = 36524 * u + 1461 * v + 365 * s + k) :
    (doe - doe / 1460 + doe / 36524 - doe / 146096) / 365 = 100 * u + 4 * v + s := by
  have hc : doe / 36524 - doe / 146096 = u := by
    by_cases hend : v = 24 ∧ s = 3 ∧ k = 365
    · obtain ⟨rfl, rfl, rfl⟩ := hend
      obtain rfl : u = 3 := by omega
      subst hdoe
      rfl
    · have h1 : doe / 36524 = u := by omega
      have h2 : doe / 146096 = 0 := by omega
      omega
  have hq : doe / 1460 = 25 * u + v + (24 * u + v + 365 * s + k) / 1460 := by omega
  -- the cycle's last year reaches one more multiple of 1460 only from its last days on
  rcases (show (24 * u + v + 365 * s + k) / 1460 = 0 ∨ (24 * u + v + 365 * s + k) / 1460 = 1 by
    omega) with ht | ht
  · have : k ≤ 364 := by omega
    omega
  · omega

theorem yearOfEra_div (u : Int) {v s : Int} (hv0 : 0 ≤ v) (hv : v ≤ 24) (hs0 : 0 ≤ s)
    (hs : s ≤ 3) : (100 * u + 4 * v + s) / 4 = 25 * u + v ∧ (100 * u + 4 * v + s) / 100 = u := by
  omega

theorem ofDays_eq (z : Int) : ∃ era u v s k : Int,
    z + 719468 = era * 146097 + (36524 * u + 1461 * v + 365 * s + k) ∧ 0 ≤ u ∧ u ≤ 3 ∧
      0 ≤ v ∧ v ≤ 24 ∧ 0 ≤ s ∧ s ≤ 3 ∧ 0 ≤ k ∧ k ≤ 365 ∧
      (k = 365 → s = 3 ∧ (v < 24 ∨ u = 3)) ∧
      CivilDate.ofDays z =
        let mp := (5 * k + 2) / 153
        let m := if mp < 10 then mp + 3 else mp - 9
        ⟨if m ≤ 2 then 100 * u + 4 * v + s + era * 400 + 1 else 100 * u + 4 * v + s + era * 400,
          m.toNat, (k - (153 * mp + 2) / 5 + 1).toNat⟩ := by
  have hera : (z + 719468).fdiv 146097 = (z + 719468) / 146097 :=
    Int.fdiv_eq_ediv_of_nonneg _ (by decide)
  have hlo : 0 ≤ z + 719468 - (z + 719468) / 146097 * 146097 := by omega
  have hhi : z + 719468 - (z + 719468) / 146097 * 146097 ≤ 146096 := by omega
  simp only [CivilDate.ofDays, hera]
  generalize (z + 719468) / 146097 = era at hlo hhi ⊢
  generalize hd : z + 719468 - era * 146097 = doe at hlo hhi ⊢
  obtain ⟨u, v, s, k, rfl, hu0, hu, hv0, hv, hs0, hs, hk0, hk, h365⟩ := eraDay_split hlo hhi
  refine ⟨era, u, v, s, k, by omega, hu0, hu, hv0, hv, hs0, hs, hk0, hk, h365, ?_⟩
  obtain ⟨h4, h100⟩ := yearOfEra_div u hv0 hv hs0 hs
  rw [yearOfEra_eq hu0 hu hv0 hv hs0 hs hk0 hk h365 _ rfl, h4, h100]
  have hdoy : 36524 * u + 1461 * v + 365 * s + k -
      (365 * (100 * u + 4 * v + s) + (25 * u + v) - u) = k := by
    omega
  simp only [hdoy]

theorem toDays_ofDays (z : Int) : (CivilDate.ofDays z).toDays = z := by
  obtain ⟨era, u, v, s, k, hz, hu0, hu, hv0, hv, hs0, hs, hk0, hk, h365, hdate⟩ := ofDays_eq z
  obtain ⟨h4, h100⟩ := yearOfEra_div u hv0 hv hs0 hs
  have hday : (153 * ((5 * k + 2) / 153) + 2) / 5 ≤ k := by omega
  -- the three quantities `toDays` reads off the date: its March-based year, month and day
  have hyear : (if (CivilDate.ofDays z).month ≤ 2 then (CivilDate.ofDays z).year - 1
      else (CivilDate.ofDays z).year) = 100 * u + 4 * v + s + era * 400 := by
    rw [hdate]
    by_cases hmp : (5 * k + 2) / 153 < 10
    · simp only [hmp, if_true]
      rw [if_neg (by omega), if_neg (by omega)]
    · simp only [hmp, if_false]
      rw [if_pos (by omega), if_pos (by omega)]
      omega
  have hmonth : (if (CivilDate.ofDays z).month > 2 then ((CivilDate.ofDays z).month : Int) - 3
      else (CivilDate.ofDays z).month + 9) = (5 * k + 2) / 153 := by
    rw [hdate]
    by_cases hmp : (5 * k + 2) / 153 < 10
    · simp only [hmp, if_true]
      rw [if_pos (by omega)]
      omega
    · simp only [hmp, if_false]
      rw [if_neg (by omega)]
      omega
  have hdayOf : ((CivilDate.ofDays z).day : Int) =
      k - (153 * ((5 * k + 2) / 153) + 2) / 5 + 1 := by
    rw [hdate]
    simp only
    omega
  have hera : (100 * u + 4 * v + s + era * 400).fdiv 400 = era := by
    rw [Int.fdiv_eq_ediv_of_nonneg _ (by decide)]
    omega
  simp only [CivilDate.toDays, hyear, hmonth, hdayOf, hera]
  omega

theorem firstDay_eq : firstDay = -96465292 := by decide

theorem lastDay_eq : lastDay = 95026236 := by decide

theorem daysInMonth_march (y mp : Int) (hm0 : 0 ≤ mp) (hm : mp ≤ 9) :
    (daysInMonth y (mp + 3).toNat : Int) = (153 * (mp + 1) + 2) / 5 - (153 * mp + 2) / 5 := by
  interval_cases mp <;> rfl

theorem isLeapYear_march {era u v s : Int} (h : s = 3 ∧ (v < 24 ∨ u = 3)) (hv0 : 0 ≤ v)
    (hv : v ≤ 24) :
    isLeapYear (100 * u + 4 * v + s + era * 400 + 1) = true := by
  obtain ⟨rfl, hv'⟩ := h
  simp only [isLeapYear, Bool.or_eq_true, Bool.and_eq_true, beq_iff_eq, bne_iff_ne, ne_eq]
  omega

theorem ofDays_isValid {z : Int} (h1 : firstDay ≤ z) (h2 : z ≤ lastDay) :
    (CivilDate.ofDays z).isValid = true := by
  obtain ⟨era, u, v, s, k, hz, hu0, hu, hv0, hv, hs0, hs, hk0, hk, h365, hdate⟩ := ofDays_eq z
  rw [firstDay_eq] at h1
  rw [lastDay_eq] at h2
  rw [hdate]
  simp only [CivilDate.isValid, minYear, maxYear, Bool.and_eq_true, decide_eq_true_eq]
  by_cases hmp : (5 * k + 2) / 153 < 10
  · have hdays := daysInMonth_march (100 * u + 4 * v + s + era * 400) ((5 * k + 2) / 153)
      (by omega) (by omega)
    simp only [hmp, if_true]
    rw [if_neg (by omega)]
    simp only [decide_eq_true_eq]
    omega
  · simp only [hmp, if_false]
    rw [if_pos (by omega)]
    simp only [decide_eq_true_eq]
    rcases (show (5 * k + 2) / 153 = 10 ∨ (5 * k + 2) / 153 = 11 by omega) with h10 | h11
    · rw [h10]
      have hjan : ∀ y, daysInMonth y ((10 : Int) - 9).toNat = 31 := fun _ => rfl
      rw [hjan]
      -- the last era that has dates ends in its year 142, before a January follows
      have hera : era ≤ 655 := by omega
      rcases (show era < 655 ∨ era = 655 by omega) with h | rfl <;> omega
    · rw [h11]
      have hfeb : ∀ y, daysInMonth y ((11 : Int) - 9).toNat = if isLeapYear y then 29 else 28 :=
        fun _ => rfl
      rw [hfeb]
      by_cases hk365 : k = 365
      · rw [if_pos (isLeapYear_march (h365 hk365) hv0 hv)]
        omega
      · split <;> omega

end Days

section Digits

theorem isBlank_of_printable {c : Char} (h1 : 0x21 ≤ c.toNat) (h2 : c.toNat ≤ 0x7E) :
    Text.isBlank c = false := by
  simp only [Text.isBlank, Bool.or_eq_false_iff, Bool.and_eq_false_iff, decide_eq_false_iff_not,
    Nat.not_le, beq_eq_false_iff_ne, ne_eq]
  omega

theorem dropBlank_cons {c : Char} (h : Text.isBlank c = false) (s : List Char) :
    dropBlank (c :: s) = c :: s := by
  simp [dropBlank, h]

theorem isBlank_of_isDigit {c : Char} (h : c.isDigit = true) : Text.isBlank c = false := by
  have := Char.isDigit_iff_toNat.1 h
  exact isBlank_of_printable (by simp at this; omega) (by simp at this; omega)

theorem byteLength_go (s : List Char) (n : Nat) :
    s.foldl (fun n c => n + c.utf8Size) n ≥ n + s.length := by
  induction s generalizing n with
  | nil => simp
  | cons c s ih =>
    have := ih (n + c.utf8Size)
    have hc := c.utf8Size_pos
    simp only [List.foldl_cons, List.length_cons]
    omega

theorem length_le_byteLength (s : List Char) : s.length ≤ byteLength s := by
  have := byteLength_go s 0
  simp only [byteLength]
  omega

theorem ofDigitChars_le (ds : List Char) (n : Nat) : n ≤ Nat.ofDigitChars 10 ds n := by
  rw [Nat.ofDigitChars_eq_ofDigitChars_zero]
  calc n ≤ 10 ^ ds.length * n := Nat.le_mul_of_pos_left n (Nat.pow_pos (by decide))
    _ ≤ _ := Nat.le_add_right _ _

theorem digitsLoop_digits (lo : Nat) : ∀ (ds rest : List Char) (left taken n : Nat),
    (∀ c ∈ ds, c.isDigit = true) → ds.length ≤ left → lo ≤ taken + ds.length →
    (ds.length = left ∨ ∀ c ∈ rest.head?, c.isDigit = false) →
    Nat.ofDigitChars 10 ds n ≤ 2 ^ 63 - 1 →
    digitsLoop lo left taken n (ds ++ rest) = .ok (Nat.ofDigitChars 10 ds n, rest)
  | [], rest, left, taken, n, _, _, hlo, hend, _ => by
    simp only [List.length_nil, Nat.add_zero] at hlo hend
    cases left with
    | zero => rfl
    | succ left =>
      cases rest with
      | nil => rfl
      | cons c rest =>
        have hc : c.isDigit = false := by simpa using hend
        simp only [List.nil_append, digitsLoop, hc, Bool.false_eq_true,
          if_false, Nat.ofDigitChars_nil]
        rw [if_neg (by omega)]
  | c :: ds, rest, left, taken, n, hds, hlen, hlo, hend, hlim => by
    obtain ⟨left, rfl⟩ : ∃ l, left = l + 1 := ⟨left - 1, by simp at hlen; omega⟩
    have hc := Char.isDigit_iff_toNat.1 (hds c List.mem_cons_self)
    simp only [Char.reduceToNat] at hc
    have hstep : (n : Int) * 10 + (c.toNat - 48 : Int) = ((10 * n + (c.toNat - 48) : Nat) : Int) := by
      omega
    have hval : Nat.ofDigitChars 10 (c :: ds) n = Nat.ofDigitChars 10 ds (10 * n + (c.toNat - 48)) :=
      Nat.ofDigitChars_cons
    have hbound := ofDigitChars_le ds (10 * n + (c.toNat - 48))
    simp only [List.cons_append, digitsLoop, hds c List.mem_cons_self, if_true]
    rw [hstep, if_neg (by simp only [numberLimit]; omega), hval]
    exact digitsLoop_digits lo ds rest left (taken + 1) _ (fun d hd => hds d (List.mem_cons_of_mem _ hd))
      (by simp at hlen; omega) (by simp at hlo; omega) (by simpa using hend) (by rw [← hval]; exact hlim)

theorem number_digits {ds : List Char} (rest : List Char) (max : Nat)
    (hds : ∀ c ∈ ds, c.isDigit = true) (hne : ds ≠ []) (hmax : ds.length ≤ max)
    (hend : ds.length = max ∨ ∀ c ∈ rest.head?, c.isDigit = false)
    (hlim : Nat.ofDigitChars 10 ds 0 ≤ 2 ^ 63 - 1) :
    number (ds ++ rest) 1 max = .ok (Nat.ofDigitChars 10 ds 0, rest) := by
  have hlen : 1 ≤ ds.length := List.length_pos_iff.2 hne
  have hbytes := length_le_byteLength (ds ++ rest)
  simp only [List.length_append] at hbytes
  rw [number, if_neg (by omega)]
  exact digitsLoop_digits 1 ds rest max 0 0 hds hmax (by omega) hend hlim

theorem toList_padded (w n : Nat) :
    (padded w n).toList = List.replicate (w - (Nat.toDigits 10 n).length) '0' ++ Nat.toDigits 10 n := by
  simp [padded]

theorem isDigit_of_mem_padded {w n : Nat} {c : Char} (h : c ∈ (padded w n).toList) :
    c.isDigit = true := by
  rw [toList_padded, List.mem_append, List.mem_replicate] at h
  rcases h with ⟨-, rfl⟩ | h
  · rfl
  · exact Nat.isDigit_of_mem_toDigits (by decide) (by decide) h

theorem ofDigitChars_padded (w n : Nat) : Nat.ofDigitChars 10 (padded w n).toList 0 = n := by
  rw [toList_padded, Nat.ofDigitChars_append, Nat.ofDigitChars_replicate_zero, Nat.mul_zero,
    Nat.ofDigitChars_ten_toDigits]

theorem length_padded {w n : Nat} (hw : 0 < w) (hn : n < 10 ^ w) : (padded w n).toList.length = w := by
  have := (Nat.length_toDigits_le_iff (by decide) hw).2 hn
  rw [toList_padded, List.length_append, List.length_replicate]
  omega

theorem padded_ne_nil (w n : Nat) : (padded w n).toList ≠ [] := by
  simp [toList_padded]

theorem number_padded {w n : Nat} (hw : 0 < w) (hn : n < 10 ^ w) (hlim : n ≤ 2 ^ 63 - 1)
    (rest : List Char) : number ((padded w n).toList ++ rest) 1 w = .ok (n, rest) := by
  have h := number_digits rest w (fun c hc => isDigit_of_mem_padded hc) (padded_ne_nil w n)
    (by rw [length_padded hw hn]) (.inl (length_padded hw hn)) (by rw [ofDigitChars_padded]; exact hlim)
  rwa [ofDigitChars_padded] at h

theorem twoDigits_eq_padded {n : Nat} (h : n < 100) : twoDigits n = padded 2 n := by
  have hpos := Nat.length_toDigits_pos (b := 10) (n := n)
  have h1 := Nat.length_toDigits_le_iff (b := 10) (n := n) (k := 1) (by decide) (by decide)
  have h2 := Nat.length_toDigits_le_iff (b := 10) (n := n) (k := 2) (by decide) (by decide)
  rw [← String.toList_inj, toList_padded]
  unfold twoDigits
  split
  · rename_i h10
    have hlen : (Nat.toDigits 10 n).length = 1 := by
      have := h1.2 (by omega)
      omega
    simp [hlen]
  · rename_i h10
    have hlen : (Nat.toDigits 10 n).length = 2 := by
      have := h2.2 (by omega)
      have := mt h1.1 (by omega)
      omega
    simp [hlen]

theorem digit_head_padded (w n : Nat) : ∃ c cs, (padded w n).toList = c :: cs ∧ c.isDigit = true := by
  obtain ⟨c, cs, h⟩ := List.exists_cons_of_ne_nil (padded_ne_nil w n)
  exact ⟨c, cs, h, isDigit_of_mem_padded (by rw [h]; exact List.mem_cons_self)⟩

theorem dropBlank_padded (w n : Nat) (rest : List Char) :
    dropBlank ((padded w n).toList ++ rest) = (padded w n).toList ++ rest := by
  obtain ⟨c, cs, h, hc⟩ := digit_head_padded w n
  rw [h, List.cons_append, dropBlank_cons (isBlank_of_isDigit hc)]

theorem yearNumber_yearText {y : Int} (hy : y.natAbs ≤ 2 ^ 63 - 1) (rest : List Char) :
    yearNumber ((yearText y).toList ++ '-' :: rest) = .ok (y, '-' :: rest) := by
  have hpadded : ∀ n : Nat, n ≤ 2 ^ 63 - 1 →
      number ((padded 4 n).toList ++ '-' :: rest) 1 (byteLength ((padded 4 n).toList ++ '-' :: rest) + 1) =
        .ok (n, '-' :: rest) := by
    intro n hn
    have hb := length_le_byteLength ((padded 4 n).toList ++ '-' :: rest)
    simp only [List.length_append, List.length_cons] at hb
    have h := number_digits ('-' :: rest) (byteLength ((padded 4 n).toList ++ '-' :: rest) + 1)
      (fun c hc => isDigit_of_mem_padded hc) (padded_ne_nil 4 n) (by omega) (.inr (by simp))
      (by rw [ofDigitChars_padded]; exact hn)
    rwa [ofDigitChars_padded] at h
  unfold yearText
  split
  · rename_i hsmall
    simp only [Bool.and_eq_true, decide_eq_true_eq] at hsmall
    obtain ⟨c, cs, hcs, hc⟩ := digit_head_padded 4 y.toNat
    have hnum := number_padded (w := 4) (n := y.toNat) (by decide) (by omega) (by omega) ('-' :: rest)
    rw [hcs, List.cons_append] at hnum ⊢
    -- the first digit is neither sign, so the year is read as at most four digits
    rw [yearNumber, hnum]
    · simp only [Except.ok.injEq, Prod.mk.injEq, and_true]
      omega
    all_goals
      intro r h
      rw [(List.cons.inj h).1] at hc
      exact absurd hc (by decide)
  · split
    · rename_i hneg
      simp only [String.toList_append, show "-".toList = ['-'] by simp, List.cons_append,
        List.nil_append]
      rw [yearNumber.eq_1, hpadded _ (by omega)]
      simp only [bind, Except.bind, pure, Except.pure, Except.ok.injEq, Prod.mk.injEq, and_true]
      omega
    · rename_i hneg
      simp only [String.toList_append, show "+".toList = ['+'] by simp, List.cons_append,
        List.nil_append]
      rw [yearNumber.eq_2, hpadded _ (by omega)]
      simp only [Except.ok.injEq, Prod.mk.injEq, and_true]
      omega

theorem fraction_padded {w v : Nat} (hw : 0 < w) (hw9 : w ≤ 9) (hv : v < 10 ^ w) :
    fraction ((padded w v).toList ++ ['Z']) = .ok (v * 10 ^ (9 - w), ['Z']) := by
  have hlim : v ≤ 2 ^ 63 - 1 := by
    have : 10 ^ w ≤ 10 ^ 9 := Nat.pow_le_pow_right (by decide) hw9
    omega
  have h := number_digits ['Z'] 9 (fun c hc => isDigit_of_mem_padded hc) (padded_ne_nil w v)
    (by rw [length_padded hw hv]; exact hw9) (.inr (by simp))
    (by rw [ofDigitChars_padded]; exact hlim)
  rw [ofDigitChars_padded] at h
  simp only [fraction, h, bind, Except.bind, pure, Except.pure, List.length_append,
    length_padded hw hv, List.length_singleton, Nat.add_sub_cancel, Int.toNat_natCast]
  rfl

theorem within_of_le {lo hi v : Int} (h1 : lo ≤ v) (h2 : v ≤ hi) : within lo hi v = .ok () := by
  simp [within, h1, h2]

theorem dropBlank_yearText (y : Int) (rest : List Char) :
    dropBlank ((yearText y).toList ++ rest) = (yearText y).toList ++ rest := by
  unfold yearText
  split
  · exact dropBlank_padded 4 y.toNat rest
  · split <;> simp only [String.toList_append, List.append_assoc] <;>
      exact dropBlank_cons (by decide) _

theorem literal_cons (c : Char) (rest : List Char) : literal c (c :: rest) = .ok rest := by
  simp [literal]

theorem fractionText_cases {f : Nat} (hf : f < 10 ^ 9) : (f = 0 ∧ fractionText f = "") ∨
    ∃ w v, 0 < w ∧ w ≤ 9 ∧ v < 10 ^ w ∧ v * 10 ^ (9 - w) = f ∧ fractionText f = "." ++ padded w v := by
  unfold fractionText
  by_cases h0 : f = 0
  · exact .inl ⟨h0, by simp [h0]⟩
  · refine .inr ?_
    simp only [beq_iff_eq, h0, if_false]
    split
    · exact ⟨3, f / 1000000, by decide, by decide, by omega, by omega, rfl⟩
    · split
      · exact ⟨6, f / 1000, by decide, by decide, by omega, by omega, rfl⟩
      · exact ⟨9, f, by decide, by decide, by omega, by omega, rfl⟩

end Digits

/-- What the text of an instant needs to read back as it: a day within the calendar's range,
nanoseconds below two seconds, and a leap second only at the end of a minute. -/
structure Instant.Valid (t : Instant) : Prop where
  inRange : t.inRange = true
  nanos_lt : t.nanos < 2 * 10 ^ 9
  leap : 10 ^ 9 ≤ t.nanos → t.secondOfDay % 60 = 59

theorem Instant.seconds_eq (t : Instant) : t.seconds = t.day * 86400 + t.secondOfDay ∧
    t.secondOfDay < 86400 := by
  have h := Int.fdiv_eq_ediv_of_nonneg t.seconds (b := 86400) (by decide)
  simp only [Instant.secondOfDay, Instant.day, h]
  omega

theorem Instant.toList_text (t : Instant) : t.text.toList =
    (yearText t.date.year).toList ++ '-' :: ((twoDigits t.date.month).toList ++ '-' ::
      ((twoDigits t.date.day).toList ++ 'T' :: ((twoDigits (t.secondOfDay / 3600)).toList ++ ':' ::
      ((twoDigits (t.secondOfDay / 60 % 60)).toList ++ ':' ::
      ((twoDigits (t.secondOfDay % 60 + if t.nanos ≥ 1000000000 then 1 else 0)).toList ++
      ((fractionText (t.nanos % 1000000000)).toList ++ ['Z'])))))) := by
  simp [Instant.text, Instant.secondsText]

theorem Instant.read_text {t : Instant} (ht : t.Valid) :
    Reading.read t.text.toList = .ok (⟨t.date.year, t.date.month, t.date.day, t.secondOfDay / 3600,
      t.secondOfDay / 60 % 60, t.secondOfDay % 60 + (if t.nanos ≥ 1000000000 then 1 else 0),
      t.nanos % 1000000000, 0⟩, []) := by
  have hvalid : t.date.isValid = true := by
    have h := ht.inRange
    simp only [Instant.inRange, Bool.and_eq_true, decide_eq_true_eq] at h
    exact ofDays_isValid h.1 h.2
  simp only [CivilDate.isValid, Bool.and_eq_true, decide_eq_true_eq, minYear, maxYear] at hvalid
  obtain ⟨⟨⟨⟨⟨hy1, hy2⟩, hm1⟩, hm2⟩, hd1⟩, hd2⟩ := hvalid
  replace hy1 := of_decide_eq_true hy1
  replace hy2 := of_decide_eq_true hy2
  have hdays : daysInMonth t.date.year t.date.month ≤ 31 := by
    unfold daysInMonth; split <;> (try split) <;> omega
  have ⟨hsec, hsod⟩ := t.seconds_eq
  have hleap := ht.leap
  have hsecond : t.secondOfDay % 60 + (if t.nanos ≥ 1000000000 then 1 else 0) ≤ 60 := by
    split
    · have := hleap (by omega); omega
    · omega
  have hzone : zoneOffset ['Z'] = .ok (0, []) := rfl
  have hutc : startsWithUtc ['Z'] = false := rfl
  have hfrac := fractionText_cases (f := t.nanos % 1000000000) (Nat.mod_lt _ (by decide))
  simp only [Instant.toList_text, Reading.read, dropBlank_yearText, yearNumber_yearText (y := t.date.year) (by omega),
    twoDigits_eq_padded (show t.date.month < 100 by omega), twoDigits_eq_padded (show t.date.day < 100 by omega),
    twoDigits_eq_padded (show t.secondOfDay / 3600 < 100 by omega),
    twoDigits_eq_padded (show t.secondOfDay / 60 % 60 < 100 by omega),
    twoDigits_eq_padded (show t.secondOfDay % 60 + (if t.nanos ≥ 1000000000 then 1 else 0) < 100 by omega),
    bind, Except.bind, within_of_le (show -2147483648 ≤ t.date.year by omega) (show t.date.year ≤ 2147483647 by omega),
    dropBlank_cons (c := '-') (by decide), dropBlank_cons (c := ':') (by decide), literal_cons,
    dropBlank_padded, number_padded (w := 2) (n := t.date.month) (by decide) (by omega) (by omega),
    number_padded (w := 2) (n := t.date.day) (by decide) (by omega) (by omega),
    number_padded (w := 2) (n := t.secondOfDay / 3600) (by decide) (by omega) (by omega),
    number_padded (w := 2) (n := t.secondOfDay / 60 % 60) (by decide) (by omega) (by omega),
    number_padded (w := 2) (n := t.secondOfDay % 60 + (if t.nanos ≥ 1000000000 then 1 else 0))
      (by decide) (by omega) (by omega),
    within_of_le (show (1 : Int) ≤ t.date.month by omega) (show (t.date.month : Int) ≤ 12 by omega),
    within_of_le (show (1 : Int) ≤ t.date.day by omega) (show (t.date.day : Int) ≤ 31 by omega),
    within_of_le (show (0 : Int) ≤ ((t.secondOfDay / 3600 : Nat) : Int) by omega)
      (show ((t.secondOfDay / 3600 : Nat) : Int) ≤ 23 by omega),
    within_of_le (show (0 : Int) ≤ ((t.secondOfDay / 60 % 60 : Nat) : Int) by omega)
      (show ((t.secondOfDay / 60 % 60 : Nat) : Int) ≤ 59 by omega),
    within_of_le (show (0 : Int) ≤ ((t.secondOfDay % 60 + (if t.nanos ≥ 1000000000 then 1 else 0) : Nat) : Int) by omega)
      (show ((t.secondOfDay % 60 + (if t.nanos ≥ 1000000000 then 1 else 0) : Nat) : Int) ≤ 60 by omega),
    pure, Except.pure, decide_true, Bool.true_or, if_true, Int.toNat_natCast]
  rcases hfrac with ⟨hf0, hf⟩ | ⟨w, v, hw, hw9, hv, hvf, hf⟩
  · rw [hf]
    simp [dropBlank_cons (c := 'Z') (by decide), hutc, hzone, hf0]
  · rw [hf]
    simp [fraction_padded hw hw9 hv, dropBlank_cons (c := 'Z') (by decide), hutc, hzone, hvf]

theorem Instant.parse_text {t : Instant} (ht : t.Valid) : Instant.parse t.text = .ok t := by
  have ⟨hsec, hsod⟩ := t.seconds_eq
  have hdays : t.date.toDays = t.day := toDays_ofDays t.day
  have hvalid : (⟨t.date.year, t.date.month, t.date.day⟩ : CivilDate).isValid = true := by
    have h := ht.inRange
    simp only [Instant.inRange, Bool.and_eq_true, decide_eq_true_eq] at h
    exact ofDays_isValid h.1 h.2
  -- the second read back, with the leap second moved into the nanoseconds, gives the instant
  have hinst : (Instant.ofCivil ⟨t.date.year, t.date.month, t.date.day⟩ (t.secondOfDay / 3600)
      (t.secondOfDay / 60 % 60)
      (if (t.secondOfDay % 60 + if t.nanos ≥ 1000000000 then 1 else 0) = 60 then (59, 1000000000)
        else (t.secondOfDay % 60 + if t.nanos ≥ 1000000000 then 1 else 0, 0)).1
      (t.nanos % 1000000000 +
        (if (t.secondOfDay % 60 + if t.nanos ≥ 1000000000 then 1 else 0) = 60 then (59, 1000000000)
          else (t.secondOfDay % 60 + if t.nanos ≥ 1000000000 then 1 else 0, 0)).2)).addSeconds (-0) =
      t := by
    have hnanos := ht.nanos_lt
    have hd : (⟨t.date.year, t.date.month, t.date.day⟩ : CivilDate) = t.date := rfl
    have hext : ∀ a b, (⟨a, b⟩ : Instant) = t ↔ a = t.seconds ∧ b = t.nanos := by
      intro a b
      cases t
      simp
    by_cases hl : t.nanos ≥ 1000000000
    · have h59 := ht.leap hl
      simp only [hl, if_true, h59, Instant.ofCivil, Instant.addSeconds, hd, hdays, hext]
      omega
    · simp only [hl, if_false, Nat.add_zero, Instant.ofCivil, Instant.addSeconds, hd, hdays]
      rw [if_neg (by omega), hext]
      omega
  simp only [Instant.parse, Instant.read_text ht, bind, Except.bind, Reading.toInstant, hvalid,
    Bool.not_true, Bool.false_eq_true, if_false, pure, Except.pure, hinst, ht.inRange]
  simp [dropBlank]

end TurnLedger.Time
