import Mathlib.Tactic.IntervalCases
import TurnLedger.Proofs.InstantText

/-!
# Calendar order

Dates number their days in calendar order: a date earlier by year, then month, then day has
fewer days since 1970-01-01 (`toDays_lt_toDays`), so `CivilDate.ofDays` gives later dates to
later days (`key_ofDays_lt_iff`).

The proof counts years from March, as the numbering does. A March year starts on the day
`marchFirst`, a formula in the year alone that grows with it; a date is that start plus its day
of the March year (`toDays_eq`), which stays below the year's length, 365 days or 366 when the
February that closes it has 29. Between two dates either the March year grows, and the year's
length carries the earlier date below the later one, or it stays, and the months counted from
March fill the year in order.
-/

namespace TurnLedger.Time

def CivilDate.key (d : CivilDate) : Int := (d.year * 100 + d.month) * 100 + d.day

/-- The year counted from March that a date falls in: January and February close the year
before. -/
def CivilDate.marchYear (d : CivilDate) : Int := if d.month ≤ 2 then d.year - 1 else d.year

def CivilDate.marchMonth (d : CivilDate) : Int :=
  if d.month > 2 then d.month - 3 else d.month + 9

def CivilDate.marchDay (d : CivilDate) : Int := (153 * d.marchMonth + 2) / 5 + d.day - 1

def marchFirst (y : Int) : Int := 365 * y + y / 4 - y / 100 + y / 400 - 719468

section MarchYears

theorem CivilDate.toDays_eq (d : CivilDate) : d.toDays = marchFirst d.marchYear + d.marchDay := by
  simp only [CivilDate.toDays, marchFirst, CivilDate.marchDay, CivilDate.marchMonth,
    CivilDate.marchYear]
  split <;> split <;> rw [Int.fdiv_eq_ediv_of_nonneg _ (by decide)] <;> omega

theorem marchFirst_mono {y₁ y₂ : Int} (h : y₁ ≤ y₂) : marchFirst y₁ ≤ marchFirst y₂ := by
  unfold marchFirst
  omega

theorem isLeapYear_iff (y : Int) :
    isLeapYear y = true ↔ (y % 4 = 0 ∧ y % 100 ≠ 0) ∨ y % 400 = 0 := by
  simp [isLeapYear]

theorem marchFirst_succ (y : Int) :
    marchFirst (y + 1) - marchFirst y = 365 + if isLeapYear (y + 1) then 1 else 0 := by
  unfold marchFirst
  by_cases hl : isLeapYear (y + 1) = true
  · have := (isLeapYear_iff _).1 hl
    rw [if_pos hl]
    omega
  · have := mt (isLeapYear_iff _).2 hl
    rw [if_neg hl]
    omega

theorem CivilDate.march_cases (d : CivilDate) :
    (d.month ≤ 2 ∧ d.marchYear = d.year - 1 ∧ d.marchMonth = d.month + 9) ∨
      (2 < d.month ∧ d.marchYear = d.year ∧ d.marchMonth = d.month - 3) := by
  unfold CivilDate.marchYear CivilDate.marchMonth
  by_cases h : d.month ≤ 2
  · exact .inl ⟨h, by simp [h], by rw [if_neg (by omega)]⟩
  · exact .inr ⟨by omega, by simp [h], by rw [if_pos (by omega)]⟩

theorem CivilDate.march_bounds {d : CivilDate} (hd : d.isValid = true) :
    1 ≤ d.day ∧ 1 ≤ d.month ∧ d.month ≤ 12 ∧ d.day ≤ 31 ∧ 0 ≤ d.marchMonth ∧ d.marchMonth ≤ 11 ∧
      (d.marchMonth ≤ 10 →
        (d.day : Int) ≤ (153 * (d.marchMonth + 1) + 2) / 5 - (153 * d.marchMonth + 2) / 5) ∧
      (d.marchMonth = 11 → (d.day : Int) ≤ 28 + if isLeapYear (d.marchYear + 1) then 1 else 0) := by
  simp only [CivilDate.isValid, Bool.and_eq_true, decide_eq_true_eq] at hd
  obtain ⟨⟨⟨⟨⟨-, -⟩, hm1⟩, hm2⟩, hd1⟩, hd2⟩ := hd
  obtain ⟨y, m, day⟩ := d
  simp only at hm1 hm2 hd1 hd2
  simp only [CivilDate.marchMonth, CivilDate.marchYear]
  interval_cases m <;> simp [daysInMonth] at hd2 ⊢ <;> (try split_ifs at hd2 ⊢) <;> omega

theorem CivilDate.marchDay_lt {d : CivilDate} (hd : d.isValid = true) :
    0 ≤ d.marchDay ∧ d.marchDay < marchFirst (d.marchYear + 1) - marchFirst d.marchYear := by
  obtain ⟨h1, -, -, -, h2, h3, h4, h5⟩ := d.march_bounds hd
  rw [marchFirst_succ]
  unfold CivilDate.marchDay
  by_cases hfeb : d.marchMonth = 11
  · have := h5 hfeb
    split_ifs at this ⊢ <;> omega
  · have := h4 (by omega)
    split_ifs <;> omega

theorem CivilDate.marchYear_le {a b : CivilDate} (ha : a.isValid = true) (hb : b.isValid = true)
    (h : a.key < b.key) : a.marchYear ≤ b.marchYear := by
  have := a.march_bounds ha
  have := b.march_bounds hb
  have := a.march_cases
  have := b.march_cases
  unfold CivilDate.key at h
  omega

theorem CivilDate.marchDay_lt_marchDay {a b : CivilDate} (ha : a.isValid = true)
    (hb : b.isValid = true) (hy : a.marchYear = b.marchYear) (h : a.key < b.key) :
    a.marchDay < b.marchDay := by
  obtain ⟨ha1, ha0, ha2, ha3, ha4, ha5, ha6, -⟩ := a.march_bounds ha
  obtain ⟨hb1, hb0, hb2, hb3, hb4, hb5, -, -⟩ := b.march_bounds hb
  have hca := a.march_cases
  have hcb := b.march_cases
  unfold CivilDate.key at h
  unfold CivilDate.marchDay
  -- the months counted from March come in calendar order within the year
  have hm : a.marchMonth < b.marchMonth ∨ (a.marchMonth = b.marchMonth ∧ a.day < b.day) := by
    omega
  rcases hm with hm | ⟨hm, hd⟩
  · have := ha6 (by omega)
    have : (153 * (a.marchMonth + 1) + 2) / 5 ≤ (153 * b.marchMonth + 2) / 5 := by omega
    omega
  · rw [hm]
    omega

end MarchYears

theorem CivilDate.toDays_lt_toDays {a b : CivilDate} (ha : a.isValid = true)
    (hb : b.isValid = true) (h : a.key < b.key) : a.toDays < b.toDays := by
  rw [a.toDays_eq, b.toDays_eq]
  rcases (a.marchYear_le ha hb h).lt_or_eq with hy | hy
  · -- a later March year starts after the whole of the earlier one
    have hlen := (a.marchDay_lt ha).2
    have hstart := marchFirst_mono (show a.marchYear + 1 ≤ b.marchYear by omega)
    have := (b.marchDay_lt hb).1
    omega
  · rw [hy]
    have := a.marchDay_lt_marchDay ha hb hy h
    omega

theorem CivilDate.eq_of_key_eq {a b : CivilDate} (ha : a.isValid = true) (hb : b.isValid = true)
    (h : a.key = b.key) : a = b := by
  obtain ⟨-, -, ha2, ha3, -⟩ := a.march_bounds ha
  obtain ⟨-, -, hb2, hb3, -⟩ := b.march_bounds hb
  obtain ⟨ya, ma, da⟩ := a
  obtain ⟨yb, mb, db⟩ := b
  unfold CivilDate.key at h
  simp only at h ha2 ha3 hb2 hb3
  simp only [CivilDate.mk.injEq]
  omega

theorem CivilDate.toDays_le_toDays {a b : CivilDate} (ha : a.isValid = true)
    (hb : b.isValid = true) (h : a.key ≤ b.key) : a.toDays ≤ b.toDays := by
  rcases h.lt_or_eq with h | h
  · exact (CivilDate.toDays_lt_toDays ha hb h).le
  · rw [CivilDate.eq_of_key_eq ha hb h]

theorem CivilDate.toDays_mem {d : CivilDate} (hd : d.isValid = true) :
    firstDay ≤ d.toDays ∧ d.toDays ≤ lastDay := by
  have hy : minYear ≤ d.year ∧ d.year ≤ maxYear := by
    simp only [CivilDate.isValid, Bool.and_eq_true, decide_eq_true_eq] at hd
    exact ⟨hd.1.1.1.1.1, hd.1.1.1.1.2⟩
  obtain ⟨h1, h0, h2, h3, -⟩ := d.march_bounds hd
  simp only [minYear, maxYear] at hy
  refine ⟨CivilDate.toDays_le_toDays (by decide) hd ?_, CivilDate.toDays_le_toDays hd (by decide) ?_⟩
  all_goals
    simp only [CivilDate.key, minYear, maxYear]
    omega

section Days

variable {z₁ z₂ : Int}

theorem isValid_ofDays_of_mem (h : firstDay ≤ z₁ ∧ z₁ ≤ lastDay) :
    (CivilDate.ofDays z₁).isValid = true :=
  ofDays_isValid h.1 h.2

theorem key_ofDays_lt_iff (h₁ : firstDay ≤ z₁ ∧ z₁ ≤ lastDay) (h₂ : firstDay ≤ z₂ ∧ z₂ ≤ lastDay) :
    (CivilDate.ofDays z₁).key < (CivilDate.ofDays z₂).key ↔ z₁ < z₂ := by
  have hv₁ := isValid_ofDays_of_mem h₁
  have hv₂ := isValid_ofDays_of_mem h₂
  constructor
  · intro h
    simpa only [toDays_ofDays] using CivilDate.toDays_lt_toDays hv₁ hv₂ h
  · intro h
    rcases lt_trichotomy (CivilDate.ofDays z₁).key (CivilDate.ofDays z₂).key with hk | hk | hk
    · exact hk
    · have := congrArg CivilDate.toDays (CivilDate.eq_of_key_eq hv₁ hv₂ hk)
      simp only [toDays_ofDays] at this
      omega
    · have := CivilDate.toDays_lt_toDays hv₂ hv₁ hk
      simp only [toDays_ofDays] at this
      omega

theorem key_ofDays_eq_iff (h₁ : firstDay ≤ z₁ ∧ z₁ ≤ lastDay) (h₂ : firstDay ≤ z₂ ∧ z₂ ≤ lastDay) :
    (CivilDate.ofDays z₁).key = (CivilDate.ofDays z₂).key ↔ z₁ = z₂ := by
  constructor
  · intro h
    have := congrArg CivilDate.toDays
      (CivilDate.eq_of_key_eq (isValid_ofDays_of_mem h₁) (isValid_ofDays_of_mem h₂) h)
    simpa only [toDays_ofDays] using this
  · rintro rfl
    rfl

end Days

end TurnLedger.Time
