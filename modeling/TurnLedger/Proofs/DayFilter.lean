import TurnLedger.Proofs.StoreRefinement

/-!
# The day a filter names

A filter's day gives no span when the filter names no day or a blank one, is refused with its
trimmed text when that text is no date, and otherwise spans from the day's midnight to the next
one. The span holds exactly the instants whose date is that day, whatever their nanoseconds, so
a leap second counts with the day it ends (`inSpan_span_iff`). The last day of the
calendar has no next midnight, and its span is the one failure that a readable day meets
(`Filters.dayBounds_spec`).
-/

namespace TurnLedger.Time

theorem CivilDate.toDays_inj {a b : CivilDate} (ha : a.isValid = true) (hb : b.isValid = true) :
    a.toDays = b.toDays ↔ a = b := by
  refine ⟨fun h => ?_, congrArg _⟩
  rcases lt_trichotomy a.key b.key with hk | hk | hk
  · exact absurd h (CivilDate.toDays_lt_toDays ha hb hk).ne
  · exact CivilDate.eq_of_key_eq ha hb hk
  · exact absurd h (CivilDate.toDays_lt_toDays hb ha hk).ne'

theorem CivilDate.ofDays_toDays {d : CivilDate} (hd : d.isValid = true) :
    CivilDate.ofDays d.toDays = d :=
  (CivilDate.toDays_inj (isValid_ofDays_of_mem (CivilDate.toDays_mem hd)) hd).1 (toDays_ofDays _)

theorem CivilDate.toDays_eq_lastDay_iff {d : CivilDate} (hd : d.isValid = true) :
    d.toDays = lastDay ↔ d = ⟨maxYear, 12, 31⟩ :=
  CivilDate.toDays_inj hd (by decide)

theorem Instant.day_eq_iff {t : Instant} {z : Int} :
    t.day = z ↔ z * 86400 ≤ t.seconds ∧ t.seconds < z * 86400 + 86400 := by
  rw [Instant.day, Int.fdiv_eq_ediv_of_nonneg _ (by decide)]
  omega

theorem Instant.date_eq_iff {t : Instant} {d : CivilDate} (hd : d.isValid = true) :
    t.date = d ↔ t.day = d.toDays := by
  constructor
  · rintro rfl
    exact (toDays_ofDays t.day).symm
  · intro h
    rw [Instant.date, h, CivilDate.ofDays_toDays hd]

def CivilDate.midnight (d : CivilDate) : Instant := Instant.ofCivil d 0 0 0 0

def CivilDate.span (d : CivilDate) : Instant × Instant := (d.midnight, d.midnight.addSeconds 86400)

theorem inRange_span_end {d : CivilDate} (hd : d.isValid = true) :
    d.span.2.inRange = true ↔ d ≠ ⟨maxYear, 12, 31⟩ := by
  have hday : d.span.2.day = d.toDays + 1 := by
    rw [Instant.day_eq_iff]
    simp only [CivilDate.span, CivilDate.midnight, Instant.ofCivil, Instant.addSeconds]
    omega
  obtain ⟨h1, h2⟩ := CivilDate.toDays_mem hd
  rw [ne_eq, ← CivilDate.toDays_eq_lastDay_iff hd]
  simp only [Instant.inRange, hday, Bool.and_eq_true, decide_eq_true_eq]
  omega

theorem CivilDate.parse_empty : CivilDate.parse "" = .error .tooShort := rfl

end TurnLedger.Time

namespace TurnLedger.Activity

open Time

variable {f : Filters}

theorem inSpan_span_iff (d : CivilDate) (t : Instant) :
    inSpan d.span t = true ↔ t.day = d.toDays := by
  rw [Instant.day_eq_iff]
  simp only [inSpan, CivilDate.span, CivilDate.midnight, Bool.and_eq_true, bne_iff_ne, ne_eq,
    beq_iff_eq, Instant.compare_eq_gt_iff, Instant.compare_eq_lt_iff, Instant.ofCivil,
    Instant.addSeconds]
  omega

theorem filled?_eq_none_iff {o : Option String} :
    filled? o = none ↔ o = none ∨ ∃ s, o = some s ∧ Text.trim s = "" := by
  cases o <;> simp [filled?]

theorem filled?_eq_some_iff {o : Option String} {raw : String} :
    filled? o = some raw ↔ ∃ s, o = some s ∧ raw = Text.trim s ∧ raw ≠ "" := by
  cases o with
  | none => simp [filled?]
  | some s =>
    by_cases h : Text.trim s = ""
    · simp [filled?, h]
    · have hne : (Text.trim s).isEmpty = false := by simpa [String.isEmpty_iff] using h
      simp only [filled?, Option.map_some, Option.filter_some, Option.some.injEq, exists_eq_left',
        hne, Bool.not_false, ite_true]
      constructor
      · rintro rfl
        exact ⟨rfl, h⟩
      · rintro ⟨rfl, -⟩
        rfl

theorem dayBounds_of_filled {raw : String} (h : filled? f.date = some raw) :
    f.dayBounds = match CivilDate.parse raw with
      | .error _ => .error (.invalid raw)
      | .ok d => if d.span.2.inRange then .ok (some d.span) else .error .overflow := by
  unfold Filters.dayBounds
  rw [h]
  rfl

theorem dayBounds_of_parse {raw : String} {d : CivilDate} (h : filled? f.date = some raw)
    (hp : CivilDate.parse raw = .ok d) :
    f.dayBounds = if d = ⟨maxYear, 12, 31⟩ then .error .overflow else .ok (some d.span) := by
  have hd := Store.CivilDate.parse_isValid hp
  rw [dayBounds_of_filled h, hp]
  by_cases hlast : d = ⟨maxYear, 12, 31⟩
  · have hout : d.span.2.inRange = false := by
      rw [← Bool.not_eq_true, inRange_span_end hd, not_not]
      exact hlast
    rw [if_pos hlast]
    simp [hout]
  · simp [(inRange_span_end hd).2 hlast, hlast]

theorem dayBounds_eq (f : Filters) :
    f.dayBounds = match filled? f.date with
      | none => .ok none
      | some raw => match CivilDate.parse raw with
        | .error _ => .error (.invalid raw)
        | .ok d => if d = ⟨maxYear, 12, 31⟩ then .error .overflow else .ok (some d.span) := by
  split
  · rename_i h
    simp [Filters.dayBounds, h]
  · rename_i raw h
    split
    · rename_i e hp
      rw [dayBounds_of_filled h, hp]
    · rename_i d hp
      exact dayBounds_of_parse h hp

theorem dayBounds_eq_ok_none_iff : f.dayBounds = .ok none ↔ filled? f.date = none := by
  rcases hf : filled? f.date with _ | raw
  · simp [dayBounds_eq, hf]
  · rcases hp : CivilDate.parse raw with e | d
    · simp [dayBounds_eq, hf, hp]
    · simp only [dayBounds_eq, hf, hp, reduceCtorEq, iff_false]
      split_ifs <;> simp

theorem dayBounds_eq_invalid_iff {raw : String} :
    f.dayBounds = .error (.invalid raw) ↔ filled? f.date = some raw ∧ ∀ d, CivilDate.parse raw ≠ .ok d := by
  rcases hf : filled? f.date with _ | raw'
  · simp [dayBounds_eq, hf]
  · rcases hp : CivilDate.parse raw' with e | d
    · simp only [dayBounds_eq, hf, hp, Except.error.injEq, DateRangeError.invalid.injEq,
        Option.some.injEq]
      constructor
      · rintro rfl
        exact ⟨rfl, fun d => by simp [hp]⟩
      · rintro ⟨rfl, -⟩
        rfl
    · simp only [dayBounds_eq, hf, hp, Option.some.injEq]
      constructor
      · intro h
        split_ifs at h
        cases h
      · rintro ⟨rfl, hnp⟩
        exact absurd hp (hnp d)

theorem dayBounds_eq_overflow_iff :
    f.dayBounds = .error .overflow ↔
      ∃ raw, filled? f.date = some raw ∧ CivilDate.parse raw = .ok ⟨maxYear, 12, 31⟩ := by
  rcases hf : filled? f.date with _ | raw
  · simp [dayBounds_eq, hf]
  · rcases hp : CivilDate.parse raw with e | d
    · simp [dayBounds_eq, hf, hp]
    · simp only [dayBounds_eq, hf, hp, Option.some.injEq, exists_eq_left', Except.ok.injEq]
      split_ifs <;> simp_all

theorem trim_ne_empty_of_parse {s : String} {d : CivilDate}
    (hp : CivilDate.parse (Text.trim s) = .ok d) : Text.trim s ≠ "" := by
  intro h
  rw [h, CivilDate.parse_empty] at hp
  cases hp

/-- What a filter's day gives, for every filter: no span for an absent or blank day; a refusal
naming the trimmed text when that is no date; a failure for the last day of the calendar, which
has no next midnight; and otherwise the span from the day's midnight to the next, which holds
exactly the instants of that date. -/
theorem Filters.dayBounds_spec (f : Filters) :
    (f.dayBounds = .ok none ↔ f.date = none ∨ ∃ s, f.date = some s ∧ Text.trim s = "") ∧
    (∀ raw, f.dayBounds = .error (.invalid raw) ↔
      ∃ s, f.date = some s ∧ raw = Text.trim s ∧ raw ≠ "" ∧ ∀ d, CivilDate.parse raw ≠ .ok d) ∧
    (f.dayBounds = .error .overflow ↔
      ∃ s, f.date = some s ∧ CivilDate.parse (Text.trim s) = .ok ⟨maxYear, 12, 31⟩) ∧
    ∀ s d, f.date = some s → CivilDate.parse (Text.trim s) = .ok d → d ≠ ⟨maxYear, 12, 31⟩ →
      f.dayBounds = .ok (some d.span) ∧ ∀ t : Instant, inSpan d.span t = true ↔ t.date = d := by
  refine ⟨by rw [dayBounds_eq_ok_none_iff, filled?_eq_none_iff], fun raw => ?_, ?_, ?_⟩
  · rw [dayBounds_eq_invalid_iff, filled?_eq_some_iff]
    constructor
    · rintro ⟨⟨s, hs, rfl, hne⟩, hp⟩
      exact ⟨s, hs, rfl, hne, hp⟩
    · rintro ⟨s, hs, rfl, hne, hp⟩
      exact ⟨⟨s, hs, rfl, hne⟩, hp⟩
  · rw [dayBounds_eq_overflow_iff]
    constructor
    · rintro ⟨raw, hraw, hp⟩
      obtain ⟨s, hs, rfl, -⟩ := filled?_eq_some_iff.1 hraw
      exact ⟨s, hs, hp⟩
    · rintro ⟨s, hs, hp⟩
      exact ⟨_, filled?_eq_some_iff.2 ⟨s, hs, rfl, trim_ne_empty_of_parse hp⟩, hp⟩
  · intro s d hs hp hlast
    have hfill : filled? f.date = some (Text.trim s) :=
      filled?_eq_some_iff.2 ⟨s, hs, rfl, trim_ne_empty_of_parse hp⟩
    refine ⟨by simpa [hlast] using dayBounds_of_parse hfill hp, fun t => ?_⟩
    rw [inSpan_span_iff, Instant.date_eq_iff (Store.CivilDate.parse_isValid hp)]

/-- The last day of the calendar is refused, while a day before it spans its own date. -/
theorem Filters.dayBounds_spec_calendar_end :
    ({ date := some " +262142-12-31" } : Filters).dayBounds = .error .overflow ∧
      ({ date := some "2026-02-19" } : Filters).dayBounds = .ok (some (CivilDate.span ⟨2026, 2, 19⟩)) ∧
      ∀ t : Instant, inSpan (CivilDate.span ⟨2026, 2, 19⟩) t = true ↔ t.date = ⟨2026, 2, 19⟩ :=
  have hlast := (Filters.dayBounds_spec { date := some " +262142-12-31" }).2.2.1
  have hday := (Filters.dayBounds_spec { date := some "2026-02-19" }).2.2.2 "2026-02-19" ⟨2026, 2, 19⟩
    rfl (by decide) (by decide)
  ⟨hlast.2 ⟨_, rfl, by decide⟩, hday⟩

end TurnLedger.Activity
