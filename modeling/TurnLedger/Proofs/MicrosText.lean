import TurnLedger.Proofs.CalendarOrder

/-!
# Six-digit time texts

A database keeps an instant as its text with exactly six digits of fraction
(`Instant.microsText`). For the years 0 to 9999 these texts have one width and compare as their
instants cut to whole microseconds (`microsText_lt_iff_trunc`, `microsText_eq_iff_trunc`), and a
strict reading gives the cut instant back (`parseStrict_microsText`). A year outside that range
is written with a sign, which sorts before every digit: such a text comes before every
four-digit one (`microsText_lt_of_signed`), whether its instant is earlier or later.

The comparison goes through the number a text writes with its separators left out
(`microsKey`). Texts of one shape compare field by field, a fixed-width field by its value; the
date fields follow the day (`key_ofDays_lt_iff`) and the time fields the second of the day, a
leap second being written as second 60 of its minute.
-/

namespace TurnLedger.Time

/-- An instant cut to whole microseconds, as a six-digit fraction keeps it. -/
def Instant.truncMicros (t : Instant) : Instant := ⟨t.seconds, t.nanos / 1000 * 1000⟩

/-- An instant whose text has a four-digit year: a valid instant of the years 0 to 9999. -/
structure Instant.Plain (t : Instant) : Prop where
  valid : t.Valid
  year_nonneg : 0 ≤ t.date.year
  year_le : t.date.year ≤ 9999

def Instant.secondField (t : Instant) : Nat :=
  t.secondOfDay % 60 + if t.nanos ≥ 1000000000 then 1 else 0

/-- The time of day as a six-digit text writes it, separators left out: hours, minutes,
seconds and microseconds. -/
def Instant.clockKey (t : Instant) : Nat :=
  ((t.secondOfDay / 3600 * 100 + t.secondOfDay / 60 % 60) * 100 + t.secondField) * 1000000 +
    t.nanos % 1000000000 / 1000

def Instant.microsKey (t : Instant) : Int := t.date.key * 1000000000000 + t.clockKey

section Digits

theorem char_lt_iff {c d : Char} : c < d ↔ c.toNat < d.toNat := UInt32.lt_iff_toNat_lt

theorem append_lt_append_iff {a b c d : List Char} (h : a.length = b.length) :
    a ++ c < b ++ d ↔ a < b ∨ (a = b ∧ c < d) := by
  induction a generalizing b with
  | nil =>
    obtain rfl : b = [] := List.eq_nil_of_length_eq_zero h.symm
    simp
  | cons x a ih =>
    obtain ⟨y, b, rfl⟩ := List.exists_cons_of_length_eq_add_one h.symm
    simp only [List.cons_append, List.cons_lt_cons_iff, List.cons.injEq, ih (by simpa using h)]
    tauto

theorem ofDigitChars_lt {ds : List Char} (hd : ∀ c ∈ ds, c.isDigit = true) :
    Nat.ofDigitChars 10 ds 0 < 10 ^ ds.length := by
  induction ds with
  | nil => simp
  | cons c ds ih =>
    have hc := Char.isDigit_iff_toNat.1 (hd c List.mem_cons_self)
    have hv := ih fun e he => hd e (List.mem_cons_of_mem _ he)
    simp only [Char.reduceToNat] at hc
    rw [Nat.ofDigitChars_cons, Nat.ofDigitChars_eq_ofDigitChars_zero, List.length_cons]
    simp only [Nat.mul_zero, Nat.zero_add, Char.reduceToNat]
    calc 10 ^ ds.length * (c.toNat - 48) + Nat.ofDigitChars 10 ds 0
        < 10 ^ ds.length * (c.toNat - 48) + 10 ^ ds.length := by omega
      _ = 10 ^ ds.length * (c.toNat - 48 + 1) := by rw [Nat.mul_succ]
      _ ≤ 10 ^ ds.length * 10 := Nat.mul_le_mul_left _ (by omega)
      _ = 10 ^ (ds.length + 1) := (Nat.pow_succ ..).symm

theorem digits_lt_iff {ds es : List Char} (hd : ∀ c ∈ ds, c.isDigit = true)
    (he : ∀ c ∈ es, c.isDigit = true) (h : ds.length = es.length) :
    ds < es ↔ Nat.ofDigitChars 10 ds 0 < Nat.ofDigitChars 10 es 0 := by
  induction ds generalizing es with
  | nil =>
    obtain rfl : es = [] := List.eq_nil_of_length_eq_zero h.symm
    simp
  | cons c ds ih =>
    obtain ⟨e, es, rfl⟩ := List.exists_cons_of_length_eq_add_one h.symm
    have hc := Char.isDigit_iff_toNat.1 (hd c List.mem_cons_self)
    have he' := Char.isDigit_iff_toNat.1 (he e List.mem_cons_self)
    have hds : ∀ x ∈ ds, x.isDigit = true := fun x hx => hd x (List.mem_cons_of_mem _ hx)
    have hes : ∀ x ∈ es, x.isDigit = true := fun x hx => he x (List.mem_cons_of_mem _ hx)
    have hlen : ds.length = es.length := by simpa using h
    have hv := ofDigitChars_lt hds
    have hw := ofDigitChars_lt hes
    have hsplit : ∀ (l : List Char) (n : Nat),
        Nat.ofDigitChars 10 l n = 10 ^ l.length * n + Nat.ofDigitChars 10 l 0 :=
      fun _ _ => Nat.ofDigitChars_eq_ofDigitChars_zero
    simp only [Char.reduceToNat] at hc he'
    rw [List.cons_lt_cons_iff, ih hds hes hlen, char_lt_iff, ← Char.toNat_inj]
    simp only [Nat.ofDigitChars_cons, Nat.mul_zero, Nat.zero_add, Char.reduceToNat]
    rw [hsplit ds (c.toNat - 48), hsplit es (e.toNat - 48), ← hlen]
    rw [← hlen] at hw
    -- the leading digits decide unless they are equal: the rest stays below one step of them
    generalize 10 ^ ds.length = p at hv hw
    constructor
    · rintro (hlt | ⟨heq, hlt⟩)
      · have : p * (c.toNat - 48) + p ≤ p * (e.toNat - 48) := by
          rw [← Nat.mul_succ]
          exact Nat.mul_le_mul_left _ (by omega)
        omega
      · rw [heq]
        omega
    · intro hlt
      rcases Nat.lt_trichotomy c.toNat e.toNat with hce | hce | hce
      · exact .inl hce
      · rw [hce] at hlt
        exact .inr ⟨hce, by omega⟩
      · have : p * (e.toNat - 48) + p ≤ p * (c.toNat - 48) := by
          rw [← Nat.mul_succ]
          exact Nat.mul_le_mul_left _ (by omega)
        omega

theorem padded_inj {w x y : Nat} (h : (padded w x).toList = (padded w y).toList) : x = y := by
  simpa [ofDigitChars_padded] using congrArg (Nat.ofDigitChars 10 · 0) h

theorem padded_append_lt_iff {w x y : Nat} (hw : 0 < w) (hx : x < 10 ^ w) (hy : y < 10 ^ w)
    (r₁ r₂ : List Char) :
    (padded w x).toList ++ r₁ < (padded w y).toList ++ r₂ ↔ x < y ∨ (x = y ∧ r₁ < r₂) := by
  have hlen : (padded w x).toList.length = (padded w y).toList.length := by
    rw [length_padded hw hx, length_padded hw hy]
  rw [append_lt_append_iff hlen, digits_lt_iff (fun c hc => isDigit_of_mem_padded hc)
    (fun c hc => isDigit_of_mem_padded hc) hlen, ofDigitChars_padded, ofDigitChars_padded]
  constructor
  · rintro (h | ⟨h, hr⟩)
    · exact .inl h
    · exact .inr ⟨padded_inj h, hr⟩
  · rintro (h | ⟨rfl, hr⟩)
    · exact .inl h
    · exact .inr ⟨rfl, hr⟩

theorem padded_append_inj {w x y : Nat} (hw : 0 < w) (hx : x < 10 ^ w) (hy : y < 10 ^ w)
    (r₁ r₂ : List Char) :
    (padded w x).toList ++ r₁ = (padded w y).toList ++ r₂ ↔ x = y ∧ r₁ = r₂ := by
  have hlen : (padded w x).toList.length = (padded w y).toList.length := by
    rw [length_padded hw hx, length_padded hw hy]
  constructor
  · intro h
    obtain ⟨h, hr⟩ := List.append_inj h hlen
    exact ⟨padded_inj h, hr⟩
  · rintro ⟨rfl, rfl⟩
    rfl

end Digits

section Clock

variable {a b : Instant}

theorem Instant.clockKey_eq (t : Instant) : t.clockKey =
    ((t.secondOfDay / 60 / 60 * 100 + t.secondOfDay / 60 % 60) * 100 + t.secondField) * 1000000 +
      t.nanos % 1000000000 / 1000 := by
  rw [Nat.div_div_eq_div_mul]
  rfl

theorem Instant.Valid.clock {t : Instant} (ht : t.Valid) :
    t.secondOfDay < 86400 ∧ t.nanos < 2000000000 ∧
      (t.nanos ≥ 1000000000 → t.secondOfDay % 60 = 59 ∧ t.secondField = 60) ∧
      (t.nanos < 1000000000 → t.secondField = t.secondOfDay % 60) := by
  have hsod := t.seconds_eq.2
  have hn := ht.nanos_lt
  refine ⟨hsod, by omega, fun h => ?_, fun h => ?_⟩
  · have := ht.leap h
    simp only [Instant.secondField, if_pos h]
    omega
  · simp only [Instant.secondField, if_neg (show ¬ t.nanos ≥ 1000000000 by omega)]
    rfl

theorem Instant.clockKey_lt_iff (ha : a.Valid) (hb : b.Valid) :
    a.clockKey < b.clockKey ↔ a.secondOfDay < b.secondOfDay ∨
      (a.secondOfDay = b.secondOfDay ∧ a.nanos / 1000 < b.nanos / 1000) := by
  obtain ⟨ha1, ha2, ha3, ha4⟩ := ha.clock
  obtain ⟨hb1, hb2, hb3, hb4⟩ := hb.clock
  rw [Instant.clockKey_eq, Instant.clockKey_eq]
  by_cases hla : a.nanos ≥ 1000000000 <;> by_cases hlb : b.nanos ≥ 1000000000
  · rw [(ha3 hla).2, (hb3 hlb).2]
    have := (ha3 hla).1
    have := (hb3 hlb).1
    omega
  · rw [(ha3 hla).2, hb4 (by omega)]
    have := (ha3 hla).1
    omega
  · rw [ha4 (by omega), (hb3 hlb).2]
    have := (hb3 hlb).1
    omega
  · rw [ha4 (by omega), hb4 (by omega)]
    omega

theorem Instant.clockKey_eq_iff (ha : a.Valid) (hb : b.Valid) :
    a.clockKey = b.clockKey ↔
      a.secondOfDay = b.secondOfDay ∧ a.nanos / 1000 = b.nanos / 1000 := by
  obtain ⟨ha1, ha2, ha3, ha4⟩ := ha.clock
  obtain ⟨hb1, hb2, hb3, hb4⟩ := hb.clock
  rw [Instant.clockKey_eq, Instant.clockKey_eq]
  by_cases hla : a.nanos ≥ 1000000000 <;> by_cases hlb : b.nanos ≥ 1000000000
  · rw [(ha3 hla).2, (hb3 hlb).2]
    have := (ha3 hla).1
    have := (hb3 hlb).1
    omega
  · rw [(ha3 hla).2, hb4 (by omega)]
    have := (ha3 hla).1
    omega
  · rw [ha4 (by omega), (hb3 hlb).2]
    have := (hb3 hlb).1
    omega
  · rw [ha4 (by omega), hb4 (by omega)]
    omega

theorem Instant.clockKey_lt {t : Instant} (ht : t.Valid) : t.clockKey < 1000000000000 := by
  obtain ⟨h1, h2, h3, h4⟩ := ht.clock
  rw [Instant.clockKey_eq]
  by_cases hl : t.nanos ≥ 1000000000
  · rw [(h3 hl).2]
    omega
  · rw [h4 (by omega)]
    omega

end Clock

section Order

variable {a b : Instant}

theorem Instant.Valid.day_mem {t : Instant} (ht : t.Valid) : firstDay ≤ t.day ∧ t.day ≤ lastDay := by
  have h := ht.inRange
  simp only [Instant.inRange, Bool.and_eq_true, decide_eq_true_eq] at h
  exact h

theorem Instant.compare_eq_lt_iff {s t : Instant} :
    Ord.compare s t = .lt ↔ s.seconds < t.seconds ∨ (s.seconds = t.seconds ∧ s.nanos < t.nanos) := by
  show Instant.compare s t = .lt ↔ _
  unfold Instant.compare
  rcases lt_trichotomy s.seconds t.seconds with h | h | h
  · rw [compare_lt_iff_lt.2 h]
    simp [h]
  · rw [compare_eq_iff_eq.2 h, compare_lt_iff_lt]
    simp [h]
  · rw [compare_gt_iff_gt.2 h]
    simp [h.not_gt, h.ne']

theorem Instant.compare_eq_gt_iff {s t : Instant} :
    Ord.compare s t = .gt ↔ t.seconds < s.seconds ∨ (s.seconds = t.seconds ∧ t.nanos < s.nanos) := by
  show Instant.compare s t = .gt ↔ _
  unfold Instant.compare
  rcases lt_trichotomy s.seconds t.seconds with h | h | h
  · rw [compare_lt_iff_lt.2 h]
    simp [h.not_gt, h.ne]
  · rw [compare_eq_iff_eq.2 h, compare_gt_iff_gt]
    simp [h]
  · rw [compare_gt_iff_gt.2 h]
    simp [h]

theorem Instant.microsKey_lt_iff (ha : a.Valid) (hb : b.Valid) :
    a.microsKey < b.microsKey ↔ a.seconds < b.seconds ∨
      (a.seconds = b.seconds ∧ a.nanos / 1000 < b.nanos / 1000) := by
  have hka := Instant.clockKey_lt ha
  have hkb := Instant.clockKey_lt hb
  have hdays := key_ofDays_lt_iff ha.day_mem hb.day_mem
  have hdays' := key_ofDays_eq_iff ha.day_mem hb.day_mem
  have hclock := Instant.clockKey_lt_iff ha hb
  have hclock' := Instant.clockKey_eq_iff ha hb
  obtain ⟨hsa, hsa'⟩ := a.seconds_eq
  obtain ⟨hsb, hsb'⟩ := b.seconds_eq
  unfold Instant.microsKey Instant.date at *
  -- the date decides unless it is the same, as the clock stays below one day's step of it
  have hsplit : (CivilDate.ofDays a.day).key * 1000000000000 + (a.clockKey : Int) <
      (CivilDate.ofDays b.day).key * 1000000000000 + (b.clockKey : Int) ↔
      (CivilDate.ofDays a.day).key < (CivilDate.ofDays b.day).key ∨
        ((CivilDate.ofDays a.day).key = (CivilDate.ofDays b.day).key ∧ a.clockKey < b.clockKey) := by
    omega
  rw [hsplit, hdays, hdays', hclock]
  omega

theorem Instant.microsKey_eq_iff (ha : a.Valid) (hb : b.Valid) :
    a.microsKey = b.microsKey ↔ a.seconds = b.seconds ∧ a.nanos / 1000 = b.nanos / 1000 := by
  have hka := Instant.clockKey_lt ha
  have hkb := Instant.clockKey_lt hb
  have hdays' := key_ofDays_eq_iff ha.day_mem hb.day_mem
  have hclock' := Instant.clockKey_eq_iff ha hb
  obtain ⟨hsa, hsa'⟩ := a.seconds_eq
  obtain ⟨hsb, hsb'⟩ := b.seconds_eq
  unfold Instant.microsKey Instant.date at *
  have hsplit : (CivilDate.ofDays a.day).key * 1000000000000 + (a.clockKey : Int) =
      (CivilDate.ofDays b.day).key * 1000000000000 + (b.clockKey : Int) ↔
      (CivilDate.ofDays a.day).key = (CivilDate.ofDays b.day).key ∧ a.clockKey = b.clockKey := by
    omega
  rw [hsplit, hdays', hclock']
  omega

theorem Instant.seconds_lt_of_year_lt (ha : a.Valid) (hb : b.Valid)
    (h : a.date.year < b.date.year) : a.seconds < b.seconds := by
  obtain ⟨-, -, ha2, ha3, -⟩ := (CivilDate.ofDays a.day).march_bounds (ofDays_isValid ha.day_mem.1 ha.day_mem.2)
  obtain ⟨-, -, hb2, hb3, -⟩ := (CivilDate.ofDays b.day).march_bounds (ofDays_isValid hb.day_mem.1 hb.day_mem.2)
  have hkey : (CivilDate.ofDays a.day).key < (CivilDate.ofDays b.day).key := by
    unfold Instant.date at h
    unfold CivilDate.key
    omega
  have hday := (key_ofDays_lt_iff ha.day_mem hb.day_mem).1 hkey
  obtain ⟨hsa, hsa'⟩ := a.seconds_eq
  obtain ⟨hsb, hsb'⟩ := b.seconds_eq
  omega

end Order

section Text

variable {a b t : Instant}

theorem Instant.toList_microsText (t : Instant) : t.microsText.toList =
    (yearText t.date.year).toList ++ '-' :: ((twoDigits t.date.month).toList ++ '-' ::
      ((twoDigits t.date.day).toList ++ 'T' :: ((twoDigits (t.secondOfDay / 3600)).toList ++
      ':' :: ((twoDigits (t.secondOfDay / 60 % 60)).toList ++ ':' ::
      ((twoDigits t.secondField).toList ++ '.' ::
      ((padded 6 (t.nanos % 1000000000 / 1000)).toList ++ ['Z'])))))) := by
  simp [Instant.microsText, Instant.secondsText, Instant.secondField]

theorem Instant.Plain.fields_lt (ht : t.Plain) :
    t.date.year.toNat < 10 ^ 4 ∧ t.date.month < 10 ^ 2 ∧ t.date.day < 10 ^ 2 ∧
      t.secondOfDay / 3600 < 10 ^ 2 ∧ t.secondOfDay / 60 % 60 < 10 ^ 2 ∧
      t.secondField < 10 ^ 2 ∧ t.nanos % 1000000000 / 1000 < 10 ^ 6 := by
  obtain ⟨-, -, hm, hd, -⟩ :=
    (CivilDate.ofDays t.day).march_bounds (ofDays_isValid ht.valid.day_mem.1 ht.valid.day_mem.2)
  obtain ⟨h1, h2, h3, h4⟩ := ht.valid.clock
  have hy := ht.year_le
  have hsf : t.secondField ≤ 60 := by
    by_cases hl : t.nanos ≥ 1000000000
    · rw [(h3 hl).2]
    · rw [h4 (by omega)]
      omega
  unfold Instant.date at hy ⊢
  omega

theorem Instant.Plain.toList_microsText (ht : t.Plain) : t.microsText.toList =
    (padded 4 t.date.year.toNat).toList ++ '-' :: ((padded 2 t.date.month).toList ++ '-' ::
      ((padded 2 t.date.day).toList ++ 'T' :: ((padded 2 (t.secondOfDay / 3600)).toList ++
      ':' :: ((padded 2 (t.secondOfDay / 60 % 60)).toList ++ ':' ::
      ((padded 2 t.secondField).toList ++ '.' ::
      ((padded 6 (t.nanos % 1000000000 / 1000)).toList ++ ['Z'])))))) := by
  obtain ⟨-, hm, hd, hh, hmi, hs, -⟩ := ht.fields_lt
  have hyear : yearText t.date.year = padded 4 t.date.year.toNat := by
    simp [yearText, ht.year_nonneg, ht.year_le]
  rw [Instant.toList_microsText, hyear, twoDigits_eq_padded hm, twoDigits_eq_padded hd,
    twoDigits_eq_padded hh, twoDigits_eq_padded hmi, twoDigits_eq_padded hs]

theorem Instant.microsText_lt_iff (ha : a.Plain) (hb : b.Plain) :
    a.microsText < b.microsText ↔ a.microsKey < b.microsKey := by
  obtain ⟨ha1, ha2, ha3, ha4, ha5, ha6, ha7⟩ := ha.fields_lt
  obtain ⟨hb1, hb2, hb3, hb4, hb5, hb6, hb7⟩ := hb.fields_lt
  rw [String.lt_iff, ha.toList_microsText, hb.toList_microsText,
    padded_append_lt_iff (by decide) ha1 hb1, List.cons_lt_cons_self,
    padded_append_lt_iff (by decide) ha2 hb2, List.cons_lt_cons_self,
    padded_append_lt_iff (by decide) ha3 hb3, List.cons_lt_cons_self,
    padded_append_lt_iff (by decide) ha4 hb4, List.cons_lt_cons_self,
    padded_append_lt_iff (by decide) ha5 hb5, List.cons_lt_cons_self,
    padded_append_lt_iff (by decide) ha6 hb6, List.cons_lt_cons_self,
    padded_append_lt_iff (by decide) ha7 hb7]
  have hya := ha.year_nonneg
  have hyb := hb.year_nonneg
  simp only [List.lt_irrefl, and_false, or_false]
  unfold Instant.microsKey Instant.clockKey CivilDate.key
  omega

theorem Instant.microsText_eq_iff (ha : a.Plain) (hb : b.Plain) :
    a.microsText = b.microsText ↔ a.microsKey = b.microsKey := by
  obtain ⟨ha1, ha2, ha3, ha4, ha5, ha6, ha7⟩ := ha.fields_lt
  obtain ⟨hb1, hb2, hb3, hb4, hb5, hb6, hb7⟩ := hb.fields_lt
  rw [← String.toList_inj, ha.toList_microsText, hb.toList_microsText,
    padded_append_inj (by decide) ha1 hb1, List.cons.injEq,
    padded_append_inj (by decide) ha2 hb2, List.cons.injEq,
    padded_append_inj (by decide) ha3 hb3, List.cons.injEq,
    padded_append_inj (by decide) ha4 hb4, List.cons.injEq,
    padded_append_inj (by decide) ha5 hb5, List.cons.injEq,
    padded_append_inj (by decide) ha6 hb6, List.cons.injEq,
    padded_append_inj (by decide) ha7 hb7]
  have hya := ha.year_nonneg
  have hyb := hb.year_nonneg
  simp only [true_and, and_true]
  unfold Instant.microsKey Instant.clockKey CivilDate.key
  omega

theorem Instant.microsText_lt_iff_trunc (ha : a.Plain) (hb : b.Plain) :
    a.microsText < b.microsText ↔ Ord.compare a.truncMicros b.truncMicros = .lt := by
  rw [Instant.microsText_lt_iff ha hb, Instant.microsKey_lt_iff ha.valid hb.valid,
    Instant.compare_eq_lt_iff]
  simp only [Instant.truncMicros]
  omega

theorem Instant.microsText_eq_iff_trunc (ha : a.Plain) (hb : b.Plain) :
    a.microsText = b.microsText ↔ a.truncMicros = b.truncMicros := by
  rw [Instant.microsText_eq_iff ha hb, Instant.microsKey_eq_iff ha.valid hb.valid]
  simp only [Instant.truncMicros, Instant.mk.injEq]
  omega

theorem Instant.microsText_lt_of_signed (hs : a.date.year < 0 ∨ 9999 < a.date.year)
    (hb : b.Plain) : a.microsText < b.microsText := by
  obtain ⟨c, cs, hcs, hc⟩ := digit_head_padded 4 b.date.year.toNat
  have hc' := Char.isDigit_iff_toNat.1 hc
  have hsign : ∃ s rest, a.microsText.toList = s :: rest ∧ s.toNat < 48 := by
    have hwide : ¬ ((0 ≤ a.date.year && a.date.year ≤ 9999) = true) := by
      simp only [Bool.and_eq_true, decide_eq_true_eq]
      omega
    rw [Instant.toList_microsText]
    unfold yearText
    rw [if_neg hwide]
    split
    · exact ⟨'-', _, by simp only [String.toList_append, List.append_assoc]; rfl, by decide⟩
    · exact ⟨'+', _, by simp only [String.toList_append, List.append_assoc]; rfl, by decide⟩
  obtain ⟨s, rest, hrest, hs'⟩ := hsign
  rw [String.lt_iff, hrest, hb.toList_microsText, hcs, List.cons_append, List.cons_lt_cons_iff,
    char_lt_iff]
  simp only [Char.reduceToNat] at hc'
  omega

end Text

section Read

theorem number_padded_exact {w n : Nat} (hw : 0 < w) (hn : n < 10 ^ w) (hlim : n ≤ 2 ^ 63 - 1)
    (rest : List Char) : number ((padded w n).toList ++ rest) w w = .ok (n, rest) := by
  have hlen := length_padded hw hn
  have hbytes := length_le_byteLength ((padded w n).toList ++ rest)
  simp only [List.length_append] at hbytes
  rw [number, if_neg (by omega)]
  have h := digitsLoop_digits w (padded w n).toList rest w 0 0
    (fun c hc => isDigit_of_mem_padded hc) (by omega) (by omega) (.inl hlen)
    (by rw [ofDigitChars_padded]; exact hlim)
  rwa [ofDigitChars_padded] at h

theorem Reading.readStrict_microsText {t : Instant} (ht : t.Plain) :
    Reading.readStrict t.microsText.toList = .ok (⟨t.date.year, t.date.month, t.date.day,
      t.secondOfDay / 3600, t.secondOfDay / 60 % 60, t.secondField,
      t.nanos % 1000000000 / 1000 * 1000, 0⟩, []) := by
  obtain ⟨hy, hm, hd, hh, hmi, hs, hus⟩ := ht.fields_lt
  obtain ⟨hd1, hm1, hm12, hd31, -⟩ :=
    (CivilDate.ofDays t.day).march_bounds (ofDays_isValid ht.valid.day_mem.1 ht.valid.day_mem.2)
  obtain ⟨h1, h2, h3, h4⟩ := ht.valid.clock
  have hsf : t.secondField ≤ 60 := by
    by_cases hl : t.nanos ≥ 1000000000
    · rw [(h3 hl).2]
    · rw [h4 (by omega)]
      omega
  have hy0 := ht.year_nonneg
  have hutc : strictOffset ['Z'] = .ok (0, []) := rfl
  unfold Instant.date at hy hm hd hy0 ⊢
  rw [ht.toList_microsText]
  simp only [Reading.readStrict, bind, Except.bind, pure, Except.pure, Instant.date,
    number_padded_exact (w := 4) (by decide) hy (by omega),
    number_padded_exact (w := 2) (by decide) hm (by omega),
    number_padded_exact (w := 2) (by decide) hd (by omega),
    number_padded_exact (w := 2) (by decide) hh (by omega),
    number_padded_exact (w := 2) (by decide) hmi (by omega),
    number_padded_exact (w := 2) (by decide) hs (by omega), literal_cons,
    within_of_le (show (1 : Int) ≤ (CivilDate.ofDays t.day).month by omega)
      (show ((CivilDate.ofDays t.day).month : Int) ≤ 12 by omega),
    within_of_le (show (1 : Int) ≤ (CivilDate.ofDays t.day).day by omega)
      (show ((CivilDate.ofDays t.day).day : Int) ≤ 31 by omega),
    within_of_le (show (0 : Int) ≤ ((t.secondOfDay / 3600 : Nat) : Int) by omega)
      (show ((t.secondOfDay / 3600 : Nat) : Int) ≤ 23 by omega),
    within_of_le (show (0 : Int) ≤ ((t.secondOfDay / 60 % 60 : Nat) : Int) by omega)
      (show ((t.secondOfDay / 60 % 60 : Nat) : Int) ≤ 59 by omega),
    within_of_le (show (0 : Int) ≤ ((t.secondField : Nat) : Int) by omega)
      (show ((t.secondField : Nat) : Int) ≤ 60 by omega),
    fraction_padded (w := 6) (by decide) (by decide) hus, hutc, Int.toNat_natCast]
  simp [Int.toNat_of_nonneg hy0]

theorem Instant.parseStrict_microsText {t : Instant} (ht : t.Plain) :
    Instant.parseStrict t.microsText = .ok t.truncMicros := by
  have hvalid : (⟨t.date.year, t.date.month, t.date.day⟩ : CivilDate).isValid = true :=
    ofDays_isValid ht.valid.day_mem.1 ht.valid.day_mem.2
  have hdays : t.date.toDays = t.day := toDays_ofDays t.day
  have hd : (⟨t.date.year, t.date.month, t.date.day⟩ : CivilDate) = t.date := rfl
  obtain ⟨hsec, hsod⟩ := t.seconds_eq
  obtain ⟨h1, h2, h3, h4⟩ := ht.valid.clock
  have hrange : t.truncMicros.inRange = true := ht.valid.inRange
  simp only [Instant.parseStrict, Reading.readStrict_microsText ht, bind, Except.bind,
    List.isEmpty_nil, Bool.not_true, Bool.false_eq_true, if_false, Reading.toInstant, hvalid]
  -- a leap second is read as second 59 with a billion nanoseconds more
  by_cases hl : t.nanos ≥ 1000000000
  · have hcut : (⟨t.day * 86400 + t.secondOfDay / 3600 * 3600 + t.secondOfDay / 60 % 60 * 60 + 59,
        t.nanos % 1000000000 / 1000 * 1000 + 1000000000⟩ : Instant) = t.truncMicros := by
      simp only [Instant.truncMicros, Instant.mk.injEq]
      have := (h3 hl).1
      omega
    simp [(h3 hl).2, Instant.ofCivil, Instant.addSeconds, hd, hdays]
    rw [hcut, hrange]
    rfl
  · have hcut : (⟨t.day * 86400 + t.secondOfDay / 3600 * 3600 + t.secondOfDay / 60 % 60 * 60 +
        t.secondOfDay % 60, t.nanos % 1000000000 / 1000 * 1000⟩ : Instant) = t.truncMicros := by
      simp only [Instant.truncMicros, Instant.mk.injEq]
      omega
    have h60 : ¬ t.secondOfDay % 60 = 60 := by omega
    simp [h4 (by omega), h60, Instant.ofCivil, Instant.addSeconds, hd, hdays]
    rw [hcut, hrange]
    rfl

end Read

end TurnLedger.Time
