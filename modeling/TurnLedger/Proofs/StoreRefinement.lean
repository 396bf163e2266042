import Mathlib.Algebra.BigOperators.Group.List.Basic
import TurnLedger.Proofs.MicrosText
import TurnLedger.Store.Host

/-!
# The database store against the memory store

Both stores take the same records. The database keeps each as a row (`storedRow`): its cost as
a REAL column gives it back, and its creation time as the six-digit text. A memory store and a
database that took the same records, both accepting each, stay in step: the rows are the stored
rows of the records, in the same order (`Mirrors`, kept by every accepted create).

Queries then agree as far as the six-digit texts let them. When every creation time lies in
the years 0 to 9999, and the filter's day does not run from 9999 into 10000, the database
lists the records the memory store lists, each with its time cut to whole microseconds, newest
first. Summaries agree on counts and totals whenever both are given; both are given or refused
alike when the database adds the rows in their order of insertion, which it does unless the
filter names a day and no project.
-/

namespace TurnLedger.Store

open Activity Time

def storedRow (r : Record) : Row :=
  ⟨{ r with costEstimate := storedCost r.costEstimate }, (r.createdAt.map Instant.microsText).getD ""⟩

/-- A record as a database lists it back: its time cut to whole microseconds. -/
def storedForm (r : Record) : Record :=
  { r with costEstimate := storedCost r.costEstimate, createdAt := r.createdAt.map Instant.truncMicros }

/-- A database in step with a memory store: one stored row per record, in the same order. -/
def Mirrors (m : MemoryStore) (d : Database) : Prop := d.rows = m.records.map storedRow

/-- Creates records one after another in a memory store, each with the stamps the one before
left; `none` once one is refused. -/
def MemoryStore.createAll (m : MemoryStore) (st : Stamps) : List Record → Option MemoryStore
  | [] => some m
  | r :: rs =>
    match m.create r st with
    | (.ok (_, m'), st') => m'.createAll st' rs
    | (.error _, _) => none

/-- Inserts records one after another in a database, each with the stamps the one before
left; `none` once one is refused. -/
def Database.insertAll (d : Database) (st : Stamps) : List Record → Option Database
  | [] => some d
  | r :: rs =>
    match d.insert r st with
    | (.ok (_, d'), st') => d'.insertAll st' rs
    | (.error _, _) => none

section Creates

variable {m m' : MemoryStore} {d : Database} {r r' : Record} {st st' : Stamps}

theorem createdAt_complete (st : Stamps) (r : Record) : ((st.complete r).1.createdAt).isSome := by
  unfold Stamps.complete
  split
  split <;> simp_all

theorem MemoryStore.create_eq_ok (hu : m.unavailable = false) (hr : m.rejected = none)
    (h : m.create r st = (.ok (r', m'), st')) :
    st.complete r = (r', st') ∧ m.records.any (·.id == r'.id) = false ∧
      m'.records = m.records ++ [r'] ∧ m'.unavailable = false ∧ m'.rejected = none := by
  unfold MemoryStore.create at h
  simp only [hu, MemoryStore.rejects, hr, Bool.false_eq_true, if_false] at h
  split at h
  · cases h
  · rename_i hdup
    simp only [Prod.mk.injEq, Except.ok.injEq] at h
    obtain ⟨⟨rfl, rfl⟩, rfl⟩ := h
    exact ⟨rfl, by simpa using hdup, rfl, rfl, rfl⟩

theorem Database.insert_of_create (hu : m.unavailable = false) (hr : m.rejected = none)
    (hM : Mirrors m d) (h : m.create r st = (.ok (r', m'), st')) :
    d.insert r st = (.ok (r', ⟨d.rows ++ [storedRow r']⟩), st') ∧
      Mirrors m' ⟨d.rows ++ [storedRow r']⟩ := by
  obtain ⟨hc, hdup, hrec, -⟩ := MemoryStore.create_eq_ok hu hr h
  have hdup' : d.rows.any (·.record.id == r'.id) = false := by
    rw [hM]
    simpa [storedRow] using hdup
  refine ⟨?_, ?_⟩
  · unfold Database.insert
    rw [hc]
    simp only [hdup', Bool.false_eq_true, if_false]
    rfl
  · unfold Mirrors at hM ⊢
    simp [hM, hrec]

theorem Database.insertAll_of_createAll (rs : List Record) (hu : m.unavailable = false)
    (hr : m.rejected = none) (hM : Mirrors m d) (htimes : ∀ x ∈ m.records, x.createdAt.isSome)
    (h : m.createAll st rs = some m') :
    ∃ d', d.insertAll st rs = some d' ∧ Mirrors m' d' ∧ ∀ x ∈ m'.records, x.createdAt.isSome := by
  induction rs generalizing m d st with
  | nil =>
    simp only [MemoryStore.createAll, Option.some.injEq] at h
    subst h
    exact ⟨d, rfl, hM, htimes⟩
  | cons r rs ih =>
    unfold MemoryStore.createAll at h
    split at h
    · rename_i r' m₁ st₁ hcreate
      obtain ⟨hins, hM₁⟩ := Database.insert_of_create hu hr hM hcreate
      obtain ⟨hc, -, hrec, hu₁, hr₁⟩ := MemoryStore.create_eq_ok hu hr hcreate
      -- the record just stored was completed, so it has a time
      have htimes₁ : ∀ x ∈ m₁.records, x.createdAt.isSome := by
        intro x hx
        rw [hrec] at hx
        rcases List.mem_append.1 hx with hx | hx
        · exact htimes x hx
        · rw [List.mem_singleton.1 hx]
          simpa [hc] using createdAt_complete st r
      obtain ⟨d', hd', hM', ht'⟩ := ih hu₁ hr₁ hM₁ htimes₁ h
      refine ⟨d', ?_, hM', ht'⟩
      unfold Database.insertAll
      rw [hins]
      exact hd'
    · cases h

end Creates

section Spans

theorem CivilDate.parse_isValid {s : String} {d : CivilDate} (h : CivilDate.parse s = .ok d) :
    d.isValid = true := by
  unfold CivilDate.parse at h
  simp only [bind, Except.bind, pure, Except.pure] at h
  repeat' split at h
  all_goals cases h
  all_goals simp_all

structure DaySpan (lo hi : Instant) : Prop where
  lo_valid : lo.Valid
  hi_valid : hi.Valid
  lo_nanos : lo.nanos = 0
  hi_nanos : hi.nanos = 0
  day_long : hi.seconds = lo.seconds + 86400

theorem daySpan_of_dayBounds {f : Filters} {lo hi : Instant}
    (h : f.dayBounds = .ok (some (lo, hi))) : DaySpan lo hi := by
  unfold Filters.dayBounds at h
  split at h
  · cases h
  · split at h
    · cases h
    · rename_i day hparse
      dsimp only at h
      split at h
      · rename_i hrange
        simp only [Except.ok.injEq, Option.some.injEq, Prod.mk.injEq] at h
        obtain ⟨rfl, rfl⟩ := h
        obtain ⟨h1, h2⟩ := CivilDate.toDays_mem (CivilDate.parse_isValid hparse)
        have hday : (Instant.ofCivil day 0 0 0 0).day = day.toDays := by
          simp only [Instant.day, Instant.ofCivil]
          rw [Int.fdiv_eq_ediv_of_nonneg _ (by decide)]
          omega
        refine ⟨⟨?_, by simp [Instant.ofCivil], by simp [Instant.ofCivil]⟩,
          ⟨hrange, by simp [Instant.ofCivil, Instant.addSeconds],
            by simp [Instant.ofCivil, Instant.addSeconds]⟩, rfl, rfl, rfl⟩
        simp only [Instant.inRange, hday, Bool.and_eq_true, decide_eq_true_eq]
        exact ⟨h1, h2⟩
      · cases h

theorem microsText_compare_bound {b t : Instant} (hb : b.Valid) (hb0 : b.nanos = 0)
    (hby : b.date.year ≤ 9999) (ht : t.Plain) :
    (b.microsText ≤ t.microsText ↔ compare b t ≠ .gt) ∧
      (t.microsText < b.microsText ↔ compare t b = .lt) := by
  by_cases hneg : b.date.year < 0
  · have htext := Instant.microsText_lt_of_signed (.inl hneg) ht
    have htime := Instant.seconds_lt_of_year_lt hb ht.valid (by have := ht.year_nonneg; omega)
    refine ⟨⟨fun _ => ?_, fun _ => String.not_lt.1 (String.lt_asymm htext)⟩,
      ⟨fun h => absurd htext (String.lt_asymm h), fun h => ?_⟩⟩
    · rw [Ne, Instant.compare_eq_gt_iff]
      omega
    · rw [Instant.compare_eq_lt_iff] at h
      omega
  · have hb' : b.Plain := ⟨hb, by omega, hby⟩
    refine ⟨?_, ?_⟩
    · rw [← String.not_lt, Instant.microsText_lt_iff_trunc ht hb', Instant.compare_eq_lt_iff,
        Ne, Instant.compare_eq_gt_iff]
      simp only [Instant.truncMicros, hb0]
      omega
    · rw [Instant.microsText_lt_iff_trunc ht hb', Instant.compare_eq_lt_iff,
        Instant.compare_eq_lt_iff]
      simp only [Instant.truncMicros, hb0]
      omega

/-- Whether the texts of a span sort as the span against four-digit years: all but the span
that starts in 9999 and ends in 10000, whose end is written with a sign. -/
def SpanWritable (lo hi : Instant) : Prop := hi.date.year ≤ 9999 ∨ 9999 < lo.date.year

theorem inSpan_eq_texts {lo hi t : Instant} (hs : DaySpan lo hi) (hw : SpanWritable lo hi)
    (ht : t.Plain) :
    (decide (lo.microsText ≤ t.microsText) && decide (t.microsText < hi.microsText)) =
      inSpan (lo, hi) t := by
  -- the day starts no later in the year than it ends
  have hyears : lo.date.year ≤ hi.date.year := by
    by_contra hlt
    have := Instant.seconds_lt_of_year_lt hs.hi_valid hs.lo_valid (by omega)
    have := hs.day_long
    omega
  simp only [inSpan]
  rcases hw with hhi | hlo
  · obtain ⟨hlo₁, -⟩ := microsText_compare_bound hs.lo_valid hs.lo_nanos (by omega) ht
    obtain ⟨-, hhi₂⟩ := microsText_compare_bound hs.hi_valid hs.hi_nanos hhi ht
    rw [Bool.eq_iff_iff]
    simp only [Bool.and_eq_true, decide_eq_true_eq, bne_iff_ne, ne_eq, beq_iff_eq, hlo₁, hhi₂]
  · -- a span past 9999 holds no such instant, and its end's text sorts first
    have htext := Instant.microsText_lt_of_signed (.inr (show 9999 < hi.date.year by omega)) ht
    have hlate := Instant.seconds_lt_of_year_lt ht.valid hs.lo_valid (by have := ht.year_le; omega)
    have hgt : compare lo t = .gt := by
      rw [Instant.compare_eq_gt_iff]
      omega
    simp [hgt, String.lt_asymm htext]

end Spans

/-- Every record has a creation time of the years 0 to 9999, which the database can write as
a six-digit text and read back. -/
def PlainTimes (m : MemoryStore) : Prop := ∀ x ∈ m.records, ∃ t, x.createdAt = some t ∧ t.Plain

def WritableDay (f : Filters) : Prop :=
  ∀ lo hi, f.dayBounds = .ok (some (lo, hi)) → SpanWritable lo hi

section Matching

variable {m : MemoryStore} {d : Database} {f : Filters}

theorem dayBounds_of_daySpan {span : Option (Instant × Instant)} (h : daySpan f = .ok span) :
    f.dayBounds = .ok span := by
  unfold daySpan at h
  split at h <;> simp_all

theorem inDay_eq_texts {x : Record} {t : Instant} {span : Option (Instant × Instant)}
    (hspan : daySpan f = .ok span) (hf : WritableDay f) (hx : x.createdAt = some t) (ht : t.Plain) :
    ((span.map fun (a, b) => (a.microsText, b.microsText)).all fun (lo, hi) =>
      decide (lo ≤ t.microsText) && decide (t.microsText < hi)) = inDay span x := by
  cases span with
  | none => simp [inDay]
  | some s =>
    obtain ⟨lo, hi⟩ := s
    have hb := dayBounds_of_daySpan hspan
    simp only [Option.map_some, Option.all_some, inDay, hx]
    exact inSpan_eq_texts (daySpan_of_dayBounds hb) (hf lo hi hb) ht

theorem Database.matching_of_mirrors (hM : Mirrors m d) (hp : PlainTimes m) (hf : WritableDay f) :
    d.matching f = (·.map storedRow) <$> m.matching f := by
  unfold Database.matching MemoryStore.matching
  cases hs : daySpan f with
  | error e => rfl
  | ok span =>
    simp only [bind, Except.bind, pure, Except.pure, Functor.map, Except.map]
    rw [hM, List.filter_map]
    congr 2
    apply List.filter_congr
    intro x hx
    obtain ⟨t, htx, ht⟩ := hp x hx
    have htext := inDay_eq_texts hs hf htx ht
    simp only [Function.comp, storedRow, htx, Option.map_some, Option.getD_some, Filters.admits]
    rw [htext]

theorem Database.matching_pair (hM : Mirrors m d) (hp : PlainTimes m) (hf : WritableDay f)
    (hok : ∃ span, f.dayBounds = .ok span) :
    ∃ ks, m.matching f = .ok ks ∧ d.matching f = .ok (ks.map storedRow) ∧ ks.Sublist m.records := by
  obtain ⟨span, hspan⟩ := hok
  have hday : daySpan f = .ok span := by simp [daySpan, hspan]
  refine ⟨m.records.filter fun r => f.admits r && inDay span r, ?_, ?_, List.filter_sublist⟩
  · simp [MemoryStore.matching, hday, bind, Except.bind, pure, Except.pure]
  · rw [Database.matching_of_mirrors hM hp hf]
    simp [MemoryStore.matching, hday, bind, Except.bind, pure, Except.pure, Functor.map,
      Except.map]

end Matching

/-- The record a row is read back as, when its text is the six-digit text of its time. -/
def Row.readBack (y : Row) : Record :=
  { y.record with createdAt := y.record.createdAt.map Instant.truncMicros }

section Listing

variable {m : MemoryStore} {d : Database} {f : Filters}

theorem Row.read_storedRow {x : Record} {t : Instant} (hx : x.createdAt = some t) (ht : t.Plain) :
    (storedRow x).read = .ok (storedRow x).readBack := by
  simp [Row.read, storedRow, hx, Instant.parseStrict_microsText ht, Row.readBack]

theorem readBack_storedRow (x : Record) : (storedRow x).readBack = storedForm x := rfl

theorem mapM_read_eq_ok {l : List Row} (h : ∀ y ∈ l, y.read = .ok y.readBack) :
    l.mapM Row.read = .ok (l.map Row.readBack) := by
  induction l with
  | nil => rfl
  | cons y l ih =>
    rw [List.mapM_cons, h y List.mem_cons_self, ih fun z hz => h z (List.mem_cons_of_mem _ hz)]
    rfl

theorem listedBefore_trans (a b c : Row) (hab : listedBefore a b = true)
    (hbc : listedBefore b c = true) : listedBefore a c = true := by
  simp only [listedBefore, Bool.or_eq_true, decide_eq_true_eq, Bool.and_eq_true, beq_iff_eq]
    at hab hbc ⊢
  rcases hab with hab | ⟨hab, hab'⟩ <;> rcases hbc with hbc | ⟨hbc, hbc'⟩
  · exact .inl (String.lt_trans hbc hab)
  · rw [← hbc]
    exact .inl hab
  · rw [hab]
    exact .inl hbc
  · exact .inr ⟨hab.trans hbc, String.le_trans hab' hbc'⟩

theorem listedBefore_total (a b : Row) : (listedBefore a b || listedBefore b a) = true := by
  simp only [listedBefore, Bool.or_eq_true, decide_eq_true_eq, Bool.and_eq_true, beq_iff_eq]
  by_cases hab : b.created < a.created
  · exact .inl (.inl hab)
  · by_cases hba : a.created < b.created
    · exact .inr (.inl hba)
    · -- equal times: the ids decide
      have heq : a.created = b.created :=
        String.le_antisymm (String.not_lt.1 hab) (String.not_lt.1 hba)
      rcases String.le_total a.record.id b.record.id with hid | hid
      · exact .inl (.inr ⟨heq, hid⟩)
      · exact .inr (.inr ⟨heq.symm, hid⟩)

theorem newerOrSame_of_listedBefore {x y : Record} {s t : Instant} (hx : x.createdAt = some s)
    (hy : y.createdAt = some t) (hs : s.Plain) (ht : t.Plain)
    (h : listedBefore (storedRow x) (storedRow y) = true) :
    newerOrSame (storedForm x) (storedForm y) = true := by
  have hle : ¬ s.microsText < t.microsText := by
    simp only [listedBefore, storedRow, hx, hy, Option.map_some, Option.getD_some,
      Bool.or_eq_true, decide_eq_true_eq, Bool.and_eq_true, beq_iff_eq] at h
    rcases h with h | ⟨h, -⟩
    · exact String.lt_asymm h
    · rw [h]
      exact String.lt_irrefl _
  rw [Instant.microsText_lt_iff_trunc hs ht] at hle
  simp [newerOrSame, storedForm, hx, hy, hle]

/-- A database in step with the memory store lists, for every filter whose day can be read and
written, the records the memory store lists with their times cut to whole microseconds, newest
first. -/
theorem Database.list_of_mirrors (hM : Mirrors m d) (hp : PlainTimes m) (hf : WritableDay f)
    (hok : ∃ span, f.dayBounds = .ok span) :
    ∃ ms ls, m.list f = .ok ms ∧ d.list f = .ok ls ∧ ls.Perm (ms.map storedForm) ∧
      ls.Pairwise (fun a b => newerOrSame a b = true) := by
  obtain ⟨ks, hmem, hdb, hsub⟩ := Database.matching_pair hM hp hf hok
  have hks : ∀ x ∈ ks, ∃ t, x.createdAt = some t ∧ t.Plain := fun x hx => hp x (hsub.subset hx)
  set rows := (ks.map storedRow).mergeSort listedBefore
  have hread : ∀ y ∈ rows, y.read = .ok y.readBack := by
    intro y hy
    obtain ⟨x, hx, rfl⟩ := List.mem_map.1 (List.mem_mergeSort.1 hy)
    obtain ⟨t, htx, ht⟩ := hks x hx
    exact Row.read_storedRow htx ht
  refine ⟨ks.mergeSort newerOrSame, rows.map Row.readBack, ?_, ?_, ?_, ?_⟩
  · simp [MemoryStore.list, hmem, bind, Except.bind, pure, Except.pure]
  · simp only [Database.list, hdb, bind, Except.bind]
    exact mapM_read_eq_ok hread
  · -- both lists are orderings of the stored forms of the kept records
    have hrows : (rows.map Row.readBack).Perm ((ks.map storedRow).map Row.readBack) :=
      (List.mergeSort_perm _ _).map _
    have hsorted : ((ks.mergeSort newerOrSame).map storedForm).Perm (ks.map storedForm) :=
      (List.mergeSort_perm _ _).map _
    rw [List.map_map] at hrows
    exact hrows.trans hsorted.symm
  · rw [List.pairwise_map]
    refine (List.pairwise_mergeSort listedBefore_trans listedBefore_total _).imp_of_mem ?_
    intro a b ha hb hab
    obtain ⟨x, hx, rfl⟩ := List.mem_map.1 (List.mem_mergeSort.1 ha)
    obtain ⟨y, hy, rfl⟩ := List.mem_map.1 (List.mem_mergeSort.1 hb)
    obtain ⟨s, hsx, hs⟩ := hks x hx
    obtain ⟨t, hty, ht⟩ := hks y hy
    rw [readBack_storedRow, readBack_storedRow]
    exact newerOrSame_of_listedBefore hsx hty hs ht hab

end Listing

section Totals

theorem checkedAdd_eq_some {a b c : Int} :
    checkedAdd a b = some c ↔ c = a + b ∧ -2 ^ 63 ≤ a + b ∧ a + b < 2 ^ 63 := by
  simp only [checkedAdd, Bool.and_eq_true, decide_eq_true_eq]
  split <;> simp <;> omega

theorem isSome_bind_iff {α β : Type} {x : Option α} {f : α → Option β} :
    (x.bind f).isSome ↔ ∃ a, x = some a ∧ (f a).isSome := by
  cases x <;> simp

theorem foldlM_checkedAdd_eq {xs : List Int} {a s : Int} (h : xs.foldlM checkedAdd a = some s) :
    s = a + xs.sum := by
  induction xs generalizing a with
  | nil =>
    simp only [List.foldlM_nil, Option.pure_def, Option.some.injEq] at h
    simp [h]
  | cons x xs ih =>
    simp only [List.foldlM_cons, Option.bind_eq_bind, Option.bind_eq_some_iff] at h
    obtain ⟨b, hb, hrest⟩ := h
    rw [ih hrest, (checkedAdd_eq_some.1 hb).1, List.sum_cons]
    omega

theorem checkedSum_eq_ok {xs : List Int} {s : Int} (h : checkedSum xs = .ok s) : s = xs.sum := by
  unfold checkedSum at h
  split at h
  · rename_i t ht
    cases h
    simpa using foldlM_checkedAdd_eq ht
  · cases h

theorem checkedSum_of_foldlM {xs : List Int} {s : Int} (h : xs.foldlM checkedAdd 0 = some s) :
    checkedSum xs = .ok s := by
  simp [checkedSum, h]

theorem foldlM_of_checkedSum {xs : List Int} {s : Int} (h : checkedSum xs = .ok s) :
    xs.foldlM checkedAdd 0 = some s := by
  unfold checkedSum at h
  split at h <;> simp_all

def statusStep (acc : List (String × Int)) (row : Row) : List (String × Int) :=
  if row.record.status.isEmpty then acc else (bumpStatus row.record.status acc).getD acc

theorem statusCounts_eq (rows : List Row) : statusCounts rows = rows.foldl statusStep [] := rfl

theorem Summary.add_eq_some {s s' : Summary} {r : Record} :
    s.add r = some s' ↔ checkedAdd s.count 1 = some s'.count ∧
      checkedAdd s.tokensIn r.tokensIn = some s'.tokensIn ∧
      checkedAdd s.tokensOut r.tokensOut = some s'.tokensOut ∧
      checkedAdd s.durationMs r.durationMs = some s'.durationMs ∧
      (if r.status.isEmpty then some s.byStatus else bumpStatus r.status s.byStatus) =
        some s'.byStatus ∧ s'.cost = s.cost + r.costEstimate := by
  obtain ⟨c, ti, tout, cost, du, bs⟩ := s'
  cases he : r.status.isEmpty <;>
    simp [Summary.add, he, bind, pure, Option.bind_eq_some_iff] <;> grind

theorem foldlM_add_eq_some {rs : List Record} {s₀ s : Summary}
    (h : rs.foldlM Summary.add s₀ = some s) :
    s.count = s₀.count + rs.length ∧
      (rs.map (·.tokensIn)).foldlM checkedAdd s₀.tokensIn = some s.tokensIn ∧
      (rs.map (·.tokensOut)).foldlM checkedAdd s₀.tokensOut = some s.tokensOut ∧
      (rs.map (·.durationMs)).foldlM checkedAdd s₀.durationMs = some s.durationMs ∧
      s.byStatus = (rs.map storedRow).foldl statusStep s₀.byStatus := by
  induction rs generalizing s₀ with
  | nil =>
    simp only [List.foldlM_nil, Option.pure_def, Option.some.injEq] at h
    subst h
    simp
  | cons r rs ih =>
    simp only [List.foldlM_cons, Option.bind_eq_bind, Option.bind_eq_some_iff] at h
    obtain ⟨s₁, hadd, hrest⟩ := h
    obtain ⟨hc, hi, ho, hd, hs⟩ := ih hrest
    obtain ⟨hc₁, hti, hto, hdu, hbs, -⟩ := Summary.add_eq_some.1 hadd
    refine ⟨?_, ?_, ?_, ?_, ?_⟩
    · rw [hc, (checkedAdd_eq_some.1 hc₁).1, List.length_cons]
      omega
    · simpa [hti] using hi
    · simpa [hto] using ho
    · simpa [hdu] using hd
    · -- the step a database groups by is the memory store's step once that step succeeded
      rw [hs]
      simp only [List.map_cons, List.foldl_cons]
      congr 1
      simp only [statusStep, storedRow]
      split at hbs <;> simp_all

theorem bumpStatus_bounded {acc : List (String × Int)} {k : Int} (status : String)
    (hacc : ∀ p ∈ acc, 0 ≤ p.2 ∧ p.2 ≤ k) (hk0 : 0 ≤ k) (hk : k + 1 < 2 ^ 63) :
    ∃ acc', bumpStatus status acc = some acc' ∧ ∀ p ∈ acc', 0 ≤ p.2 ∧ p.2 ≤ k + 1 := by
  induction acc with
  | nil => exact ⟨[(status, 1)], rfl, by simp; omega⟩
  | cons e rest ih =>
    obtain ⟨key, n⟩ := e
    have hn := hacc (key, n) List.mem_cons_self
    have hrest : ∀ p ∈ rest, 0 ≤ p.2 ∧ p.2 ≤ k := fun p hp => hacc p (List.mem_cons_of_mem _ hp)
    simp only at hn
    unfold bumpStatus
    split
    · refine ⟨_, rfl, ?_⟩
      intro p hp
      simp only [List.mem_cons] at hp
      rcases hp with rfl | rfl | hp
      · simp; omega
      · simp; omega
      · have := hrest p hp; omega
    · split
      · have hadd : checkedAdd n 1 = some (n + 1) := checkedAdd_eq_some.2 ⟨rfl, by omega, by omega⟩
        refine ⟨_, by rw [hadd]; rfl, ?_⟩
        intro p hp
        simp only [List.mem_cons] at hp
        rcases hp with rfl | hp
        · simp; omega
        · have := hrest p hp; omega
      · obtain ⟨acc', hbump, hb⟩ := ih hrest
        refine ⟨(key, n) :: acc', by rw [hbump]; rfl, ?_⟩
        intro p hp
        simp only [List.mem_cons] at hp
        rcases hp with rfl | hp
        · simp; omega
        · exact hb p hp

theorem foldlM_add_isSome {rs : List Record} {s₀ : Summary}
    (hi : ((rs.map (·.tokensIn)).foldlM checkedAdd s₀.tokensIn).isSome)
    (ho : ((rs.map (·.tokensOut)).foldlM checkedAdd s₀.tokensOut).isSome)
    (hd : ((rs.map (·.durationMs)).foldlM checkedAdd s₀.durationMs).isSome)
    (hc0 : 0 ≤ s₀.count) (hc : s₀.count + rs.length < 2 ^ 63)
    (hs : ∀ p ∈ s₀.byStatus, 0 ≤ p.2 ∧ p.2 ≤ s₀.count) :
    (rs.foldlM Summary.add s₀).isSome := by
  induction rs generalizing s₀ with
  | nil => simp
  | cons r rs ih =>
    simp only [List.map_cons, List.foldlM_cons, Option.bind_eq_bind] at hi ho hd
    obtain ⟨ti, hti, hi'⟩ := isSome_bind_iff.1 hi
    obtain ⟨tout, hto, ho'⟩ := isSome_bind_iff.1 ho
    obtain ⟨du, hdu, hd'⟩ := isSome_bind_iff.1 hd
    have hcount : checkedAdd s₀.count 1 = some (s₀.count + 1) := by
      simp only [List.length_cons] at hc
      exact checkedAdd_eq_some.2 ⟨rfl, by omega, by omega⟩
    -- the status counts stay bounded by the count
    obtain ⟨bs, hbs, hbound⟩ : ∃ bs, (if r.status.isEmpty then some s₀.byStatus
        else bumpStatus r.status s₀.byStatus) = some bs ∧ ∀ p ∈ bs, 0 ≤ p.2 ∧ p.2 ≤ s₀.count + 1 := by
      split
      · exact ⟨s₀.byStatus, rfl, fun p hp => by have := hs p hp; omega⟩
      · exact bumpStatus_bounded r.status hs hc0 (by simp at hc; omega)
    have hadd : s₀.add r = some ⟨s₀.count + 1, ti, tout, s₀.cost + r.costEstimate, du, bs⟩ := by
      rw [Summary.add_eq_some]
      exact ⟨hcount, hti, hto, hdu, hbs, rfl⟩
    simp only [List.foldlM_cons, Option.bind_eq_bind, hadd, Option.bind_some]
    exact ih hi' ho' hd' (show 0 ≤ s₀.count + 1 by omega)
      (show s₀.count + 1 + rs.length < 2 ^ 63 by simp at hc; omega) hbound

end Totals

section Summaries

variable {m : MemoryStore} {d : Database} {f : Filters}

theorem Database.summarize_eq_ok {rows : List Row} (hrows : d.matching f = .ok rows) {S : Summary} :
    d.summarize f = .ok S ↔
      checkedSum ((scanOrder f rows).map (·.record.tokensIn)) = .ok S.tokensIn ∧
      checkedSum ((scanOrder f rows).map (·.record.tokensOut)) = .ok S.tokensOut ∧
      checkedSum ((scanOrder f rows).map (·.record.durationMs)) = .ok S.durationMs ∧
      S.count = rows.length ∧ S.byStatus = statusCounts rows ∧
      S.cost = (compensatedTotal ((scanOrder f rows).map (·.record.costEstimate))).getD 0.0 := by
  obtain ⟨c, ti, tout, cost, du, bs⟩ := S
  simp only [Database.summarize, hrows, bind, Except.bind, pure, Except.pure]
  cases checkedSum ((scanOrder f rows).map (·.record.tokensIn)) <;>
    cases checkedSum ((scanOrder f rows).map (·.record.tokensOut)) <;>
    cases checkedSum ((scanOrder f rows).map (·.record.durationMs)) <;> simp
  -- what is left is the case where all three sums are given
  grind

theorem MemoryStore.summarize_eq_ok {ks : List Record} (hks : m.matching f = .ok ks) {M : Summary} :
    m.summarize f = .ok M ↔ Summary.ofRecords ks = some M := by
  simp only [MemoryStore.summarize, hks, bind, Except.bind]
  cases Summary.ofRecords ks <;> simp [pure, Except.pure, throw, throwThe, MonadExceptOf.throw]

theorem scanOrder_perm (f : Filters) (rows : List Row) : (scanOrder f rows).Perm rows := by
  unfold scanOrder
  split
  · exact List.mergeSort_perm _ _
  · exact List.Perm.refl _

theorem scanOrder_of_inserted (h : (filled? f.projectTag).isSome ∨ (filled? f.date).isNone)
    (rows : List Row) : scanOrder f rows = rows := by
  unfold scanOrder
  rw [if_neg]
  cases hp : filled? f.projectTag <;> cases hd : filled? f.date <;> simp_all

theorem sum_scanOrder (f : Filters) (rows : List Row) (g : Row → Int) :
    ((scanOrder f rows).map g).sum = (rows.map g).sum :=
  ((scanOrder_perm f rows).map g).sum_eq

end Summaries

/-- Summaries of a database in step with the memory store agree on the count, the totals and
the counts per status whenever both are given. When the database reads the rows in order of
insertion, both are given or both refused, as long as the records can be counted. -/
theorem Database.summarize_of_mirrors {m : MemoryStore} {d : Database} {f : Filters}
    (hM : Mirrors m d) (hp : PlainTimes m) (hf : WritableDay f)
    (hok : ∃ span, f.dayBounds = .ok span) :
    (∀ S M, d.summarize f = .ok S → m.summarize f = .ok M →
      S.count = M.count ∧ S.tokensIn = M.tokensIn ∧ S.tokensOut = M.tokensOut ∧
        S.durationMs = M.durationMs ∧ S.byStatus = M.byStatus) ∧
    ((filled? f.projectTag).isSome ∨ (filled? f.date).isNone → m.records.length < 2 ^ 63 →
      ((∃ S, d.summarize f = .ok S) ↔ ∃ M, m.summarize f = .ok M)) := by
  obtain ⟨ks, hmem, hdb, hsub⟩ := Database.matching_pair hM hp hf hok
  -- a row carries its record's tokens and duration
  have hin : (ks.map storedRow).map (·.record.tokensIn) = ks.map (·.tokensIn) := by
    simp [storedRow]
  have hout : (ks.map storedRow).map (·.record.tokensOut) = ks.map (·.tokensOut) := by
    simp [storedRow]
  have hdur : (ks.map storedRow).map (·.record.durationMs) = ks.map (·.durationMs) := by
    simp [storedRow]
  refine ⟨?_, ?_⟩
  · intro S M hS hMs
    obtain ⟨hi, ho, hd, hc, hs, -⟩ := (Database.summarize_eq_ok hdb).1 hS
    obtain ⟨hc', hi', ho', hd', hs'⟩ :=
      foldlM_add_eq_some ((MemoryStore.summarize_eq_ok hmem).1 hMs)
    -- each total is the plain sum of the kept records, whatever order the rows are read in
    refine ⟨?_, ?_, ?_, ?_, ?_⟩
    · simp [hc, hc']
    · rw [checkedSum_eq_ok hi, sum_scanOrder, hin, foldlM_checkedAdd_eq hi']
      simp
    · rw [checkedSum_eq_ok ho, sum_scanOrder, hout, foldlM_checkedAdd_eq ho']
      simp
    · rw [checkedSum_eq_ok hd, sum_scanOrder, hdur, foldlM_checkedAdd_eq hd']
      simp
    · rw [hs, hs', statusCounts_eq]
  · intro hinserted hlen
    have hks : ks.length < 2 ^ 63 := by
      have := hsub.length_le
      omega
    constructor
    · rintro ⟨S, hS⟩
      obtain ⟨hi, ho, hd, -⟩ := (Database.summarize_eq_ok hdb).1 hS
      rw [scanOrder_of_inserted hinserted] at hi ho hd
      rw [hin] at hi
      rw [hout] at ho
      rw [hdur] at hd
      obtain ⟨M, hM'⟩ := Option.isSome_iff_exists.1 (@foldlM_add_isSome ks {}
        (by simp [foldlM_of_checkedSum hi]) (by simp [foldlM_of_checkedSum ho])
        (by simp [foldlM_of_checkedSum hd]) le_rfl (by simp; omega) (by simp))
      exact ⟨M, (MemoryStore.summarize_eq_ok hmem).2 hM'⟩
    · rintro ⟨M, hMs⟩
      obtain ⟨-, hi', ho', hd', -⟩ := foldlM_add_eq_some ((MemoryStore.summarize_eq_ok hmem).1 hMs)
      refine ⟨⟨(ks.map storedRow).length, M.tokensIn, M.tokensOut,
        (compensatedTotal ((ks.map storedRow).map (·.record.costEstimate))).getD 0.0,
        M.durationMs, statusCounts (ks.map storedRow)⟩, ?_⟩
      rw [Database.summarize_eq_ok hdb, scanOrder_of_inserted hinserted, hin, hout, hdur]
      exact ⟨checkedSum_of_foldlM hi', checkedSum_of_foldlM ho', checkedSum_of_foldlM hd', rfl,
        rfl, rfl⟩

section Refinement

/-- What the two stores answer alike through one filter: the same records listed, newest first,
and summaries that agree when both are given and are given together when the rows are added in
their order of insertion. -/
structure QueriesAgree (m : MemoryStore) (d : Database) (f : Filters) : Prop where
  list : ∃ ms ls, m.list f = .ok ms ∧ d.list f = .ok ls ∧ ls.Perm (ms.map storedForm) ∧
    ls.Pairwise (fun a b => newerOrSame a b = true)
  summaries : ∀ S M, d.summarize f = .ok S → m.summarize f = .ok M →
    S.count = M.count ∧ S.tokensIn = M.tokensIn ∧ S.tokensOut = M.tokensOut ∧
      S.durationMs = M.durationMs ∧ S.byStatus = M.byStatus
  summarized : (filled? f.projectTag).isSome ∨ (filled? f.date).isNone →
    m.records.length < 2 ^ 63 → ((∃ S, d.summarize f = .ok S) ↔ ∃ M, m.summarize f = .ok M)

/-- The database refines the memory store. Whatever creates the memory store accepts from
empty, the database accepts from empty too; then every filter whose day is read answers alike
on both, as long as the creation times lie in the years 0 to 9999 and the day's span can be
written as text. -/
theorem database_refines_memory {st : Stamps} {rs : List Record} {m : MemoryStore}
    {f : Filters} (hrun : ({} : MemoryStore).createAll st rs = some m) (hp : PlainTimes m)
    (hf : WritableDay f) (hok : ∃ span, f.dayBounds = .ok span) :
    ∃ d, ({} : Database).insertAll st rs = some d ∧ QueriesAgree m d f := by
  -- both stores start empty, so in step and with no record lacking a time
  obtain ⟨d, hd, hM, -⟩ := Database.insertAll_of_createAll (m := {}) (d := {}) rs rfl rfl rfl
    (by simp) hrun
  obtain ⟨hsum, hgiven⟩ := Database.summarize_of_mirrors hM hp hf hok
  exact ⟨d, hd, Database.list_of_mirrors hM hp hf hok, hsum, hgiven⟩

def dayRecords : List Record :=
  [{ id := "a", sessionKey := "a", tokensIn := 5, status := "success",
     createdAt := some ⟨1771495200, 0⟩ },
   { id := "b", sessionKey := "b", tokensIn := 7, status := "success",
     createdAt := some ⟨1771498800, 0⟩ }]

theorem database_refines_memory_on_day :
    ({} : MemoryStore).createAll ⟨0, ⟨0, 0⟩⟩ dayRecords = some { records := dayRecords } ∧
      PlainTimes { records := dayRecords } ∧ WritableDay { date := some "2026-02-19" } ∧
      ∃ d, ({} : Database).insertAll ⟨0, ⟨0, 0⟩⟩ dayRecords = some d ∧
        QueriesAgree { records := dayRecords } d { date := some "2026-02-19" } := by
  have hrun : ({} : MemoryStore).createAll ⟨0, ⟨0, 0⟩⟩ dayRecords =
      some { records := dayRecords } := rfl
  have hp : PlainTimes { records := dayRecords } := by
    intro x hx
    simp only [dayRecords, List.mem_cons, List.not_mem_nil, or_false] at hx
    rcases hx with rfl | rfl
    all_goals exact ⟨_, rfl, ⟨by decide, by decide, by decide⟩, by decide, by decide⟩
  have hbounds : ({ date := some "2026-02-19" } : Filters).dayBounds =
      .ok (some (⟨1771459200, 0⟩, ⟨1771545600, 0⟩)) := by decide
  have hf : WritableDay { date := some "2026-02-19" } := by
    intro lo hi h
    rw [hbounds] at h
    cases h
    exact .inl (by decide)
  exact ⟨hrun, hp, hf, database_refines_memory hrun hp hf ⟨_, hbounds⟩⟩

end Refinement

end TurnLedger.Store
