import Mathlib.Data.List.Infix
import TurnLedger.Proofs.Classification
import TurnLedger.Proofs.StoreRefinement

/-!
# Exact totals of a summary

A summary takes records in one at a time, and its count and running totals are signed 64-bit
integers that stop the summary when they would leave that range. So the fold gives a summary
exactly when the count and the three running totals are in range after every record
(`RunningTotalsFit`), and then it holds the exact count, totals and counts per status
(`Summary.Exact`). Final totals in range are not enough: a large total followed by a negative
one overflows on the way although the sum fits (`Summary.ofRecords_overflows_on_the_way`), and
the same records in another order may go through. Two orders that both go through give the
same summary, the cost aside.
-/

namespace TurnLedger.Activity

open Classify Store

def InInt64 (x : Int) : Prop := -2 ^ 63 ≤ x ∧ x < 2 ^ 63

instance (x : Int) : Decidable (InInt64 x) := inferInstanceAs (Decidable (_ ∧ _))

def statusCount (rs : List Record) (k : String) : Nat := rs.countP (·.status == k)

/-- After the records `rs`, their number and the sums of their tokens and durations are 64-bit
integers. -/
def TotalsFit (rs : List Record) : Prop :=
  rs.length < 2 ^ 63 ∧ InInt64 (rs.map (·.tokensIn)).sum ∧ InInt64 (rs.map (·.tokensOut)).sum ∧
    InInt64 (rs.map (·.durationMs)).sum

instance (rs : List Record) : Decidable (TotalsFit rs) :=
  inferInstanceAs (Decidable (_ ∧ _ ∧ _ ∧ _))

def RunningTotalsFit (rs : List Record) : Prop := ∀ p ∈ rs.inits, TotalsFit p

instance (rs : List Record) : Decidable (RunningTotalsFit rs) :=
  inferInstanceAs (Decidable (∀ p ∈ rs.inits, TotalsFit p))

/-- A summary that holds the exact totals of `rs`: the count, the sums, and for each status
that is not empty the number of records with it, in a list sorted by status that names no
other status. -/
structure Summary.Exact (s : Summary) (rs : List Record) : Prop where
  count : s.count = rs.length
  tokensIn : s.tokensIn = (rs.map (·.tokensIn)).sum
  tokensOut : s.tokensOut = (rs.map (·.tokensOut)).sum
  durationMs : s.durationMs = (rs.map (·.durationMs)).sum
  sorted : (s.byStatus.map Prod.fst).Pairwise (· < ·)
  byStatus : ∀ k, s.byStatus.lookup k =
    if k ≠ "" ∧ 0 < statusCount rs k then some (statusCount rs k : Int) else none

section Lookup

variable {α : Type}

theorem lookup_cons_eq_ite {k j : String} {v : α} {l : List (String × α)} :
    ((k, v) :: l).lookup j = if j = k then some v else l.lookup j := by
  by_cases h : j = k
  · subst h
    simp
  · simp [List.lookup_cons, beq_false_of_ne h, h]

theorem lookup_insertEntry (k j : String) (v : α) (l : List (String × α)) :
    (insertEntry k v l).lookup j = if j = k then some v else l.lookup j := by
  induction l with
  | nil => simp [insertEntry, lookup_cons_eq_ite]
  | cons e rest ih =>
    obtain ⟨k', v'⟩ := e
    by_cases h₁ : k < k'
    · simp only [insertEntry, if_pos h₁, lookup_cons_eq_ite]
    · by_cases h₂ : k = k'
      · subst h₂
        simp only [insertEntry, if_neg h₁, beq_self_eq_true, if_true, lookup_cons_eq_ite]
        by_cases hj : j = k <;> simp [hj]
      · simp only [insertEntry, if_neg h₁, beq_false_of_ne h₂, Bool.false_eq_true, if_false]
        rw [lookup_cons_eq_ite, ih, lookup_cons_eq_ite]
        by_cases hj : j = k
        · subst hj
          simp [h₂]
        · simp [hj]

theorem lookup_eq_none_of_lt {j : String} {l : List (String × α)}
    (h : ∀ x ∈ l.map Prod.fst, j < x) : l.lookup j = none := by
  induction l with
  | nil => rfl
  | cons e rest ih =>
    obtain ⟨k, v⟩ := e
    have hk : j ≠ k := (h k List.mem_cons_self).ne
    rw [lookup_cons_eq_ite, if_neg hk]
    exact ih fun x hx => h x (List.mem_cons_of_mem _ hx)

theorem eq_of_lookup_eq : ∀ {l₁ l₂ : List (String × α)}, (l₁.map Prod.fst).Pairwise (· < ·) →
    (l₂.map Prod.fst).Pairwise (· < ·) → (∀ j, l₁.lookup j = l₂.lookup j) → l₁ = l₂
  | [], [], _, _, _ => rfl
  | [], (k, v) :: _, _, _, h => by simpa [lookup_cons_eq_ite] using h k
  | (k, v) :: _, [], _, _, h => by simpa [lookup_cons_eq_ite] using h k
  | (k₁, v₁) :: r₁, (k₂, v₂) :: r₂, h₁, h₂, h => by
    simp only [List.map_cons, List.pairwise_cons] at h₁ h₂
    -- the least keys agree: the smaller one would be missing from the other list
    have hk : k₁ = k₂ := by
      rcases lt_trichotomy k₁ k₂ with hlt | heq | hlt
      · have := h k₁
        rw [lookup_cons_eq_ite, lookup_cons_eq_ite, if_pos rfl, if_neg hlt.ne,
          lookup_eq_none_of_lt fun x hx => hlt.trans (h₂.1 x hx)] at this
        cases this
      · exact heq
      · have := h k₂
        rw [lookup_cons_eq_ite, lookup_cons_eq_ite, if_pos rfl, if_neg hlt.ne,
          lookup_eq_none_of_lt fun x hx => hlt.trans (h₁.1 x hx)] at this
        cases this
    subst hk
    have hv : v₁ = v₂ := by simpa [lookup_cons_eq_ite] using h k₁
    subst hv
    congr 1
    refine eq_of_lookup_eq h₁.2 h₂.2 fun j => ?_
    by_cases hj : j = k₁
    · subst hj
      rw [lookup_eq_none_of_lt h₁.1, lookup_eq_none_of_lt h₂.1]
    · simpa [lookup_cons_eq_ite, hj] using h j

end Lookup

theorem checkedAdd_of_inInt64 {a b : Int} (h : InInt64 (a + b)) : checkedAdd a b = some (a + b) :=
  checkedAdd_eq_some.2 ⟨rfl, h⟩

theorem bumpStatus_eq {k : String} {l : List (String × Int)} (h : (l.map Prod.fst).Pairwise (· < ·)) :
    bumpStatus k l = (checkedAdd ((l.lookup k).getD 0) 1).map fun m => insertEntry k m l := by
  induction l with
  | nil => simp [bumpStatus, checkedAdd, insertEntry]
  | cons e rest ih =>
    obtain ⟨k', n⟩ := e
    simp only [List.map_cons, List.pairwise_cons] at h
    simp only [bumpStatus]
    split_ifs with h₁ h₂
    · -- a status before every key is new
      have hnew : ((k', n) :: rest).lookup k = none :=
        lookup_eq_none_of_lt fun x hx => by
          rcases List.mem_cons.1 hx with rfl | hx
          · exact h₁
          · exact h₁.trans (h.1 x hx)
      simp [hnew, checkedAdd, insertEntry, h₁]
    · have hk : k = k' := beq_iff_eq.1 h₂
      subst hk
      simp [insertEntry]
    · have hne : k ≠ k' := fun e => h₂ (beq_iff_eq.2 e)
      rw [ih h.2]
      simp [lookup_cons_eq_ite, hne, insertEntry, h₁, Option.map_map, Function.comp_def]

theorem statusCount_le (rs : List Record) (k : String) : statusCount rs k ≤ rs.length :=
  List.countP_le_length

theorem statusCount_concat (pre : List Record) (r : Record) (k : String) :
    statusCount (pre ++ [r]) k = statusCount pre k + if r.status = k then 1 else 0 := by
  simp [statusCount, List.countP_append]

section Step

variable {s s' : Summary} {pre : List Record} {r : Record}

theorem Summary.exact_nil : ({} : Summary).Exact [] :=
  ⟨rfl, rfl, rfl, rfl, List.Pairwise.nil, fun k => by simp [statusCount]⟩

theorem Summary.Exact.lookup_getD (h : s.Exact pre) {k : String} (hk : k ≠ "") :
    (s.byStatus.lookup k).getD 0 = statusCount pre k := by
  rw [h.byStatus]
  by_cases hpos : 0 < statusCount pre k
  · simp [hk, hpos]
  · simp only [hk, ne_eq, not_false_eq_true, hpos, and_false, if_false, Option.getD_none]
    omega

theorem Summary.Exact.add_isSome_iff (h : s.Exact pre) (r : Record) :
    (s.add r).isSome ↔ TotalsFit (pre ++ [r]) := by
  have hle := statusCount_le pre r.status
  simp only [TotalsFit, List.length_append, List.length_singleton, List.map_append, List.map_cons,
    List.map_nil, List.sum_append, List.sum_singleton]
  constructor
  · intro hs
    obtain ⟨s', hs'⟩ := Option.isSome_iff_exists.1 hs
    obtain ⟨hc, hi, ho, hd, -, -⟩ := Summary.add_eq_some.1 hs'
    have hc := (checkedAdd_eq_some.1 hc).2
    rw [h.count] at hc
    refine ⟨by omega, ?_, ?_, ?_⟩
    · simpa [InInt64, h.tokensIn] using (checkedAdd_eq_some.1 hi).2
    · simpa [InInt64, h.tokensOut] using (checkedAdd_eq_some.1 ho).2
    · simpa [InInt64, h.durationMs] using (checkedAdd_eq_some.1 hd).2
  · rintro ⟨hc, hi, ho, hd⟩
    -- the status count is at most the count, so raising it stays in range too
    obtain ⟨bs, hbs⟩ : ∃ bs, (if r.status.isEmpty then some s.byStatus
        else bumpStatus r.status s.byStatus) = some bs := by
      split
      · exact ⟨_, rfl⟩
      · rename_i hstatus
        have hne : r.status ≠ "" := by simpa [String.isEmpty_iff] using hstatus
        rw [bumpStatus_eq h.sorted, h.lookup_getD hne,
          checkedAdd_of_inInt64 (by unfold InInt64; omega)]
        exact ⟨_, rfl⟩
    have hs : s.add r = some ⟨s.count + 1, s.tokensIn + r.tokensIn, s.tokensOut + r.tokensOut,
        s.cost + r.costEstimate, s.durationMs + r.durationMs, bs⟩ := by
      rw [Summary.add_eq_some]
      refine ⟨checkedAdd_of_inInt64 ?_, checkedAdd_of_inInt64 ?_, checkedAdd_of_inInt64 ?_,
        checkedAdd_of_inInt64 ?_, hbs, rfl⟩
      · rw [h.count]
        unfold InInt64
        omega
      · rwa [h.tokensIn]
      · rwa [h.tokensOut]
      · rwa [h.durationMs]
    simp [hs]

theorem Summary.Exact.add (h : s.Exact pre) (hs : s.add r = some s') : s'.Exact (pre ++ [r]) := by
  obtain ⟨hc, hi, ho, hd, hbs, -⟩ := Summary.add_eq_some.1 hs
  refine ⟨?_, ?_, ?_, ?_, ?_, ?_⟩
  · rw [(checkedAdd_eq_some.1 hc).1, h.count]
    simp
  · rw [(checkedAdd_eq_some.1 hi).1, h.tokensIn]
    simp
  · rw [(checkedAdd_eq_some.1 ho).1, h.tokensOut]
    simp
  · rw [(checkedAdd_eq_some.1 hd).1, h.durationMs]
    simp
  · split at hbs
    · rw [← Option.some.inj hbs]
      exact h.sorted
    · rw [bumpStatus_eq h.sorted] at hbs
      obtain ⟨m, -, hm⟩ := Option.map_eq_some_iff.1 hbs
      rw [← hm]
      exact sorted_insertEntry h.sorted
  · intro k
    rw [statusCount_concat]
    split at hbs
    · -- a record without a status leaves every count as it was
      rename_i hempty
      have hr : r.status = "" := by simpa [String.isEmpty_iff] using hempty
      rw [← Option.some.inj hbs, h.byStatus k]
      by_cases hk : k = ""
      · simp [hk]
      · simp [hr, Ne.symm hk]
    · rename_i hstatus
      have hne : r.status ≠ "" := by simpa [String.isEmpty_iff] using hstatus
      rw [bumpStatus_eq h.sorted, h.lookup_getD hne] at hbs
      obtain ⟨m, hm, hbs'⟩ := Option.map_eq_some_iff.1 hbs
      rw [← hbs', lookup_insertEntry]
      by_cases hk : k = r.status
      · subst hk
        rw [(checkedAdd_eq_some.1 hm).1]
        simp [hne]
      · rw [h.byStatus k]
        simp [hk, Ne.symm hk]

theorem Summary.Exact.foldlM (h : s.Exact pre) (rs : List Record) :
    ((rs.foldlM Summary.add s).isSome ↔ ∀ p, p <+: rs → p ≠ [] → TotalsFit (pre ++ p)) ∧
      ∀ s', rs.foldlM Summary.add s = some s' → s'.Exact (pre ++ rs) := by
  induction rs generalizing s pre with
  | nil =>
    refine ⟨by simp, fun s' hs' => ?_⟩
    simp only [List.foldlM_nil, Option.pure_def, Option.some.injEq] at hs'
    subst hs'
    simpa using h
  | cons r rs ih =>
    simp only [List.foldlM_cons, Option.bind_eq_bind]
    refine ⟨?_, fun s' hs' => ?_⟩
    · -- a non-empty prefix of `r :: rs` is `r` followed by a prefix of `rs`
      have hprefixes : (∀ p, p <+: r :: rs → p ≠ [] → TotalsFit (pre ++ p)) ↔
          TotalsFit (pre ++ [r]) ∧ ∀ q, q <+: rs → q ≠ [] → TotalsFit (pre ++ [r] ++ q) := by
        simp only [List.prefix_cons_iff, List.append_assoc, List.singleton_append]
        constructor
        · intro hp
          exact ⟨hp [r] (.inr ⟨[], rfl, List.nil_prefix⟩) (by simp),
            fun q hq _ => hp (r :: q) (.inr ⟨q, rfl, hq⟩) (by simp)⟩
        · rintro ⟨h₁, h₂⟩ p (rfl | ⟨q, rfl, hq⟩) hp
          · exact absurd rfl hp
          · rcases q with _ | ⟨x, q⟩
            · exact h₁
            · exact h₂ _ hq (by simp)
      rw [hprefixes, ← h.add_isSome_iff r]
      cases hs : s.add r with
      | none => simp
      | some s₁ => simp [(ih (h.add hs)).1]
    · obtain ⟨s₁, hs₁, hrest⟩ := Option.bind_eq_some_iff.1 hs'
      simpa using (ih (h.add hs₁)).2 s' hrest

end Step

theorem runningTotalsFit_iff {rs : List Record} :
    RunningTotalsFit rs ↔ ∀ p, p <+: rs → p ≠ [] → TotalsFit ([] ++ p) := by
  simp only [RunningTotalsFit, List.mem_inits, List.nil_append]
  constructor
  · exact fun h p hp _ => h p hp
  · intro h p hp
    rcases p with _ | ⟨x, p⟩
    · simp [TotalsFit, InInt64]
    · exact h _ hp (by simp)

theorem Summary.Exact.agree {s s' : Summary} {rs rs' : List Record} (h : s.Exact rs)
    (h' : s'.Exact rs') (hp : rs.Perm rs') :
    s.count = s'.count ∧ s.tokensIn = s'.tokensIn ∧ s.tokensOut = s'.tokensOut ∧
      s.durationMs = s'.durationMs ∧ s.byStatus = s'.byStatus := by
  have hcount : ∀ k, statusCount rs k = statusCount rs' k := fun k => hp.countP_eq _
  refine ⟨by rw [h.count, h'.count, hp.length_eq], by rw [h.tokensIn, h'.tokensIn, (hp.map _).sum_eq],
    by rw [h.tokensOut, h'.tokensOut, (hp.map _).sum_eq],
    by rw [h.durationMs, h'.durationMs, (hp.map _).sum_eq], ?_⟩
  exact eq_of_lookup_eq h.sorted h'.sorted fun k => by rw [h.byStatus, h'.byStatus, hcount]

/-- Summing records one at a time gives a summary exactly when the count and the running totals
of tokens and durations stay 64-bit integers after every record, and that summary holds the
exact count, totals and counts per status; so two orders of the same records that both go
through give the same summary, the cost aside. The memory store sums the records that match a
filter, in the order they arrived. -/
theorem Summary.ofRecords_exact_iff (rs : List Record) :
    ((Summary.ofRecords rs).isSome ↔ RunningTotalsFit rs) ∧
    (∀ s, Summary.ofRecords rs = some s → s.Exact rs) ∧
    (∀ rs' s s', rs.Perm rs' → Summary.ofRecords rs = some s → Summary.ofRecords rs' = some s' →
      s.count = s'.count ∧ s.tokensIn = s'.tokensIn ∧ s.tokensOut = s'.tokensOut ∧
        s.durationMs = s'.durationMs ∧ s.byStatus = s'.byStatus) ∧
    ∀ (m : MemoryStore) (f : Filters), m.matching f = .ok rs →
      ((∃ s, m.summarize f = .ok s) ↔ RunningTotalsFit rs) ∧
        ∀ s, m.summarize f = .ok s → s.Exact rs := by
  have hrun := fun rs => Summary.exact_nil.foldlM rs
  have hsome : ∀ rs, (Summary.ofRecords rs).isSome ↔ RunningTotalsFit rs := fun rs => by
    rw [runningTotalsFit_iff, ← (hrun rs).1]
    rfl
  have hexact : ∀ rs s, Summary.ofRecords rs = some s → s.Exact rs := fun rs s hs => by
    simpa using (hrun rs).2 s hs
  refine ⟨hsome rs, hexact rs, fun rs' s s' hp hs hs' => (hexact rs s hs).agree (hexact rs' s' hs') hp,
    fun m f hm => ⟨?_, fun s hs => hexact rs s ((MemoryStore.summarize_eq_ok hm).1 hs)⟩⟩
  simp only [MemoryStore.summarize_eq_ok hm, ← hsome, Option.isSome_iff_exists]

/-- The totals of these three records fit, yet the running total of tokens in overflows after
the second. -/
theorem Summary.ofRecords_overflows_on_the_way :
    let rs : List Record := [{ tokensIn := 2 ^ 63 - 1 }, { tokensIn := 1 }, { tokensIn := -1 }]
    rs.length < 2 ^ 63 ∧ InInt64 (rs.map (·.tokensIn)).sum ∧ InInt64 (rs.map (·.tokensOut)).sum ∧
      InInt64 (rs.map (·.durationMs)).sum ∧ Summary.ofRecords rs = none := by
  refine ⟨by decide, by decide, by decide, by decide, rfl⟩

/-- Three records whose running totals all fit sum exactly. -/
theorem Summary.ofRecords_exact_iff_in_range :
    let rs : List Record := [{ tokensIn := 2 ^ 63 - 1, status := "ok" }, { tokensIn := -1 },
      { tokensIn := 1, status := "ok" }]
    RunningTotalsFit rs ∧ ∃ s, Summary.ofRecords rs = some s ∧ s.Exact rs := by
  intro rs
  have h := Summary.ofRecords_exact_iff rs
  have hfit : RunningTotalsFit rs := by decide
  obtain ⟨s, hs⟩ := Option.isSome_iff_exists.1 (h.1.2 hfit)
  exact ⟨hfit, s, hs, h.2.1 s hs⟩

end TurnLedger.Activity
