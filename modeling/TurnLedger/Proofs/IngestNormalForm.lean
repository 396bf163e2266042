import TurnLedger.Activity.Ingest
import TurnLedger.Proofs.Classification
import TurnLedger.Proofs.LowercaseNormal

/-!
# Taking a record in twice changes nothing

Taking a record in clears its id, fills every blank text field and a missing creation time, and
gives it a category that is trimmed, lowercased and not empty, with a reason that is not blank
(`Record.Ingested`). Such a record is a fixed point: taken in again with the same signals, at any
time, it comes back unchanged (`Submission.toRecord_ingested_fixed`).

Three facts carry it. Filling defaults leaves no blank field, so filling again changes nothing.
A category kept from the record is normalized, and normalizing is idempotent. A category found by
classifying against a compiled rule set is one of its names, which compiling leaves in normal
form, and no reason text is blank, so the category is kept with its reason the second time.
-/

namespace TurnLedger.Text

@[simp]
theorem isBlankText_append (a b : String) :
    isBlankText (a ++ b) = (isBlankText a && isBlankText b) := by
  simp [isBlankText, String.toList_append, List.all_append]

theorem isBlankText_append_of_left {a : String} (h : isBlankText a = false) (b : String) :
    isBlankText (a ++ b) = false := by
  simp [h]

end TurnLedger.Text

namespace TurnLedger.Classify

open Text

def NormalCategory (c : String) : Prop := normalize c = c ∧ c ≠ ""

theorem normalCategory_normalize {s : String} (h : normalize s ≠ "") :
    NormalCategory (normalize s) :=
  ⟨normalize_normalize s, h⟩

theorem normalCategory_fallback : NormalCategory fallbackCategory :=
  ⟨by decide, by decide⟩

theorem names_normal_of_cats {d : String} {cats : List (String × Criteria)}
    (hd : NormalCategory d) (hcats : ∀ c ∈ cats.map Prod.fst, NormalCategory c) :
    ∀ c ∈ (RuleSet.mk d (if cats.any (·.1 == d) then cats else insertEntry d {} cats)).names,
      NormalCategory c := by
  simp only [RuleSet.names]
  split_ifs
  · exact hcats
  · intro c hc
    rcases mem_keys_insertEntry.1 hc with rfl | hc
    · exact hd
    · exact hcats c hc

theorem compile_names_normal (file : RuleFile) : ∀ c ∈ file.compile.names, NormalCategory c := by
  -- the categories are built by insertions of normalized, nonempty names
  have hfold : ∀ (xs : List (String × CategorySpec)) (acc : List (String × Criteria)),
      (∀ c ∈ acc.map Prod.fst, NormalCategory c) →
      ∀ c ∈ (xs.foldl (fun acc (x : String × CategorySpec) =>
        if (normalize x.1).isEmpty then acc else insertEntry (normalize x.1) x.2.compile acc)
          acc).map Prod.fst, NormalCategory c := by
    intro xs acc h0
    refine List.foldlRecOn
      (motive := fun acc : List (String × Criteria) => ∀ c ∈ acc.map Prod.fst, NormalCategory c)
      xs _ h0 fun acc hacc x _ => ?_
    split_ifs with hx
    · exact hacc
    · intro c hc
      rcases mem_keys_insertEntry.1 hc with rfl | hc
      · exact normalCategory_normalize (by simpa [String.isEmpty_iff] using hx)
      · exact hacc c hc
  simp only [RuleFile.compile]
  refine names_normal_of_cats ?_ (hfold _ _ (by simp))
  -- the default is normalized too, or the fallback
  split_ifs with he
  · exact normalCategory_fallback
  · exact normalCategory_normalize (by simpa [String.isEmpty_iff] using he)

theorem RuleSet.mem_names_of_mem_scored {rs : RuleSet} {c : String} {r : Criteria}
    (h : (c, r) ∈ rs.scored) : c ∈ rs.names :=
  List.mem_map.2 ⟨(c, r), (List.mem_filter.1 h).1, rfl⟩

theorem KeywordsDecide.mem_names {text : String} {rs : RuleSet} {c : String} {m : Nat}
    (h : KeywordsDecide text rs c m) : c ∈ rs.names :=
  let ⟨_, _, _, hr, _⟩ := h
  RuleSet.mem_names_of_mem_scored hr

theorem Decision.category_mem {s : Signals} {rs : RuleSet} {x : Classification}
    (hrs : rs.Compiled) (h : Decision s rs x) : x.category ∈ rs.names := by
  cases h with
  | named ho => exact ho.2.2
  | prompt _ hk => exact KeywordsDecide.mem_names hk
  | tool _ _ ht =>
    obtain ⟨_, _, _, _, _, _, ⟨r, hr, _⟩, _⟩ := ht
    exact RuleSet.mem_names_of_mem_scored hr
  | reply _ _ _ hk => exact KeywordsDecide.mem_names hk
  | fallback => exact hrs.hasDefault

theorem classify_category_mem {rs : RuleSet} (hrs : rs.Compiled) (s : Signals) :
    (classify s rs).category ∈ rs.names :=
  ((classify_eq_iff_decision hrs s _).1 rfl).category_mem hrs

theorem Reason.text_not_blank (x : Reason) : isBlankText x.text = false := by
  have lead : ∀ {a : String} (b c d : String), isBlankText a = false →
      isBlankText (a ++ b ++ c ++ d) = false := fun b c d h => by simp [h]
  cases x with
  | named c => exact isBlankText_append_of_left (by decide) c
  | promptKeywords c n => exact lead c "=" (toString n) (by decide)
  | tool t => exact isBlankText_append_of_left (by decide) t
  | replyKeywords c n => exact lead c "=" (toString n) (by decide)
  | fallback => decide

end TurnLedger.Classify

namespace TurnLedger.Activity

open Classify Text

section Defaults

theorem orDefault_not_blank (s : String) {d : String} (hd : isBlankText d = false) :
    isBlankText (orDefault s d) = false := by
  unfold orDefault
  split
  · exact hd
  · next h => simpa using h

theorem orDefault_of_not_blank {s : String} (hs : isBlankText s = false) (d : String) :
    orDefault s d = s := by
  simp [orDefault, hs]

structure Record.Filled (r : Record) : Prop where
  projectTag : isBlankText r.projectTag = false
  channel : isBlankText r.channel = false
  userId : isBlankText r.userId = false
  model : isBlankText r.model = false
  thinking : isBlankText r.thinking = false
  status : isBlankText r.status = false
  createdAt : r.createdAt.isSome

theorem Record.filled_withDefaults (r : Record) (now : Time.Instant) : (r.withDefaults now).Filled where
  projectTag := orDefault_not_blank _ (by decide)
  channel := orDefault_not_blank _ (by decide)
  userId := orDefault_not_blank _ (by decide)
  model := orDefault_not_blank _ (by decide)
  thinking := orDefault_not_blank _ (by decide)
  status := orDefault_not_blank _ (by decide)
  createdAt := rfl

theorem Record.Filled.withDefaults_eq {r : Record} (h : r.Filled) (now : Time.Instant) :
    r.withDefaults now = r := by
  have hc : some (r.createdAt.getD now) = r.createdAt := by
    obtain ⟨t, ht⟩ := Option.isSome_iff_exists.1 h.createdAt
    simp [ht]
  simp [Record.withDefaults, orDefault_of_not_blank, h.projectTag, h.channel, h.userId, h.model,
    h.thinking, h.status, hc]

theorem Record.withDefaults_withDefaults (r : Record) (now now' : Time.Instant) :
    (r.withDefaults now).withDefaults now' = r.withDefaults now :=
  (r.filled_withDefaults now).withDefaults_eq now'

theorem Record.withDefaults_of_createdAt {r : Record} {t : Time.Instant} (h : r.createdAt = some t)
    (now now' : Time.Instant) : r.withDefaults now = r.withDefaults now' := by
  simp [Record.withDefaults, h]

end Defaults

section Classified

variable {rs : RuleSet}

theorem Record.classified_eq (r : Record) (s : Signals) (rs : RuleSet) :
    r.classified s rs =
      if normalize r.category ≠ "" ∧ normalize r.category ≠ unsetCategory then
        { r with category := normalize r.category,
                 categoryReason := orDefault r.categoryReason providedReason }
      else
        { r with category := (classify s rs).category,
                 categoryReason := (classify s rs).reason.text } := by
  simp only [Record.classified, orDefault, Bool.and_eq_true, Bool.not_eq_true', bne_iff_ne]
  by_cases h : normalize r.category ≠ "" ∧ normalize r.category ≠ unsetCategory
  · rw [if_pos h, if_pos ⟨by simpa using h.1, h.2⟩]
  · rw [if_neg h, if_neg fun h' => h ⟨by simpa using h'.1, h'.2⟩]

theorem Record.classified_frame (r : Record) (s : Signals) (rs : RuleSet) :
    ∃ c cr, r.classified s rs = { r with category := c, categoryReason := cr } := by
  rw [Record.classified_eq]
  split
  · exact ⟨_, _, rfl⟩
  · exact ⟨_, _, rfl⟩

theorem Record.Filled.classified {r : Record} (h : r.Filled) (s : Signals) (rs : RuleSet) :
    (r.classified s rs).Filled := by
  obtain ⟨c, cr, he⟩ := r.classified_frame s rs
  rw [he]
  exact ⟨h.1, h.2, h.3, h.4, h.5, h.6, h.7⟩

section Compiled

variable (hrs : rs.Compiled) (hnames : ∀ c ∈ rs.names, NormalCategory c)
include hrs hnames

theorem Record.classified_category (r : Record) (s : Signals) :
    NormalCategory (r.classified s rs).category ∧
      isBlankText (r.classified s rs).categoryReason = false := by
  rw [Record.classified_eq]
  -- read the fields off the updated record first, or matching the goal unfolds `classify`
  split <;> dsimp only
  · next h => exact ⟨normalCategory_normalize h.1, orDefault_not_blank _ (by decide)⟩
  · exact ⟨hnames _ (classify_category_mem hrs s), Reason.text_not_blank _⟩

theorem Record.classified_classified (r : Record) (s : Signals) :
    (r.classified s rs).classified s rs = r.classified s rs := by
  obtain ⟨hcat, hreason⟩ := r.classified_category hrs hnames s
  by_cases hkeep : (r.classified s rs).category ≠ unsetCategory
  · -- a category other than `general` is kept the second time, with its reason
    rw [Record.classified_eq (r.classified s rs), hcat.1, if_pos ⟨hcat.2, hkeep⟩,
      orDefault_of_not_blank hreason]
  · -- `general` is never kept, so the signals decided it, and they decide the same way again
    by_cases h : normalize r.category ≠ "" ∧ normalize r.category ≠ unsetCategory
    · refine (hkeep ?_).elim
      rw [Record.classified_eq, if_pos h]
      exact h.2
    · have hfirst : r.classified s rs =
          { r with category := (classify s rs).category,
                   categoryReason := (classify s rs).reason.text } := by
        rw [Record.classified_eq, if_neg h]
      rw [Record.classified_eq (r.classified s rs), hcat.1, if_neg fun h' => hkeep h'.2, hfirst]

end Compiled

end Classified

structure Record.Ingested (r : Record) : Prop where
  id : r.id = ""
  filled : r.Filled
  category : NormalCategory r.category
  reason : isBlankText r.categoryReason = false

/-- Taking a record in leaves it in normal form, and taking the result in again, with the same
signals and at any time, gives it back. Along the way, classifying twice is classifying once,
filling defaults twice is filling them once, and the current time matters only to a record
without a creation time. -/
theorem Submission.toRecord_ingested_fixed (q : Submission) (file : RuleFile)
    (now now' : Time.Instant) :
    (q.toRecord file.compile now).Ingested ∧
      Submission.toRecord ⟨q.toRecord file.compile now, q.signals⟩ file.compile now' =
        q.toRecord file.compile now ∧
      (∀ (x : Record) (s : Signals),
        (x.classified s file.compile).classified s file.compile = x.classified s file.compile) ∧
      ∀ x : Record, (x.withDefaults now).withDefaults now' = x.withDefaults now ∧
        ∀ t, x.createdAt = some t → x.withDefaults now = x.withDefaults now' := by
  have hrs := compile_compiled file
  have hnames := compile_names_normal file
  set r := q.toRecord file.compile now
  have hfilled : r.Filled :=
    ((Record.filled_withDefaults _ now).classified q.signals file.compile)
  obtain ⟨hcat, hreason⟩ := Record.classified_category hrs hnames
    ({ q.record with id := "" }.withDefaults now) q.signals
  have hid : r.id = "" := by
    obtain ⟨c, cr, he⟩ := Record.classified_frame
      ({ q.record with id := "" }.withDefaults now) q.signals file.compile
    simp only [r, Submission.toRecord, he]
    rfl
  refine ⟨⟨hid, hfilled, hcat, hreason⟩, ?_, fun x s => Record.classified_classified hrs hnames x s,
    fun x => ⟨x.withDefaults_withDefaults now now', fun t ht => x.withDefaults_of_createdAt ht now now'⟩⟩
  -- the id is already clear and the defaults already filled, so only classifying is left
  have hclear : { r with id := "" } = r := by rw [← hid]
  simp only [Submission.toRecord]
  rw [hclear, hfilled.withDefaults_eq]
  exact Record.classified_classified hrs hnames _ q.signals

/-- A record given with a padded, capitalized category and a blank project, against the rule file
with no categories: the category is kept in normal form, the project gets its default, and a
record with a creation time fills the same defaults at any time. -/
theorem Submission.toRecord_ingested_fixed_provided :
    (Submission.toRecord ⟨{ category := " Billing ", projectTag := " " }, {}⟩
        ({} : RuleFile).compile ⟨1771488000, 0⟩).category = "billing" ∧
      (Submission.toRecord ⟨{ category := " Billing ", projectTag := " " }, {}⟩
        ({} : RuleFile).compile ⟨1771488000, 0⟩).projectTag = "unknown-project" ∧
      (Submission.toRecord ⟨{ category := " Billing ", projectTag := " " }, {}⟩
        ({} : RuleFile).compile ⟨1771488000, 0⟩).Ingested ∧
      ({ createdAt := some ⟨0, 0⟩ } : Record).withDefaults ⟨1771488000, 0⟩ =
        ({ createdAt := some ⟨0, 0⟩ } : Record).withDefaults ⟨1771574400, 0⟩ := by
  have h := Submission.toRecord_ingested_fixed ⟨{ category := " Billing ", projectTag := " " }, {}⟩
    {} ⟨1771488000, 0⟩ ⟨1771574400, 0⟩
  exact ⟨by decide, by decide, h.1, (h.2.2.2 { createdAt := some ⟨0, 0⟩ }).2 _ rfl⟩

end TurnLedger.Activity
