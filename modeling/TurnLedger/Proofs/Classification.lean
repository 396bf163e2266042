import Mathlib.Data.List.TakeWhile
import Mathlib.Data.List.Nodup
import Mathlib.Data.String.Basic
import TurnLedger.Classify.Classifier

/-!
# The five stages of classification

Compiling a rule file lists its categories in strictly increasing name order, the default
among them. Against such a rule set, `classify` gives the first stage that decides, each
stage stated here without the loop that computes it:

1. the leftmost override in the lowercased joined text, when it names a category;
2. a scored category whose prompt score is at least two and beats every other one;
3. the first tool that a scored category's tool occurs in, with the least such category;
4. as 2, for the reply;
5. the default category.
-/

namespace TurnLedger.Classify

def RuleSet.names (rs : RuleSet) : List String := rs.categories.map Prod.fst

/-- A rule set as compiling leaves it: names strictly increasing, the default among them. -/
structure RuleSet.Compiled (rs : RuleSet) : Prop where
  sorted : rs.names.Pairwise (· < ·)
  hasDefault : rs.defaultCategory ∈ rs.names

theorem mem_keys_insertEntry {α : Type} {k x : String} {v : α} {l : List (String × α)} :
    x ∈ (insertEntry k v l).map Prod.fst ↔ x = k ∨ x ∈ l.map Prod.fst := by
  induction l with
  | nil => simp [insertEntry]
  | cons e rest ih =>
    obtain ⟨k', v'⟩ := e
    simp only [insertEntry]
    split_ifs with h₁ h₂
    · simp
    · have : k = k' := beq_iff_eq.1 h₂
      subst this
      simp
    · simp only [List.map_cons, List.mem_cons, ih]
      tauto

theorem sorted_insertEntry {α : Type} {k : String} {v : α} {l : List (String × α)}
    (h : (l.map Prod.fst).Pairwise (· < ·)) :
    ((insertEntry k v l).map Prod.fst).Pairwise (· < ·) := by
  induction l with
  | nil => simp [insertEntry]
  | cons e rest ih =>
    obtain ⟨k', v'⟩ := e
    simp only [List.map_cons, List.pairwise_cons] at h
    simp only [insertEntry]
    split_ifs with h₁ h₂
    · simp only [List.map_cons, List.pairwise_cons, List.mem_cons]
      refine ⟨?_, h.1, h.2⟩
      rintro x (rfl | hx)
      · exact h₁
      · exact lt_trans h₁ (h.1 x hx)
    · have : k = k' := beq_iff_eq.1 h₂
      subst this
      simpa only [List.map_cons, List.pairwise_cons] using h
    · have hlt : k' < k := lt_of_le_of_ne (not_lt.1 h₁) fun e => h₂ (beq_iff_eq.2 e.symm)
      simp only [List.map_cons, List.pairwise_cons]
      refine ⟨fun x hx => ?_, ih h.2⟩
      rcases mem_keys_insertEntry.1 hx with rfl | hx
      · exact hlt
      · exact h.1 x hx

theorem contains_iff_mem_names {rs : RuleSet} {c : String} : rs.contains c = true ↔ c ∈ rs.names := by
  simp [RuleSet.contains, RuleSet.names]

theorem compiled_of_sorted {d : String} {cats : List (String × Criteria)}
    (h : (cats.map Prod.fst).Pairwise (· < ·)) :
    (RuleSet.mk d (if cats.any (·.1 == d) then cats else insertEntry d {} cats)).Compiled := by
  constructor
  · simp only [RuleSet.names]
    split_ifs
    · exact h
    · exact sorted_insertEntry h
  · simp only [RuleSet.names]
    split_ifs with hd
    · simpa using hd
    · exact mem_keys_insertEntry.2 (Or.inl rfl)

theorem compile_compiled (file : RuleFile) : file.compile.Compiled := by
  -- the categories are built by insertions into a sorted list
  have hfold : ∀ (xs : List (String × CategorySpec)) (acc : List (String × Criteria)),
      (acc.map Prod.fst).Pairwise (· < ·) →
      ((xs.foldl (fun acc (x : String × CategorySpec) =>
        if (normalize x.1).isEmpty then acc else insertEntry (normalize x.1) x.2.compile acc)
          acc).map Prod.fst).Pairwise (· < ·) := by
    intro xs acc h0
    refine List.foldlRecOn
      (motive := fun acc : List (String × Criteria) => (acc.map Prod.fst).Pairwise (· < ·))
      xs _ h0 fun acc hacc x _ => ?_
    split_ifs
    · exact hacc
    · exact sorted_insertEntry hacc
  simp only [RuleFile.compile]
  exact compiled_of_sorted (hfold _ _ List.Pairwise.nil)

/-- What follows the word `category` in an override naming `c`: blanks, a colon, blanks, then
`c`, a run of name characters as long as it goes. -/
def OverrideTail (w c : List Char) : Prop :=
  ∃ b₁ b₂ rest, w = b₁ ++ ':' :: (b₂ ++ c ++ rest) ∧ (∀ x ∈ b₁, Text.isBlank x) ∧
    (∀ x ∈ b₂, Text.isBlank x) ∧ c ≠ [] ∧ (∀ x ∈ c, isNameChar x) ∧
    ∀ x ∈ rest.head?, isNameChar x = false

def OverrideAt (w c : List Char) : Prop :=
  ∃ tail, w = "category".toList ++ tail ∧ OverrideTail tail c

def FirstOverride (J c : List Char) : Prop :=
  ∃ i, OverrideAt (J.drop i) c ∧ ∀ j < i, ∀ c', ¬OverrideAt (J.drop j) c'

def joinedText (s : Signals) : String := Text.lower (s.promptText ++ "\n" ++ s.assistantText)

/-- Stage 1 decides for `c`: the joined text is not blank and its leftmost override names the
category `c`. -/
def Overrides (s : Signals) (rs : RuleSet) (c : String) : Prop :=
  Text.isBlankText (joinedText s) = false ∧ FirstOverride (joinedText s).toList c.toList ∧
    c ∈ rs.names

theorem isBlank_of_isNameChar {x : Char} (h : isNameChar x = true) : Text.isBlank x = false := by
  have hx : (97 ≤ x.toNat ∧ x.toNat ≤ 122) ∨ x.toNat = 95 ∨ x.toNat = 383 := by
    simp only [isNameChar, Bool.or_eq_true, Bool.and_eq_true, decide_eq_true_eq, Char.le_def,
      UInt32.le_iff_toNat_le] at h
    rcases h with (⟨h₁, h₂⟩ | rfl) | rfl
    · exact Or.inl ⟨h₁, h₂⟩
    · exact Or.inr (Or.inl rfl)
    · exact Or.inr (Or.inr rfl)
  unfold Text.isBlank
  rcases hx with ⟨h₁, h₂⟩ | hx | hx <;> simp <;> omega

theorem overrideName_eq_some_iff {w c : List Char} : overrideName w = some c ↔ OverrideTail w c := by
  constructor
  · intro h
    simp only [overrideName] at h
    split at h
    · rename_i more hmore
      split_ifs at h with hne
      cases h
      refine ⟨w.takeWhile Text.isBlank, more.takeWhile Text.isBlank,
        (more.dropWhile Text.isBlank).dropWhile isNameChar, ?_, ?_, ?_, ?_, ?_, ?_⟩
      · conv_lhs => rw [← List.takeWhile_append_dropWhile (p := Text.isBlank) (l := w)]
        rw [hmore, List.append_assoc, List.takeWhile_append_dropWhile]
        conv_lhs => rw [← List.takeWhile_append_dropWhile (p := Text.isBlank) (l := more)]
      · exact fun x hx => List.mem_takeWhile_imp hx
      · exact fun x hx => List.mem_takeWhile_imp hx
      · simpa using hne
      · exact fun x hx => List.mem_takeWhile_imp hx
      · intro x hx
        have hnot := List.head?_dropWhile_not isNameChar (more.dropWhile Text.isBlank)
        rw [Option.mem_def] at hx
        rw [hx] at hnot
        exact hnot
    · cases h
  · rintro ⟨b₁, b₂, rest, rfl, hb₁, hb₂, hc, hname, hrest⟩
    have hcolon : (b₁ ++ ':' :: (b₂ ++ c ++ rest)).dropWhile Text.isBlank =
        ':' :: (b₂ ++ c ++ rest) := by
      rw [List.dropWhile_append_of_pos hb₁]
      simp [show Text.isBlank ':' = false by decide]
    obtain ⟨y, ys, rfl⟩ := List.exists_cons_of_ne_nil hc
    have hname' : (b₂ ++ (y :: ys) ++ rest).dropWhile Text.isBlank = y :: ys ++ rest := by
      rw [List.append_assoc, List.dropWhile_append_of_pos hb₂]
      simp [isBlank_of_isNameChar (hname y (by simp))]
    have htake : (y :: ys ++ rest).takeWhile isNameChar = y :: ys := by
      rw [List.takeWhile_append_of_pos hname]
      cases rest with
      | nil => simp
      | cons z zs => simp [hrest z (by simp)]
    simp only [overrideName, hcolon]
    rw [hname', htake]
    simp

theorem overrideAt_iff {w c : List Char} :
    OverrideAt w c ↔ "category".toList.isPrefixOf w = true ∧ overrideName (w.drop 8) = some c := by
  constructor
  · rintro ⟨tail, rfl, htail⟩
    refine ⟨List.isPrefixOf_iff_prefix.2 (List.prefix_append _ _), ?_⟩
    rw [show (8 : Nat) = "category".toList.length from rfl, List.drop_left]
    exact overrideName_eq_some_iff.2 htail
  · rintro ⟨hp, hname⟩
    obtain ⟨tail, rfl⟩ := List.isPrefixOf_iff_prefix.1 hp
    rw [show (8 : Nat) = "category".toList.length from rfl, List.drop_left] at hname
    exact ⟨tail, rfl, overrideName_eq_some_iff.1 hname⟩

theorem OverrideAt.unique {w c c' : List Char} (h : OverrideAt w c) (h' : OverrideAt w c') :
    c = c' := by
  rw [overrideAt_iff] at h h'
  exact Option.some.inj (h.2.symm.trans h'.2)

theorem firstOverride_eq_some_iff {J c : List Char} :
    firstOverride J = some c ↔ FirstOverride J c := by
  induction J with
  | nil =>
    simp only [firstOverride, reduceCtorEq, false_iff]
    rintro ⟨i, ⟨tail, htail, -⟩, -⟩
    simp at htail
  | cons x rest ih =>
    by_cases hhere : ∃ n, OverrideAt (x :: rest) n
    · -- an override starts here, so it is the leftmost one
      obtain ⟨n, hn⟩ := hhere
      obtain ⟨hp, hname⟩ := overrideAt_iff.1 hn
      have hfirst : firstOverride (x :: rest) = some n := by
        rw [show (8 : Nat) = 7 + 1 from rfl, List.drop_succ_cons] at hname
        simp only [firstOverride]
        rw [if_pos hp, hname]
      rw [hfirst]
      constructor
      · rintro ⟨⟩
        exact ⟨0, hn, fun j hj => absurd hj (Nat.not_lt_zero j)⟩
      · rintro ⟨i, hi, hbefore⟩
        cases i with
        | zero => exact congrArg some (hn.unique hi)
        | succ i => exact absurd hn (hbefore 0 (Nat.succ_pos i) n)
    · -- no override starts here: the search goes on at the next character
      simp only [not_exists] at hhere
      have hnone : (if "category".toList.isPrefixOf (x :: rest) then overrideName (rest.drop 7)
          else none) = none := by
        split_ifs with hp
        · cases h : overrideName (rest.drop 7) with
          | none => rfl
          | some n => exact absurd (overrideAt_iff.2 ⟨hp, h⟩) (hhere n)
        · rfl
      have hfirst : firstOverride (x :: rest) = firstOverride rest := by
        simp only [firstOverride, hnone]
      rw [hfirst, ih]
      constructor
      · rintro ⟨i, hi, hbefore⟩
        refine ⟨i + 1, hi, fun j hj c' => ?_⟩
        cases j with
        | zero => exact hhere c'
        | succ j => exact hbefore j (by omega) c'
      · rintro ⟨i, hi, hbefore⟩
        cases i with
        | zero => exact absurd hi (hhere c)
        | succ i => exact ⟨i, hi, fun j hj c' => hbefore (j + 1) (by omega) c'⟩

theorem namedCategory?_eq_some_iff {s : Signals} {rs : RuleSet} {c : String} :
    namedCategory? s rs = some c ↔ Overrides s rs c := by
  simp only [namedCategory?, Overrides, joinedText, ← contains_iff_mem_names]
  split_ifs with hb
  · simp [hb]
  · cases hf : firstOverride (Text.lower (s.promptText ++ "\n" ++ s.assistantText)).toList with
    | none =>
      simp only [reduceCtorEq, false_iff]
      rintro ⟨-, hfirst, -⟩
      rw [← firstOverride_eq_some_iff, hf] at hfirst
      cases hfirst
    | some name =>
      constructor
      · intro h
        dsimp only at h
        split_ifs at h with hc
        cases h
        exact ⟨by simpa using hb, by simpa [← firstOverride_eq_some_iff] using hf, hc⟩
      · rintro ⟨-, hfirst, hc⟩
        rw [← firstOverride_eq_some_iff, hf] at hfirst
        cases hfirst
        simp only [String.ofList_toList, hc, if_true]

/-- The keywords of `text` decide for `c` with score `m`: the text is not blank, and `c` is a
scored category whose score `m` is at least two while every other scored category scores less. -/
def KeywordsDecide (text : String) (rs : RuleSet) (c : String) (m : Nat) : Prop :=
  Text.isBlankText text = false ∧ 2 ≤ m ∧
    ∃ r, (c, r) ∈ rs.scored ∧ r.score (Text.lower text) = m ∧
      ∀ d ∈ rs.scored, d.1 ≠ c → d.2.score (Text.lower text) < m

/-- A standing after the scores `ns`: no best while every score is zero; otherwise the best is a
positive score that the named category reaches, no score exceeds it, and it is tied exactly
when two of the scores reach it. -/
def Standing.Tracks (st : Standing) (ns : List (String × Nat)) : Prop :=
  match st.best with
  | none => ∀ p ∈ ns, p.2 = 0
  | some (c, m) => 0 < m ∧ (c, m) ∈ ns ∧ (∀ p ∈ ns, p.2 ≤ m) ∧
      (st.tied = true ↔ 2 ≤ ns.countP (·.2 == m))

theorem two_le_countP {α : Type} {l : List α} {p : α → Bool} {a b : α} (ha : a ∈ l) (hb : b ∈ l)
    (hab : a ≠ b) (hpa : p a) (hpb : p b) : 2 ≤ l.countP p := by
  rw [List.countP_eq_length_filter]
  have ha' : a ∈ l.filter p := List.mem_filter.2 ⟨ha, hpa⟩
  have hb' : b ∈ l.filter p := List.mem_filter.2 ⟨hb, hpb⟩
  match h : l.filter p with
  | [] => simp [h] at ha'
  | [x] =>
    rw [h, List.mem_singleton] at ha' hb'
    exact absurd (ha'.trans hb'.symm) hab
  | _ :: _ :: _ => simp

theorem Standing.tracks_step {st : Standing} {ns : List (String × Nat)} (h : st.Tracks ns)
    (c : String) (k : Nat) : (st.step c k).Tracks (ns ++ [(c, k)]) := by
  unfold Standing.step
  by_cases hk : k = 0
  · -- a zero score leaves the standing as it is
    subst hk
    simp only [if_true]
    unfold Standing.Tracks at h ⊢
    rcases hb : st.best with _ | ⟨b, m⟩ <;> simp only [hb] at h ⊢
    · intro p hp
      rcases List.mem_append.1 hp with hp | hp
      · exact h p hp
      · rw [List.mem_singleton.1 hp]
    · obtain ⟨hm, hmem, hle, htied⟩ := h
      refine ⟨hm, List.mem_append_left _ hmem, fun p hp => ?_, ?_⟩
      · rcases List.mem_append.1 hp with hp | hp
        · exact hle p hp
        · rw [List.mem_singleton.1 hp]
          exact Nat.zero_le m
      · rw [htied, List.countP_append]
        simp [show 0 ≠ m by omega]
  · rw [if_neg hk]
    unfold Standing.Tracks at h
    rcases hb : st.best with _ | ⟨b, m⟩ <;> simp only [hb] at h ⊢
    · -- the first positive score leads alone
      simp only [Standing.Tracks, List.mem_append, List.mem_singleton, or_true, true_and,
        Bool.false_eq_true, false_iff, not_le]
      refine ⟨Nat.pos_of_ne_zero hk, ?_, ?_⟩
      · rintro p (hp | rfl)
        · simp [h p hp]
        · exact le_refl _
      · rw [List.countP_append, List.countP_eq_zero.2 fun p hp => by simp [h p hp, Ne.symm hk]]
        simp
    · obtain ⟨hm, hmem, hle, htied⟩ := h
      split_ifs with hlt heq
      · -- a lower score changes nothing
        simp only [Standing.Tracks, hb]
        refine ⟨hm, List.mem_append_left _ hmem, fun p hp => ?_, ?_⟩
        · rcases List.mem_append.1 hp with hp | hp
          · exact hle p hp
          · rw [List.mem_singleton.1 hp]
            exact hlt.le
        · rw [htied, List.countP_append]
          simp [Nat.ne_of_lt hlt]
      · -- an equal score ties the lead
        subst heq
        simp only [Standing.Tracks, true_iff]
        refine ⟨hm, List.mem_append_left _ hmem, fun p hp => ?_, ?_⟩
        · rcases List.mem_append.1 hp with hp | hp
          · exact hle p hp
          · rw [List.mem_singleton.1 hp]
        rw [List.countP_append]
        have : 0 < ns.countP (·.2 == k) := List.countP_pos_iff.2 ⟨_, hmem, by simp⟩
        simp only [List.countP_singleton, beq_self_eq_true, if_true]
        omega
      · -- a higher score takes the lead alone
        have hgt : m < k := by omega
        simp only [Standing.Tracks, List.mem_append, List.mem_singleton, or_true, true_and,
          Bool.false_eq_true, false_iff, not_le]
        refine ⟨by omega, ?_, ?_⟩
        · rintro p (hp | rfl)
          · exact (hle p hp).trans hgt.le
          · exact le_refl _
        · rw [List.countP_append, List.countP_eq_zero.2 fun p hp => by
            simp only [beq_iff_eq]; exact Nat.ne_of_lt ((hle p hp).trans_lt hgt)]
          simp

theorem Standing.tracks_foldl {st : Standing} {pre : List (String × Nat)} (h : st.Tracks pre)
    (rest : List (String × Nat)) :
    (rest.foldl (fun st p => st.step p.1 p.2) st).Tracks (pre ++ rest) := by
  induction rest generalizing st pre with
  | nil => simpa using h
  | cons p rest ih => simpa using ih (Standing.tracks_step h p.1 p.2)

theorem scoreFold_eq (l : List (String × Criteria)) (text : String) (st : Standing) :
    l.foldl (fun st x => match x with | (name, rule) => st.step name (rule.score text)) st =
      (l.map fun x => (x.1, x.2.score text)).foldl (fun st p => st.step p.1 p.2) st := by
  induction l generalizing st with
  | nil => rfl
  | cons x l ih => exact ih _

theorem keywordLeader?_eq_some_iff {text : String} {rs : RuleSet} {c : String} {m : Nat}
    (hnd : (rs.scored.map Prod.fst).Nodup) :
    keywordLeader? text rs = some (c, m) ↔ KeywordsDecide text rs c m := by
  unfold keywordLeader? KeywordsDecide
  split_ifs with hb
  · simp [hb]
  simp only [scoreFold_eq]
  set ns := rs.scored.map fun x => (x.1, x.2.score (Text.lower text)) with hns
  have hmemns : ∀ {d : String} {n : Nat},
      (d, n) ∈ ns ↔ ∃ r, (d, r) ∈ rs.scored ∧ r.score (Text.lower text) = n := by
    intro d n
    simp [hns]
  have htr := Standing.tracks_foldl (show ({} : Standing).Tracks [] by simp [Standing.Tracks]) ns
  rw [List.nil_append] at htr
  generalize ns.foldl (fun (st : Standing) p => st.step p.1 p.2) {} = st at htr ⊢
  unfold Standing.Tracks at htr
  rcases hbest : st.best with _ | ⟨c', n⟩ <;> simp only [hbest] at htr ⊢
  · -- every score is zero, so no category decides
    simp only [reduceCtorEq, false_iff]
    rintro ⟨-, hm, r, hr, hscore, -⟩
    have := htr (c, m) (hmemns.2 ⟨r, hr, hscore⟩)
    simp only at this
    omega
  obtain ⟨hpos, hmem, hle, htied⟩ := htr
  obtain ⟨r', hr', hscore'⟩ := hmemns.1 hmem
  constructor
  · intro h
    split_ifs at h with hdec
    simp only [Option.some.injEq, Prod.mk.injEq] at h
    obtain ⟨rfl, rfl⟩ := h
    simp only [Bool.and_eq_true, Bool.not_eq_eq_eq_not, Bool.not_true, decidingScore] at hdec
    refine ⟨by simpa using hb, of_decide_eq_true hdec.2, r', hr', hscore', fun d hd hdc => ?_⟩
    have hdmem : (d.1, d.2.score (Text.lower text)) ∈ ns := List.mem_map_of_mem hd
    rcases Nat.lt_or_eq_of_le (hle _ hdmem) with hlt | heq
    · exact hlt
    · -- a second category at the top would have tied the lead
      have h2 : 2 ≤ ns.countP (·.2 == n) :=
        two_le_countP hmem hdmem (by simp [Ne.symm hdc]) (by simp) (by simpa using heq)
      simp [htied.2 h2] at hdec
  · rintro ⟨-, hm, r, hr, hscore, hothers⟩
    have hmn : m ≤ n := hle _ (hmemns.2 ⟨r, hr, hscore⟩)
    -- the leader is `c`, as every other category scores below `m`
    have hc' : c' = c := by
      by_contra hne
      have := hothers (c', r') hr' hne
      simp only at this
      omega
    subst hc'
    have hrr : r' = r := by
      have := List.inj_on_of_nodup_map hnd hr' hr rfl
      simpa using this
    subst hrr
    have hnm : n = m := hscore'.symm.trans hscore
    subst hnm
    -- only `c` reaches the top score, so the lead is not tied
    have hcount : ns.countP (·.2 == n) ≤ 1 := by
      calc ns.countP (·.2 == n)
          = rs.scored.countP (fun x => x.2.score (Text.lower text) == n) := by
            simp [hns, List.countP_map, Function.comp_def]
        _ ≤ rs.scored.countP (fun x => x.1 == c') := by
            refine List.countP_mono_left fun x hx hxn => ?_
            by_contra hne
            have := hothers x hx (by simpa using hne)
            simp only [beq_iff_eq] at hxn
            omega
        _ = (rs.scored.map Prod.fst).count c' := by
            simp [List.count, List.countP_map, Function.comp_def]
        _ = 1 := List.count_eq_one_of_mem hnd (List.mem_map_of_mem hr')
    have htied' : st.tied = false := by
      cases ht : st.tied
      · rfl
      · have := htied.1 ht
        omega
    simp [htied', decidingScore, hm]

def ToolHit (rs : RuleSet) (t c : String) : Prop :=
  ∃ r, (c, r) ∈ rs.scored ∧ ∃ x ∈ r.tools, x.toList <:+: t.toList

/-- The tools decide for `c` on the tool name `t`: `t` is the first tool, trimmed and lowercased,
that is not empty and that some scored category hits, and `c` is the least category by name
that hits it. -/
def ToolDecides (tools : List String) (rs : RuleSet) (c t : String) : Prop :=
  ∃ pre raw post, tools = pre ++ raw :: post ∧ t = normalize raw ∧ t.isEmpty = false ∧
    ToolHit rs t c ∧ (∀ d, ToolHit rs t d → c ≤ d) ∧
    ∀ x ∈ pre, (normalize x).isEmpty = true ∨ ∀ d, ¬ToolHit rs (normalize x) d

theorem occursFrom_iff_infix {pat rest : List Char} {before : Option Char} :
    occursFrom pat false false before rest = true ↔ pat <:+: rest := by
  induction rest generalizing before with
  | nil =>
    rw [occursFrom]
    simp [List.isPrefixOf_iff_prefix]
  | cons x more ih =>
    rw [occursFrom]
    simp only [Bool.not_false, Bool.true_or, Bool.and_true, Bool.or_eq_true, ih,
      List.isPrefixOf_iff_prefix]
    exact List.infix_cons_iff.symm

theorem isSubstring_iff {pat s : List Char} : isSubstring pat s = true ↔ pat <:+: s :=
  occursFrom_iff_infix

theorem toolMatch?_isSome_iff {r : Criteria} {t : String} :
    (r.toolMatch? t).isSome ↔ ∃ x ∈ r.tools, x.toList <:+: t.toList := by
  simp [Criteria.toolMatch?, isSubstring_iff]

def firstHit? (rs : RuleSet) (raw : String) : Option (String × String) :=
  let tool := normalize raw
  if tool.isEmpty then none
  else (rs.scored.find? fun x => (x.2.toolMatch? tool).isSome).map fun x => (x.1, tool)

theorem toolCategory?_eq (tools : List String) (rs : RuleSet) :
    toolCategory? tools rs = tools.findSome? (firstHit? rs) := rfl

theorem firstHit?_sound {rs : RuleSet} (hs : (rs.scored.map Prod.fst).Pairwise (· < ·))
    {raw c t : String} (h : firstHit? rs raw = some (c, t)) :
    t = normalize raw ∧ t.isEmpty = false ∧ ToolHit rs t c ∧ ∀ d, ToolHit rs t d → c ≤ d := by
  simp only [firstHit?] at h
  split_ifs at h with he
  obtain ⟨x, hfind, hx⟩ := Option.map_eq_some_iff.1 h
  simp only [Prod.mk.injEq] at hx
  obtain ⟨rfl, rfl⟩ := hx
  obtain ⟨hpx, as, bs, hsplit, hbefore⟩ := List.find?_eq_some_iff_append.1 hfind
  have hxmem : x ∈ rs.scored := by simp [hsplit]
  refine ⟨rfl, by simpa using he, ⟨x.2, hxmem, toolMatch?_isSome_iff.1 hpx⟩, ?_⟩
  rintro d ⟨rd, hd, htool⟩
  -- the category `d` is not before `x` (none of those hits), so it is `x` or after it
  rw [hsplit, List.mem_append, List.mem_cons] at hd
  rcases hd with hd | hd | hd
  · have := hbefore _ hd
    simp [toolMatch?_isSome_iff.2 htool] at this
  · rw [← hd]
  · rw [hsplit, List.map_append, List.map_cons, List.pairwise_append, List.pairwise_cons] at hs
    exact (hs.2.1.1 d (List.mem_map_of_mem (f := Prod.fst) hd)).le

theorem firstHit?_eq_some_iff {rs : RuleSet} (hs : (rs.scored.map Prod.fst).Pairwise (· < ·))
    {raw c t : String} :
    firstHit? rs raw = some (c, t) ↔
      t = normalize raw ∧ t.isEmpty = false ∧ ToolHit rs t c ∧ ∀ d, ToolHit rs t d → c ≤ d := by
  refine ⟨firstHit?_sound hs, ?_⟩
  rintro ⟨rfl, he, ⟨r, hr, htool⟩, hleast⟩
  have hsome : (rs.scored.find? fun x => (x.2.toolMatch? (normalize raw)).isSome).isSome := by
    rw [List.find?_isSome]
    exact ⟨(c, r), hr, toolMatch?_isSome_iff.2 htool⟩
  obtain ⟨y, hy⟩ := Option.isSome_iff_exists.1 hsome
  have hfirst : firstHit? rs raw = some (y.1, normalize raw) := by
    simp [firstHit?, he, hy]
  -- the category found is the least one hitting, and so is `c`
  obtain ⟨-, -, hyhit, hyleast⟩ := firstHit?_sound hs hfirst
  rw [hfirst, le_antisymm (hyleast c ⟨r, hr, htool⟩) (hleast y.1 hyhit)]

theorem firstHit?_eq_none_iff {rs : RuleSet} (hs : (rs.scored.map Prod.fst).Pairwise (· < ·))
    {raw : String} :
    firstHit? rs raw = none ↔ (normalize raw).isEmpty = true ∨ ∀ d, ¬ToolHit rs (normalize raw) d := by
  constructor
  · intro h
    by_cases he : (normalize raw).isEmpty = true
    · exact Or.inl he
    · refine Or.inr fun d ⟨r, hr, htool⟩ => ?_
      simp only [firstHit?] at h
      rw [if_neg he, Option.map_eq_none_iff, List.find?_eq_none] at h
      exact h (d, r) hr (toolMatch?_isSome_iff.2 htool)
  · rintro (he | hnone)
    · simp only [firstHit?]
      rw [if_pos he]
    · cases h : firstHit? rs raw with
      | none => rfl
      | some p =>
        obtain ⟨ht, -, hhit, -⟩ := firstHit?_sound hs h
        rw [ht] at hhit
        exact absurd hhit (hnone p.1)

theorem toolCategory?_eq_some_iff {rs : RuleSet} (hs : (rs.scored.map Prod.fst).Pairwise (· < ·))
    {tools : List String} {c t : String} :
    toolCategory? tools rs = some (c, t) ↔ ToolDecides tools rs c t := by
  rw [toolCategory?_eq, List.findSome?_eq_some_iff]
  constructor
  · rintro ⟨pre, raw, post, rfl, hraw, hpre⟩
    obtain ⟨ht, he, hhit, hleast⟩ := (firstHit?_eq_some_iff hs).1 hraw
    exact ⟨pre, raw, post, rfl, ht, he, hhit, hleast,
      fun x hx => (firstHit?_eq_none_iff hs).1 (hpre x hx)⟩
  · rintro ⟨pre, raw, post, rfl, ht, he, hhit, hleast, hpre⟩
    exact ⟨pre, raw, post, rfl, (firstHit?_eq_some_iff hs).2 ⟨ht, he, hhit, hleast⟩,
      fun x hx => (firstHit?_eq_none_iff hs).2 (hpre x hx)⟩

theorem RuleSet.Compiled.scored_sorted {rs : RuleSet} (h : rs.Compiled) :
    (rs.scored.map Prod.fst).Pairwise (· < ·) :=
  h.sorted.sublist (List.filter_sublist.map _)

theorem RuleSet.Compiled.scored_nodup {rs : RuleSet} (h : rs.Compiled) :
    (rs.scored.map Prod.fst).Nodup :=
  h.scored_sorted.imp ne_of_lt

/-- The classification of a turn by the five stages, each applying only when none before it
decides. -/
inductive Decision (s : Signals) (rs : RuleSet) : Classification → Prop
  | named {c : String} : Overrides s rs c → Decision s rs ⟨c, .named c⟩
  | prompt {c : String} {m : Nat} : (∀ c, ¬Overrides s rs c) →
      KeywordsDecide s.promptText rs c m → Decision s rs ⟨c, .promptKeywords c m⟩
  | tool {c t : String} : (∀ c, ¬Overrides s rs c) →
      (∀ c m, ¬KeywordsDecide s.promptText rs c m) → ToolDecides s.toolsUsed rs c t →
      Decision s rs ⟨c, .tool t⟩
  | reply {c : String} {m : Nat} : (∀ c, ¬Overrides s rs c) →
      (∀ c m, ¬KeywordsDecide s.promptText rs c m) → (∀ c t, ¬ToolDecides s.toolsUsed rs c t) →
      KeywordsDecide s.assistantText rs c m → Decision s rs ⟨c, .replyKeywords c m⟩
  | fallback : (∀ c, ¬Overrides s rs c) → (∀ c m, ¬KeywordsDecide s.promptText rs c m) →
      (∀ c t, ¬ToolDecides s.toolsUsed rs c t) → (∀ c m, ¬KeywordsDecide s.assistantText rs c m) →
      Decision s rs ⟨rs.defaultCategory, .fallback⟩

theorem classify_eq_iff_decision {rs : RuleSet} (h : rs.Compiled) (s : Signals)
    (x : Classification) : classify s rs = x ↔ Decision s rs x := by
  -- each stage function answers exactly what its stage decides
  have h1 : ∀ c, namedCategory? s rs = some c ↔ Overrides s rs c :=
    fun _ => namedCategory?_eq_some_iff
  have h2 : ∀ text c m, keywordLeader? text rs = some (c, m) ↔ KeywordsDecide text rs c m :=
    fun _ _ _ => keywordLeader?_eq_some_iff h.scored_nodup
  have h3 : ∀ c t, toolCategory? s.toolsUsed rs = some (c, t) ↔ ToolDecides s.toolsUsed rs c t :=
    fun _ _ => toolCategory?_eq_some_iff h.scored_sorted
  have e1 : (∀ c, ¬Overrides s rs c) → namedCategory? s rs = none := fun n =>
    Option.eq_none_iff_forall_ne_some.2 fun c hc => n c ((h1 c).1 hc)
  have e2 : ∀ text, (∀ c m, ¬KeywordsDecide text rs c m) → keywordLeader? text rs = none :=
    fun text n => Option.eq_none_iff_forall_ne_some.2 fun ⟨c, m⟩ hc => n c m ((h2 text c m).1 hc)
  have e3 : (∀ c t, ¬ToolDecides s.toolsUsed rs c t) → toolCategory? s.toolsUsed rs = none :=
    fun n => Option.eq_none_iff_forall_ne_some.2 fun ⟨c, t⟩ hc => n c t ((h3 c t).1 hc)
  constructor
  · rintro rfl
    unfold classify
    cases hn : namedCategory? s rs with
    | some c => exact .named ((h1 c).1 hn)
    | none =>
    have n1 : ∀ c, ¬Overrides s rs c := fun c hc => by simp [(h1 c).2 hc] at hn
    cases hp : keywordLeader? s.promptText rs with
    | some p => exact .prompt n1 ((h2 _ p.1 p.2).1 hp)
    | none =>
    have n2 : ∀ c m, ¬KeywordsDecide s.promptText rs c m := fun c m hc => by
      simp [(h2 _ c m).2 hc] at hp
    cases ht : toolCategory? s.toolsUsed rs with
    | some p => exact .tool n1 n2 ((h3 p.1 p.2).1 ht)
    | none =>
    have n3 : ∀ c t, ¬ToolDecides s.toolsUsed rs c t := fun c t hc => by
      simp [(h3 c t).2 hc] at ht
    cases hr : keywordLeader? s.assistantText rs with
    | some p => exact .reply n1 n2 n3 ((h2 _ p.1 p.2).1 hr)
    | none => exact .fallback n1 n2 n3 fun c m hc => by simp [(h2 _ c m).2 hc] at hr
  · rintro (hc | ⟨n1, hc⟩ | ⟨n1, n2, hc⟩ | ⟨n1, n2, n3, hc⟩ | ⟨n1, n2, n3, n4⟩)
    · simp [classify, (h1 _).2 hc]
    · simp [classify, e1 n1, (h2 _ _ _).2 hc]
    · simp [classify, e1 n1, e2 _ n2, (h3 _ _).2 hc]
    · simp [classify, e1 n1, e2 _ n2, e3 n3, (h2 _ _ _).2 hc]
    · simp [classify, e1 n1, e2 _ n2, e3 n3, e2 _ n4]

/-- Classifying against any compiled rule file is the decision of the five stages. -/
theorem classify_compiled_eq_iff (file : RuleFile) (s : Signals) (x : Classification) :
    classify s file.compile = x ↔ Decision s file.compile x :=
  classify_eq_iff_decision (compile_compiled file) s x

end TurnLedger.Classify
