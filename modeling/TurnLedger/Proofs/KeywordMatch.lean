import TurnLedger.Proofs.Classification
import TurnLedger.Proofs.LowercaseNormal

/-!
# Where a keyword is found

A keyword whose normalized text has a blank in it is a phrase, found as a plain substring; one
without is a single word (`Keyword.compile_spec`). A word is found where it occurs with a word
boundary at each end that asks for one (`WordBounded`): across that end, one side is in the
word class of patterns and the other is not, an edge of the text counting as outside it.

Which ends ask is decided by letters, digits and the underscore (`testsBoundary`), while the
boundary itself is decided by the word class (`Text.inWordClass`). The two differ on numbers
that are no decimal digits, on marks and on connector punctuation. So a keyword that ends in a
superscript two asks for a boundary after it, and since the superscript is outside the word
class, that boundary needs a word character to follow: at the end of a text, or before a blank,
the keyword is not found.
-/

namespace TurnLedger.Classify

open Text

section Words

theorem wordsAux_of_nonblank {cs : List Char} (h : ∀ c ∈ cs, isBlank c = false) :
    ∀ cur : List Char, cur ≠ [] ∨ cs ≠ [] → wordsAux cs cur = [cur.reverse ++ cs] := by
  induction cs with
  | nil =>
    intro cur hcur
    have hne : cur ≠ [] := by simpa using hcur
    simp [wordsAux, hne]
  | cons c rest ih =>
    intro cur _
    rw [wordsAux, if_neg (by simp [h c List.mem_cons_self]),
      ih (fun x hx => h x (List.mem_cons_of_mem _ hx)) (c :: cur) (.inl (by simp))]
    simp

theorem wordsAux_run_blank {p q : List Char} {b : Char} (hp : ∀ c ∈ p, isBlank c = false)
    (hb : isBlank b = true) :
    ∀ cur : List Char, cur ≠ [] ∨ p ≠ [] → wordsAux (p ++ b :: q) cur = (cur.reverse ++ p) :: wordsAux q [] := by
  induction p with
  | nil =>
    intro cur hcur
    have hne : cur ≠ [] := by simpa using hcur
    simp [wordsAux, hb, hne]
  | cons c rest ih =>
    intro cur _
    rw [List.cons_append, wordsAux, if_neg (by simp [hp c List.mem_cons_self]),
      ih (fun x hx => hp x (List.mem_cons_of_mem _ hx)) (c :: cur) (.inl (by simp))]
    simp

theorem wordsAux_ne_nil {q : List Char} :
    ∀ cur : List Char, cur ≠ [] ∨ (∃ c ∈ q, isBlank c = false) → wordsAux q cur ≠ [] := by
  induction q with
  | nil =>
    intro cur hcur
    have hne : cur ≠ [] := by simpa using hcur
    simp [wordsAux, hne]
  | cons c rest ih =>
    intro cur hcur
    rw [wordsAux]
    by_cases hc : isBlank c = true
    · rw [if_pos hc]
      split
      · -- the character that is not blank lies further on
        rename_i hcur0
        refine ih [] (.inr ?_)
        have hnil : cur = [] := List.isEmpty_iff.1 hcur0
        obtain ⟨x, hx, hxb⟩ := hcur.resolve_left (by simp [hnil])
        rcases List.mem_cons.1 hx with rfl | hx
        · simp [hc] at hxb
        · exact ⟨x, hx, hxb⟩
      · simp
    · rw [if_neg hc]
      exact ih (c :: cur) (.inl (by simp))

theorem words_length_of_nonblank {w : String} (hw : w ≠ "") (h : ∀ c ∈ w.toList, isBlank c = false) :
    (words w).length = 1 := by
  have hne : w.toList ≠ [] := by simpa [String.toList_eq_nil_iff] using hw
  simp [words, wordsAux_of_nonblank h [] (.inr hne)]

theorem exists_first_blank {cs : List Char} (h : ∃ c ∈ cs, isBlank c = true) :
    ∃ p b q, cs = p ++ b :: q ∧ (∀ c ∈ p, isBlank c = false) ∧ isBlank b = true := by
  have hsplit := List.takeWhile_append_dropWhile (p := fun c => !isBlank c) (l := cs)
  cases hd : cs.dropWhile (fun c => !isBlank c) with
  | nil =>
    obtain ⟨c, hc, hcb⟩ := h
    have := List.dropWhile_eq_nil_iff.1 hd c hc
    simp [hcb] at this
  | cons b q =>
    have hb := List.head_dropWhile_not (fun c => !isBlank c) (l := cs) (by simp [hd])
    refine ⟨cs.takeWhile (fun c => !isBlank c), b, q, by rw [← hd, hsplit],
      fun c hc => by simpa using List.mem_takeWhile_imp hc, by simpa [hd] using hb⟩

theorem two_le_words_length {w : String} (hh : ∀ c ∈ w.toList.head?, isBlank c = false)
    (hl : ∀ c ∈ w.toList.getLast?, isBlank c = false) (h : ∃ c ∈ w.toList, isBlank c = true) :
    2 ≤ (words w).length := by
  obtain ⟨p, b, q, hcs, hp, hb⟩ := exists_first_blank h
  -- the first character is not blank, so the first word is not empty
  have hpne : p ≠ [] := by
    rintro rfl
    have := hh b (by simp [hcs])
    simp [hb] at this
  -- the last character is not blank, so something follows the blank
  have hq : ∃ c ∈ q, isBlank c = false := by
    cases q using List.reverseRecOn with
    | nil =>
      have := hl b (by simp [hcs])
      simp [hb] at this
    | append_singleton q x _ =>
      refine ⟨x, by simp, hl x ?_⟩
      rw [hcs, ← List.cons_append, ← List.append_assoc, List.getLast?_concat]
      rfl
  have hrest := List.length_pos_iff.2 (wordsAux_ne_nil [] (.inr hq))
  rw [words, hcs, wordsAux_run_blank hp hb [] (.inr hpne)]
  simp only [List.map_cons, List.length_cons, List.length_map]
  omega

end Words

section Occurrences

/-- `t` holds `w` somewhere, and each end of `w` that starts or ends with a letter, digit or
underscore lies at a word boundary: the characters across it differ in the word class, an edge
of the text counting as outside the class. -/
def WordBounded (w t : List Char) : Prop :=
  ∃ u v, t = u ++ w ++ v ∧
    (w.head?.any testsBoundary = true → u.getLast?.any inWordClass ≠ w.head?.any inWordClass) ∧
    (w.getLast?.any testsBoundary = true → w.getLast?.any inWordClass ≠ v.head?.any inWordClass)

theorem getLast?_cons_or (x : Char) (u : List Char) (b : Option Char) :
    (x :: u).getLast?.or b = u.getLast?.or (some x) := by
  cases h : u.getLast? <;> simp_all [List.getLast?_cons]

theorem isBoundary_iff {a b : Option Char} :
    isBoundary a b = true ↔ a.any inWordClass ≠ b.any inWordClass := by
  simp [isBoundary]

theorem occursFrom_iff {w : List Char} (hw : w ≠ []) (leading trailing : Bool) :
    ∀ (before : Option Char) (rest : List Char), occursFrom w leading trailing before rest = true ↔
      ∃ u v, rest = u ++ w ++ v ∧ (leading = true → isBoundary (u.getLast?.or before) w.head? = true) ∧
        (trailing = true → isBoundary w.getLast? v.head? = true) := by
  intro before rest
  induction rest generalizing before with
  | nil =>
    rw [occursFrom]
    constructor
    · intro h
      have : w.isPrefixOf [] = true := by simp_all
      simp [List.isPrefixOf_iff_prefix, hw] at this
    · rintro ⟨u, v, huv, -⟩
      simp [hw] at huv
  | cons x more ih =>
    rw [occursFrom]
    simp only [Bool.or_eq_true, Bool.and_eq_true, Bool.not_eq_true', Bool.or_eq_true, ih]
    -- found right here (nothing skipped), or further on (the skipped part starts with `x`)
    constructor
    · rintro (⟨⟨hpre, hl⟩, ht⟩ | ⟨u, v, rfl, hl, ht⟩)
      · obtain ⟨v, hv⟩ := List.isPrefixOf_iff_prefix.1 hpre
        obtain ⟨y, ys, rfl⟩ := List.exists_cons_of_ne_nil hw
        refine ⟨[], v, by simpa using hv.symm, fun hlead => ?_, fun htrail => ?_⟩
        · have := hl.resolve_left (by simp [hlead])
          rw [← hv] at this
          simpa using this
        · have := ht.resolve_left (by simp [htrail])
          rw [← hv] at this
          simpa using this
      · exact ⟨x :: u, v, rfl, fun h => by rw [getLast?_cons_or]; exact hl h, ht⟩
    · rintro ⟨u, v, huv, hl, ht⟩
      rcases u with _ | ⟨y, u⟩
      · obtain ⟨z, zs, rfl⟩ := List.exists_cons_of_ne_nil hw
        simp only [List.nil_append] at huv
        left
        refine ⟨⟨List.isPrefixOf_iff_prefix.2 ⟨v, huv.symm⟩, ?_⟩, ?_⟩
        · cases hlead : leading
          · exact .inl rfl
          · right
            rw [huv]
            simpa using hl hlead
        · cases htrail : trailing
          · exact .inl rfl
          · right
            rw [huv]
            simpa using ht htrail
      · simp only [List.cons_append, List.cons.injEq] at huv
        obtain ⟨rfl, rfl⟩ := huv
        right
        exact ⟨u, v, rfl, fun h => by rw [← getLast?_cons_or x u before]; exact hl h, ht⟩

theorem Keyword.matches_word_iff {w : String} (hw : w ≠ "") (t : String) :
    (Keyword.word w (w.toList.head?.any testsBoundary) (w.toList.getLast?.any testsBoundary)).matches t
      = true ↔ WordBounded w.toList t.toList := by
  have hne : w.toList ≠ [] := by simpa [String.toList_eq_nil_iff] using hw
  rw [Keyword.matches, occursFrom_iff hne]
  simp only [WordBounded, isBoundary_iff, Option.or_none]

end Occurrences

/-- What a keyword compiles to and where it is found: nothing for a blank keyword; for a
normalized keyword without blanks, a word, found where it occurs at the word boundaries its end
characters ask for; for one with a blank inside, a phrase, found as a substring. -/
theorem Keyword.compile_spec (raw : String) :
    (normalize raw = "" → Keyword.compile raw = none) ∧
    (normalize raw ≠ "" → (∀ c ∈ (normalize raw).toList, isBlank c = false) →
      Keyword.compile raw = some (.word (normalize raw)
        ((normalize raw).toList.head?.any testsBoundary)
        ((normalize raw).toList.getLast?.any testsBoundary)) ∧
      ∀ t, (Keyword.compile raw).any (·.matches t) = true ↔
        WordBounded (normalize raw).toList t.toList) ∧
    (normalize raw ≠ "" → (∃ c ∈ (normalize raw).toList, isBlank c = true) →
      Keyword.compile raw = some (.phrase (normalize raw)) ∧
      ∀ t, (Keyword.compile raw).any (·.matches t) = true ↔ (normalize raw).toList <:+: t.toList) := by
  refine ⟨fun h => by simp [Keyword.compile, h], fun hne hblank => ?_, fun hne hblank => ?_⟩
  · have hword : Keyword.compile raw = some (.word (normalize raw)
        ((normalize raw).toList.head?.any testsBoundary)
        ((normalize raw).toList.getLast?.any testsBoundary)) := by
      have hlen := words_length_of_nonblank hne hblank
      simp [Keyword.compile, hne, hlen]
    refine ⟨hword, fun t => ?_⟩
    rw [hword, Option.any_some, Keyword.matches_word_iff hne]
  · -- a normalized keyword neither starts nor ends with a blank, so a blank splits it
    obtain ⟨hh, hl⟩ := normalize_ends raw
    have hphrase : Keyword.compile raw = some (.phrase (normalize raw)) := by
      have hlen := two_le_words_length hh hl hblank
      simp [Keyword.compile, hne, hlen]
    refine ⟨hphrase, fun t => ?_⟩
    rw [hphrase, Option.any_some, Keyword.matches, isSubstring_iff]

/-- Where the last character of a word asks for a boundary but lies outside the word class, the
word is found only right before a word character: never at the end of a text, nor before a
blank or punctuation. -/
theorem WordBounded.exists_wordChar_after {w t : List Char} {c : Char} (hc : w.getLast? = some c)
    (htests : testsBoundary c = true) (hout : inWordClass c = false) (h : WordBounded w t) :
    ∃ u d v, t = u ++ w ++ d :: v ∧ inWordClass d = true := by
  obtain ⟨u, v, rfl, -, htrail⟩ := h
  have hnext := htrail (by simp [hc, htests])
  rw [hc] at hnext
  cases v with
  | nil => simp [hout] at hnext
  | cons d v => exact ⟨u, d, v, rfl, by simpa [hout] using hnext⟩

/-- A keyword ending in a superscript two is a word that tests both ends, so it is not found
standing alone; a keyword of two words is a phrase. -/
theorem Keyword.compile_spec_superscript :
    Keyword.compile "x²" = some (.word "x²" true true) ∧
      (∀ t, (Keyword.compile "x²").any (·.matches t) = true ↔ WordBounded "x²".toList t.toList) ∧
      ["x²", " x² ", "x²!"].all (fun t => !(Keyword.compile "x²").any (·.matches t)) ∧
      Keyword.compile "Stack Trace" = some (.phrase "stack trace") ∧
      ∀ t, (Keyword.compile "Stack Trace").any (·.matches t) = true ↔
        "stack trace".toList <:+: t.toList := by
  -- what the superscript two needs from the tables, evaluated at once; the blank test is stated
  -- through `List.all`, since a bounded quantifier over characters is also decidable by running
  -- through every character
  have hsup : normalize "x²" = "x²" ∧ ((normalize "x²").toList.all fun c => !isBlank c) = true ∧
      "x²".toList.head?.any testsBoundary = true ∧ "x²".toList.getLast?.any testsBoundary = true ∧
      ["x²", " x² ", "x²!"].all (fun t => !(Keyword.compile "x²").any (·.matches t)) = true := by
    decide +kernel
  obtain ⟨hx, hnb, hhead, hlast, hmiss⟩ := hsup
  have hs : normalize "Stack Trace" = "stack trace" := by decide
  have hword := (Keyword.compile_spec "x²").2.1 (by rw [hx]; decide) (by simpa using hnb)
  have hphrase := (Keyword.compile_spec "Stack Trace").2.2 (by rw [hs]; decide)
    ⟨' ', by rw [hs]; decide, by decide⟩
  rw [hx, hhead, hlast] at hword
  rw [hs] at hphrase
  exact ⟨hword.1, hword.2, hmiss, hphrase⟩

end TurnLedger.Classify
