import TurnLedger.Classify.RuleSet
import TurnLedger.Proofs.Classification
import TurnLedger.Proofs.LowercaseNormal

/-!
# Classification ignores letter case

Lowercasing is context free except for capital sigma, whose form depends on the nearest cased
character on each side, skipping case-ignorable ones. A blank is neither cased nor
case-ignorable and lowercases to itself, so it is a `Separator`: the search stops there, and
lowercasing a text that a blank splits is lowercasing the two sides apart (`lowerAux_split`).
Joining the prompt and the reply with a line feed and lowercasing the whole is therefore
joining the two lowercased texts (`lower_join`), trimming commutes with lowercasing
(`lower_trim`), and a text is blank exactly when its lowercase is (`isBlankText_lower`).

Every stage of `classify` reads its text through one of these, so classifying lowercased
signals gives what classifying the signals gives (`classify_lowered`), and two turns whose
texts and tools lowercase alike are classified alike (`classify_eq_of_lower_eq`).
-/

namespace TurnLedger.Text

/-- A character that lowercasing leaves alone and that ends the search for a cased neighbour of
a capital sigma. -/
structure Separator (c : Char) : Prop where
  fixed : LowerFixed c
  uncased : isCased c = false
  notIgnorable : isCaseIgnorable c = false

def blankCodes : List Nat :=
  [0x9, 0xA, 0xB, 0xC, 0xD, 0x20, 0x85, 0xA0, 0x1680, 0x2000, 0x2001, 0x2002, 0x2003, 0x2004,
    0x2005, 0x2006, 0x2007, 0x2008, 0x2009, 0x200A, 0x2028, 0x2029, 0x202F, 0x205F, 0x3000]

theorem mem_blankCodes {c : Char} (h : isBlank c = true) : c.toNat ∈ blankCodes := by
  simp only [isBlank, Bool.or_eq_true, Bool.and_eq_true, decide_eq_true_eq, beq_iff_eq] at h
  simp only [blankCodes, List.mem_cons, List.not_mem_nil, or_false]
  omega

theorem blankCodes_separate :
    blankCodes.all (fun n => isCased (Char.ofNat n) == false &&
      isCaseIgnorable (Char.ofNat n) == false && lowerSimple (Char.ofNat n) == Char.ofNat n) =
      true := by
  decide +kernel

theorem separator_of_isBlank {c : Char} (h : isBlank c = true) : Separator c := by
  have hc := List.all_eq_true.1 blankCodes_separate c.toNat (mem_blankCodes h)
  simp only [Char.ofNat_toNat, Bool.and_eq_true, beq_iff_eq] at hc
  obtain ⟨⟨hcased, hign⟩, hfix⟩ := hc
  -- neither the capital dotted I nor the capital sigma, the two letters lowercased apart, is blank
  have hother : ∀ n ∉ blankCodes, c.toNat ≠ n := fun n hn he => hn (he ▸ mem_blankCodes h)
  exact ⟨⟨by rw [lowerChar, if_neg (hother 0x130 (by decide)), hfix], hother 0x3A3 (by decide)⟩,
    hcased, hign⟩

@[simp] theorem lowerAux_nil (before acc : List Char) : lowerAux before [] acc = acc.reverse := rfl

theorem casedAfterIgnorable_cons (z : Char) (zs : List Char) :
    casedAfterIgnorable (z :: zs) = if isCaseIgnorable z then casedAfterIgnorable zs else isCased z := by
  unfold casedAfterIgnorable
  by_cases hz : isCaseIgnorable z = true
  · rw [List.dropWhile_cons_of_pos hz, if_pos hz]
  · rw [List.dropWhile_cons_of_neg hz, if_neg hz]

theorem casedAfterIgnorable_append_separator {b : Char} (hb : Separator b) (zs rest : List Char) :
    casedAfterIgnorable (zs ++ b :: rest) = casedAfterIgnorable zs := by
  induction zs with
  | nil =>
    rw [List.nil_append, casedAfterIgnorable_cons, if_neg (by simp [hb.notIgnorable]), hb.uncased]
    rfl
  | cons z zs ih =>
    rw [List.cons_append, casedAfterIgnorable_cons, casedAfterIgnorable_cons, ih]

theorem lowerAux_forget {b : Char} (hb : Separator b) (past : List Char) (ys zs acc : List Char) :
    lowerAux (zs ++ b :: past) ys acc = lowerAux zs ys acc := by
  induction ys generalizing zs acc with
  | nil => rfl
  | cons c rest ih =>
    simp only [lowerAux, endsWord, casedAfterIgnorable_append_separator hb]
    split
    · exact ih (c :: zs) _
    · exact ih (c :: zs) _

theorem lowerAt_append_separator {b : Char} (hb : Separator b) (before : List Char) (c : Char)
    (xs ys : List Char) : lowerAt before c (xs ++ b :: ys) = lowerAt before c xs := by
  rw [lowerAt, lowerAt, endsWord, endsWord, casedAfterIgnorable_append_separator hb]

theorem lowerAux_split {b : Char} (hb : Separator b) (xs ys : List Char) (before : List Char) :
    lowerAux before (xs ++ b :: ys) [] = lowerAux before xs [] ++ b :: lowerAux [] ys [] := by
  induction xs generalizing before with
  | nil =>
    rw [List.nil_append, lowerAux_cons, lowerAt_of_fixed hb.fixed,
      ← List.nil_append (b :: before), lowerAux_forget hb]
    rfl
  | cons c xs ih =>
    rw [List.cons_append, lowerAux_cons, lowerAux_cons, lowerAt_append_separator hb, ih,
      List.append_assoc]

theorem lowerAux_eq_nil_iff {before cs : List Char} : lowerAux before cs [] = [] ↔ cs = [] := by
  cases cs with
  | nil => simp [lowerAux]
  | cons c rest =>
    rw [lowerAux_cons]
    simp [lowerAt_ne_nil]

theorem dropWhile_blank_of_head {l : List Char} (h : ∀ c ∈ l.head?, isBlank c = false) :
    l.dropWhile isBlank = l := by
  cases l with
  | nil => rfl
  | cons c rest => exact List.dropWhile_cons_of_neg (by simp [h c rfl])

theorem lowerAux_dropWhile (cs : List Char) :
    (lowerAux [] cs []).dropWhile isBlank = lowerAux [] (cs.dropWhile isBlank) [] := by
  induction cs with
  | nil => rfl
  | cons c rest ih =>
    by_cases hc : isBlank c = true
    · have hsplit := lowerAux_split (separator_of_isBlank hc) [] rest []
      rw [List.nil_append, lowerAux_nil, List.reverse_nil, List.nil_append] at hsplit
      rw [hsplit, List.dropWhile_cons_of_pos hc, List.dropWhile_cons_of_pos (by simpa using hc)]
      exact ih
    · rw [List.dropWhile_cons_of_neg hc]
      exact dropWhile_blank_of_head (lowerAux_head (by simpa using hc))

theorem lowerAux_rdropWhile (cs : List Char) :
    (lowerAux [] cs []).rdropWhile isBlank = lowerAux [] (cs.rdropWhile isBlank) [] := by
  induction cs using List.reverseRecOn with
  | nil => rfl
  | append_singleton xs c ih =>
    by_cases hc : isBlank c = true
    · have hsplit := lowerAux_split (separator_of_isBlank hc) xs [] []
      rw [lowerAux_nil, List.reverse_nil] at hsplit
      rw [hsplit, List.rdropWhile_concat_pos _ _ _ hc, List.rdropWhile_concat_pos _ _ _ hc]
      exact ih
    · rw [List.rdropWhile_concat_neg _ _ _ hc, List.rdropWhile_eq_self_iff]
      intro hne
      have hlast := @lowerAux_getLast (xs ++ [c]) (by simp) (by simpa using hc) []
      simpa using hlast _ (List.getLast?_eq_some_getLast hne)

theorem toList_lower (s : String) : (lower s).toList = lowerAux [] s.toList [] := by
  simp [lower]

theorem lower_join (p a : String) : lower (p ++ "\n" ++ a) = lower p ++ "\n" ++ lower a := by
  have hsep : Separator '\n' := separator_of_isBlank (by decide)
  apply String.toList_inj.1
  simp only [toList_lower, String.toList_append, List.append_assoc]
  exact lowerAux_split hsep p.toList a.toList []

theorem lower_trim (s : String) : lower (trim s) = trim (lower s) := by
  apply String.toList_inj.1
  rw [toList_lower, Queue.toList_trim, Queue.toList_trim, toList_lower, Queue.trimChars_eq,
    Queue.trimChars_eq, lowerAux_dropWhile, lowerAux_rdropWhile]

theorem isBlankText_lower (s : String) : isBlankText (lower s) = isBlankText s := by
  have hnil : ∀ l : List Char, l.all isBlank = true ↔ l.dropWhile isBlank = [] := by
    intro l
    rw [List.dropWhile_eq_nil_iff, List.all_eq_true]
  apply Bool.eq_iff_iff.2
  rw [isBlankText, isBlankText, hnil, hnil, toList_lower, lowerAux_dropWhile, lowerAux_eq_nil_iff]

end TurnLedger.Text

namespace TurnLedger.Classify

open Text

theorem normalize_lower (s : String) : normalize (lower s) = normalize s := by
  rw [normalize, normalize, ← lower_trim, lower_lower]

def Signals.lowered (s : Signals) : Signals :=
  ⟨lower s.promptText, lower s.assistantText, s.toolsUsed.map lower⟩

theorem joinedText_lowered (s : Signals) : joinedText s.lowered = joinedText s := by
  simp only [joinedText, Signals.lowered, lower_join, lower_lower]

theorem namedCategory?_lowered (s : Signals) (rs : RuleSet) :
    namedCategory? s.lowered rs = namedCategory? s rs := by
  have h := joinedText_lowered s
  simp only [joinedText] at h
  simp only [namedCategory?, h]

theorem keywordLeader?_lower (text : String) (rs : RuleSet) :
    keywordLeader? (lower text) rs = keywordLeader? text rs := by
  simp only [keywordLeader?, isBlankText_lower, lower_lower]

theorem firstHit?_lower (rs : RuleSet) (raw : String) :
    firstHit? rs (lower raw) = firstHit? rs raw := by
  simp only [firstHit?, normalize_lower]

theorem toolCategory?_lower (tools : List String) (rs : RuleSet) :
    toolCategory? (tools.map lower) rs = toolCategory? tools rs := by
  rw [toolCategory?_eq, toolCategory?_eq, List.findSome?_map]
  simp only [Function.comp_def, firstHit?_lower]

theorem classify_lowered (s : Signals) (rs : RuleSet) : classify s.lowered rs = classify s rs := by
  have hp := keywordLeader?_lower s.promptText rs
  have ha := keywordLeader?_lower s.assistantText rs
  simp only [classify, namedCategory?_lowered]
  simp only [Signals.lowered, hp, ha, toolCategory?_lower]

/-- Two turns whose prompts, replies and tools lowercase alike are classified alike, against any
rule set. -/
theorem classify_eq_of_lower_eq (rs : RuleSet) (s s' : Signals)
    (hp : lower s.promptText = lower s'.promptText)
    (ha : lower s.assistantText = lower s'.assistantText)
    (ht : s.toolsUsed.map lower = s'.toolsUsed.map lower) :
    classify s rs = classify s' rs := by
  have h : s.lowered = s'.lowered := by
    simp only [Signals.lowered, hp, ha, ht]
  rw [← classify_lowered s, h, classify_lowered]

/-- A turn written in capitals and the same turn in small letters are classified alike. -/
theorem classify_eq_of_lower_eq_capitals :
    lower "Category: ADMIN, then Research" = lower "category: admin, then research" ∧
      lower "NOTED" = lower "noted" ∧
      ["Web_Search", " WRITE "].map lower = ["web_search", " write "].map lower ∧
      classify ⟨"Category: ADMIN, then Research", "NOTED", ["Web_Search", " WRITE "]⟩
          builtinRules =
        classify ⟨"category: admin, then research", "noted", ["web_search", " write "]⟩
          builtinRules :=
  ⟨by decide, by decide, by decide,
    classify_eq_of_lower_eq builtinRules ⟨"Category: ADMIN, then Research", "NOTED",
      ["Web_Search", " WRITE "]⟩ ⟨"category: admin, then research", "noted",
      ["web_search", " write "]⟩ (by decide) (by decide) (by decide)⟩

end TurnLedger.Classify
