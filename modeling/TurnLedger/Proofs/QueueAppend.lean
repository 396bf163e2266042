import TurnLedger.Proofs.JsonNumber
import TurnLedger.Proofs.InstantText
import TurnLedger.Proofs.QueueDocument
import TurnLedger.Queue.Document

/-!
# Appending after a torn write

A record is queued by appending its block to the day's file, and a write that fails may leave
any first part of its block behind. The reader takes a block from its opening line to the first
closing fence after it, wherever that is, so what a torn write leaves decides whether the next
block is read. Text that is settled (`Settled`) lets a block written after it be read on its
own: every file the queue writes whole is settled, and so is the text after every whole block.
A torn block that stopped after its opening line and before its closing fence (`OpensBlock`) is
still open: it reads on into the next block up to that block's own opening fence, and the next
record's text is lost (`append_after_torn_write`). A new file's first write holds the title
too; the title alone is settled, so a tear there is covered as well.

The texts written into a block are what make this exact: a record's compact JSON text is one
line between braces, and a queue time holds no line end and no backtick and ends in `Z`.
-/

namespace TurnLedger

namespace Json

theorem newline_not_mem_hex4 {n : Nat} (hn : n < 32) : '\n' ∉ (hex4 n).toList := by
  have key : ∀ n < 32, '\n' ∉ (hex4 n).toList := by decide
  exact key n hn

theorem newline_not_mem_toDigits (n : Nat) : '\n' ∉ Nat.toDigits 10 n :=
  fun h => absurd (Nat.isDigit_of_mem_toDigits (by decide) (by decide) h) (by decide)

theorem newline_not_mem_escapeChar (c : Char) : '\n' ∉ (escapeChar false c).toList := by
  unfold escapeChar
  simp only [Bool.false_and, Bool.false_eq_true, if_false]
  split_ifs with h1 h2 h3 h4 h5 h6 h7 h8
  any_goals decide
  · -- a control character: four hexadecimal digits of its code
    rw [String.toList_append]
    simp only [List.mem_append, not_or]
    exact ⟨by decide, newline_not_mem_hex4 h8⟩
  · -- any other character stands for itself, and is no control character
    simp only [Char.toString, String.toList_singleton, List.mem_singleton]
    rintro rfl
    exact h8 (by decide)

theorem newline_not_mem_quoteString (s : String) : '\n' ∉ (quoteString false s).toList := by
  simp only [quoteString, String.toList_append, String.toList_join, List.mem_append,
    List.mem_flatMap, List.mem_map, not_or]
  refine ⟨⟨by decide, ?_⟩, by decide⟩
  rintro ⟨_, ⟨c, -, rfl⟩, hc⟩
  exact newline_not_mem_escapeChar c hc

theorem newline_not_mem_numberText (n : Number) : '\n' ∉ n.text.toList := by
  intro h
  cases n with
  | unsigned n =>
    simp only [Number.text] at h
    simp only [Nat.toString_eq_repr, Nat.toList_repr] at h
    exact newline_not_mem_toDigits n h
  | negative n =>
    cases n <;> simp [Number.text, Int.repr, toString] at h <;> exact newline_not_mem_toDigits _ h
  | float x =>
    simp only [Number.text, floatLiteral] at h
    split at h
    · exact absurd (render_chars x _ h) (by decide)
    · exact absurd h (by decide)

mutual
theorem newline_not_mem_compactWith : ∀ v : Value, '\n' ∉ (v.compactWith false).toList
  | .null => by decide
  | .bool b => by cases b <;> decide
  | .number n => by rw [Value.compactWith]; exact newline_not_mem_numberText n
  | .string s => by rw [Value.compactWith]; exact newline_not_mem_quoteString s
  | .array items => by
    rw [Value.compactWith]
    simp only [String.toList_append, List.mem_append, not_or]
    exact ⟨⟨by decide, newline_not_mem_compactItems items⟩, by decide⟩
  | .object members => by
    rw [Value.compactWith]
    simp only [String.toList_append, List.mem_append, not_or]
    exact ⟨⟨by decide, newline_not_mem_compactMembers members⟩, by decide⟩

theorem newline_not_mem_compactItems : ∀ items : List Value,
    '\n' ∉ (compactItems false items).toList
  | [] => by decide
  | [v] => by rw [compactItems]; exact newline_not_mem_compactWith v
  | v :: w :: rest => by
    rw [compactItems]
    simp only [String.toList_append, List.mem_append, not_or]
    · exact ⟨⟨newline_not_mem_compactWith v, by decide⟩,
        newline_not_mem_compactItems (w :: rest)⟩
    · exact List.cons_ne_nil _ _

theorem newline_not_mem_compactMembers : ∀ members : List (String × Value),
    '\n' ∉ (compactMembers false members).toList
  | [] => by decide
  | [(k, v)] => by
    rw [compactMembers]
    simp only [String.toList_append, List.mem_append, not_or]
    exact ⟨⟨newline_not_mem_quoteString k, by decide⟩, newline_not_mem_compactWith v⟩
  | (k, v) :: m :: rest => by
    rw [compactMembers]
    simp only [String.toList_append, List.mem_append, not_or]
    · exact ⟨⟨⟨⟨newline_not_mem_quoteString k, by decide⟩, newline_not_mem_compactWith v⟩,
        by decide⟩,
        newline_not_mem_compactMembers (m :: rest)⟩
    · exact List.cons_ne_nil _ _
end

theorem Value.compact_object (members : List (String × Value)) :
    (Value.object members).compact.toList =
      '{' :: ((compactMembers false members).toList ++ ['}']) := by
  show (Value.compactWith false (.object members)).toList = _
  rw [Value.compactWith, String.toList_append, String.toList_append]
  rfl

end Json

theorem Activity.Record.toJson_line (r : Activity.Record) :
    '\n' ∉ r.toJson.toList ∧ ∃ m, r.toJson.toList = '{' :: (m ++ ['}']) :=
  ⟨Json.newline_not_mem_compactWith _, _, Json.Value.compact_object _⟩

namespace Time

/-- A time written into a block's header line: no line end and no backtick, ending in `Z`. -/
structure Stamp (s : String) : Prop where
  plain : ∀ c ∈ s.toList, c ≠ '\n' ∧ c ≠ '`'
  last : s.toList.getLast? = some 'Z'

theorem plain_of_isDigit {c : Char} (h : c.isDigit = true) : c ≠ '\n' ∧ c ≠ '`' := by
  constructor <;> rintro rfl <;> exact absurd h (by decide)

theorem isDigit_of_mem_twoDigits {n : Nat} {c : Char} (h : c ∈ (twoDigits n).toList) :
    c.isDigit = true := by
  unfold twoDigits at h
  split at h
  · rw [String.toList_append] at h
    rcases List.mem_append.1 h with h | h
    · rw [show "0".toList = ['0'] from rfl, List.mem_singleton] at h
      rw [h]; rfl
    · simp only [Nat.toString_eq_repr, Nat.toList_repr] at h
      exact Nat.isDigit_of_mem_toDigits (by decide) (by decide) h
  · simp only [Nat.toString_eq_repr, Nat.toList_repr] at h
    exact Nat.isDigit_of_mem_toDigits (by decide) (by decide) h

theorem plain_of_mem_single {c d : Char} (hd : d ≠ '\n' ∧ d ≠ '`') (h : c ∈ [d]) :
    c ≠ '\n' ∧ c ≠ '`' := by
  rw [List.mem_singleton] at h
  subst h
  exact hd

theorem plain_of_mem_yearText {y : Int} {c : Char} (h : c ∈ (yearText y).toList) :
    c ≠ '\n' ∧ c ≠ '`' := by
  unfold yearText at h
  split at h
  · exact plain_of_isDigit (isDigit_of_mem_padded h)
  · rw [String.toList_append] at h
    rcases List.mem_append.1 h with h | h
    · split at h
      · exact plain_of_mem_single (by decide) (show c ∈ ['-'] from h)
      · exact plain_of_mem_single (by decide) (show c ∈ ['+'] from h)
    · exact plain_of_isDigit (isDigit_of_mem_padded h)

theorem Instant.stamp_wholeSecondsText (t : Instant) : Stamp t.wholeSecondsText := by
  refine ⟨fun c hc => ?_, ?_⟩
  · simp only [Instant.wholeSecondsText, Instant.secondsText, String.toList_append,
      List.mem_append, or_assoc] at hc
    rcases hc with h | h | h | h | h | h | h | h | h | h | h | h
    · exact plain_of_mem_yearText h
    · exact plain_of_mem_single (by decide) (show c ∈ ['-'] from h)
    · exact plain_of_isDigit (isDigit_of_mem_twoDigits h)
    · exact plain_of_mem_single (by decide) (show c ∈ ['-'] from h)
    · exact plain_of_isDigit (isDigit_of_mem_twoDigits h)
    · exact plain_of_mem_single (by decide) (show c ∈ ['T'] from h)
    · exact plain_of_isDigit (isDigit_of_mem_twoDigits h)
    · exact plain_of_mem_single (by decide) (show c ∈ [':'] from h)
    · exact plain_of_isDigit (isDigit_of_mem_twoDigits h)
    · exact plain_of_mem_single (by decide) (show c ∈ [':'] from h)
    · exact plain_of_isDigit (isDigit_of_mem_twoDigits h)
    · exact plain_of_mem_single (by decide) (show c ∈ ['Z'] from h)
  · rw [Instant.wholeSecondsText, String.toList_append]
    exact List.getLast?_concat

end Time

namespace Queue

theorem blockTexts_plain {x : List Char} (hx : '`' ∉ x) (T : List Char) :
    blockTexts (x ++ T) = blockTexts T := by
  induction x with
  | nil => rfl
  | cons c x ih =>
    have hc : c ≠ '`' := fun h => hx (h ▸ List.mem_cons_self)
    rw [List.cons_append, blockTexts_of_blockAt_none (blockAt_of_ne_backtick hc _)]
    exact ih fun h => hx (List.mem_cons_of_mem _ h)

theorem blockTexts_of_plain {x : List Char} (hx : '`' ∉ x) : blockTexts x = [] := by
  simpa using blockTexts_plain hx []

theorem blockAt_eq_none_of_take {s : List Char} (h₁ : s.take 8 ≠ openFence ++ ['\n'])
    (h₂ : s.take 9 ≠ openFence ++ ['\r', '\n']) : blockAt s = none := by
  unfold blockAt
  split
  · rename_i hp
    obtain ⟨t, rfl⟩ := List.isPrefixOf_iff_prefix.1 hp
    rw [List.drop_left]
    split
    · exact absurd (by simp [openFence, fence]) h₁
    · exact absurd (by simp [openFence, fence]) h₂
    · rfl
  · rfl

theorem hash_mem_take {l T : List Char} {k : Nat} (h : l.length < k) :
    '#' ∈ (l ++ '#' :: T).take k := by
  rw [List.take_append, List.take_of_length_le (by omega)]
  obtain ⟨m, hm⟩ : ∃ m, k - l.length = m + 1 := ⟨k - l.length - 1, by omega⟩
  rw [hm]
  simp

theorem blockAt_hash {l : List Char} (hl : l.length < 8) (T : List Char) :
    blockAt (l ++ '#' :: T) = none := by
  refine blockAt_eq_none_of_take (fun h => ?_) (fun h => ?_)
  · exact absurd (h ▸ hash_mem_take (T := T) hl) (by decide)
  · exact absurd (h ▸ hash_mem_take (T := T) (by omega : l.length < 9)) (by decide)

theorem blockTexts_hash {l : List Char} (hl : l.length < 8) (T : List Char) :
    blockTexts (l ++ '#' :: T) = blockTexts ('#' :: T) := by
  induction l with
  | nil => rfl
  | cons c l ih =>
    rw [List.cons_append, blockTexts_of_blockAt_none (by simpa using blockAt_hash hl T)]
    exact ih (by simp at hl; omega)

theorem blockAt_eq_none_of_no_close {s : List Char} (h : ¬ ('\n' :: fence) <:+: s) :
    blockAt s = none := by
  cases hb : blockAt s with
  | none => rfl
  | some b =>
    obtain ⟨body, after⟩ := b
    obtain ⟨r, hr, hbody⟩ := blockAt_eq_some hb
    obtain ⟨x, -, hx⟩ := blockBody_eq_some hbody
    have hclose : ('\n' :: fence) <:+: r := by
      rcases hx with rfl | rfl
      · exact ⟨x, after, by simp⟩
      · exact ⟨x ++ ['\r'], after, by simp⟩
    have hrs : r <:+: s := by
      rcases hr with rfl | rfl
      · exact ⟨openFence ++ ['\n'], [], by simp⟩
      · exact ⟨openFence ++ ['\r', '\n'], [], by simp⟩
    exact absurd (hclose.trans hrs) h

theorem blockTexts_eq_nil {s : List Char} (h : ¬ ('\n' :: fence) <:+: s) : blockTexts s = [] := by
  induction s with
  | nil => rfl
  | cons c s ih =>
    rw [blockTexts_of_blockAt_none (blockAt_eq_none_of_no_close h)]
    exact ih fun h' => h (List.infix_cons h')

theorem blockTexts_fence_newline (R : List Char) :
    blockTexts (fence ++ '\n' :: R) = blockTexts R := by
  have h₁ : blockAt ('`' :: '`' :: '`' :: '\n' :: R) = none := by simp [blockAt, openFence, fence]
  have h₂ : blockAt ('`' :: '`' :: '\n' :: R) = none := by simp [blockAt, openFence, fence]
  have h₃ : blockAt ('`' :: '\n' :: R) = none := by simp [blockAt, openFence, fence]
  show blockTexts ('`' :: '`' :: '`' :: '\n' :: R) = _
  rw [blockTexts_of_blockAt_none h₁, blockTexts_of_blockAt_none h₂,
    blockTexts_of_blockAt_none h₃, blockTexts_newline]

/-- Text after which a write, which always starts with `#`, is read on its own: no block of the
text runs on into what is written after it. -/
def Settled (d : List Char) : Prop :=
  ∀ T, blockTexts (d ++ '#' :: T) = blockTexts d ++ blockTexts ('#' :: T)

theorem settled_of_plain {d : List Char} (h : '`' ∉ d) : Settled d := fun T => by
  rw [blockTexts_plain h, blockTexts_of_plain h, List.nil_append]

theorem Settled.append {d b : List Char} (hd : Settled d) (hb : Settled ('#' :: b)) :
    Settled (d ++ '#' :: b) := fun T => by
  rw [List.append_assoc, List.cons_append, hd, ← List.cons_append, hb T, hd b, List.append_assoc]

theorem titleBlock_head (L : String) : ∃ b, (titleBlock L).toList = '#' :: b := by
  have h : "# Agent Activity Fallback Queue (".toList =
      '#' :: " Agent Activity Fallback Queue (".toList := by decide
  unfold titleBlock
  rw [String.toList_append, String.toList_append, h]
  exact ⟨_, rfl⟩

theorem entryBlock_head (q raw : String) : ∃ b, (entryBlock q raw).toList = '#' :: b := by
  have h : "## queued_at: ".toList = '#' :: "# queued_at: ".toList := by decide
  rw [toList_entryBlock, h]
  exact ⟨_, rfl⟩

theorem settled_titleBlock {L : String} (hL : '\n' ∉ L.toList) : Settled (titleBlock L).toList :=
  fun T => by
    have h₀ := blockTexts_titleBlock hL []
    rw [List.append_nil] at h₀
    rw [blockTexts_titleBlock hL, h₀, blockTexts_nil, List.nil_append]

theorem settled_entryBlock {q raw : String} (hq : '\n' ∉ q.toList)
    (hlast : ∀ c ∈ q.toList.getLast?, c ≠ 'n' ∧ c ≠ '\r')
    (hraw : ¬ ('\n' :: fence) <:+: (Text.trim raw).toList) : Settled (entryBlock q raw).toList :=
  fun T => by
    have h₀ := blockTexts_entryBlock hq hlast hraw []
    rw [List.append_nil] at h₀
    rw [blockTexts_entryBlock hq hlast hraw, h₀, blockTexts_nil]
    rfl

theorem settled_pendingFile {L : String} (hL : '\n' ∉ L.toList) {raws : List String}
    (h : ∀ r ∈ raws, ¬ ('\n' :: fence) <:+: (Text.trim r).toList) :
    Settled (pendingFile L raws).toList := by
  rw [pendingFile, String.toList_append]
  -- the title, then one block after another
  suffices key : ∀ d, Settled d →
      Settled (d ++ (String.join (raws.map (entryBlock waitingMark))).toList) from
    key _ (settled_titleBlock hL)
  induction raws with
  | nil => simp
  | cons r rs ih =>
    intro d hd
    obtain ⟨b, hb⟩ := entryBlock_head waitingMark r
    rw [List.map_cons, String.join_cons, String.toList_append, ← List.append_assoc]
    refine ih (fun r' hr' => h r' (.tail _ hr')) _ ?_
    rw [hb]
    exact hd.append
      (hb ▸ settled_entryBlock waitingMark_line.1 waitingMark_line.2 (h r (.head _)))

theorem trimChars_cons_concat {a c : Char} (ha : Text.isBlank a = false)
    (hc : Text.isBlank c = false) (m : List Char) :
    Text.trimChars (a :: (m ++ [c])) = a :: (m ++ [c]) := by
  rw [trimChars_eq, List.dropWhile_cons_of_neg (by simp [ha]), ← List.cons_append,
    List.rdropWhile_concat_neg _ _ _ (by simp [hc])]

theorem getLast_trimChars_concat {l : List Char} {c : Char} (hc : Text.isBlank c = false) :
    (Text.trimChars (l ++ [c])).getLast? = some c := by
  -- what is left after the leading blanks still ends in `c`
  obtain ⟨m, hm⟩ : ∃ m, (l ++ [c]).dropWhile Text.isBlank = m ++ [c] := by
    rw [List.dropWhile_append]
    split
    · exact ⟨[], by simp [List.dropWhile, hc]⟩
    · exact ⟨_, rfl⟩
  rw [trimChars_eq, hm, List.rdropWhile_concat_neg _ _ _ (by simp [hc]), List.getLast?_concat]

theorem keepable_toJson (r : Activity.Record) : Keepable r.toJson := by
  obtain ⟨hnl, m, hm⟩ := r.toJson_line
  refine ⟨fun h => by simp [h] at hm, String.toList_injective ?_,
    fun h => hnl (h.subset List.mem_cons_self)⟩
  rw [toList_trim, hm, trimChars_cons_concat (by decide) (by decide)]

def headerLine (q : String) : List Char := "## queued_at: ".toList ++ q.toList

def openingOf (q : String) : List Char := headerLine q ++ '\n' :: (openFence ++ ['\n'])

def closingOf (q raw : String) : List Char :=
  headerLine q ++ '\n' :: (openFence ++ '\n' :: ((Text.trim raw).toList ++ '\n' :: fence))

/-- What is left of a block written only in part stops after the block's opening line and
before its closing fence. -/
def OpensBlock (q raw : String) (p : List Char) : Prop :=
  openingOf q <+: p ∧ ¬ closingOf q raw <+: p

theorem openingOf_starts_entryBlock (q raw : String) : openingOf q <+: (entryBlock q raw).toList := by
  rw [toList_entryBlock]
  unfold openingOf headerLine
  exact ⟨(Text.trim raw).toList ++ '\n' :: (fence ++ ['\n', '\n']), by simp⟩

theorem toList_entryBlock_eq (q raw : String) :
    (entryBlock q raw).toList = closingOf q raw ++ ['\n', '\n'] := by
  rw [toList_entryBlock]
  unfold closingOf headerLine
  simp only [List.append_assoc, List.cons_append]

theorem headerLine_plain {q : String} (hq : '`' ∉ q.toList) : '`' ∉ headerLine q ++ ['\n'] := by
  have h : '`' ∉ "## queued_at: ".toList := by decide
  intro hb
  rcases List.mem_append.1 hb with hb | hb
  · rcases List.mem_append.1 hb with hb | hb
    · exact h hb
    · exact hq hb
  · exact absurd hb (by decide)

theorem infix_newline_cases {u v l : List Char} (hu : '\n' ∉ u)
    (h : ('\n' :: l) <:+: u ++ '\n' :: v) :
    l <+: v ∨ ('\n' :: l) <:+: v := by
  obtain ⟨s, t, hst⟩ := h
  rw [List.append_assoc, List.cons_append, List.append_eq_append_iff] at hst
  rcases hst with ⟨a, rfl, ha⟩ | ⟨c, rfl, hc⟩
  · cases a with
    | nil => exact .inl ⟨t, by simpa using ha⟩
    | cons b a =>
      obtain ⟨rfl, -⟩ := List.cons.inj ha
      exact absurd (by simp) hu
  · cases c with
    | nil => exact .inl ⟨t, by simpa using hc.symm⟩
    | cons b c =>
      obtain ⟨rfl, hv⟩ := List.cons.inj hc
      exact .inr ⟨c, t, by rw [hv]; simp⟩

/-- A first part of a one-line text and its closing fence's line end, with less than the whole
fence, followed by text with no line end that does not start with a backtick, holds no closing
fence. -/
theorem not_close_of_torn {P x y : List Char} (hP : '\n' ∉ P)
    (hx : x <+: P ++ ['\n', '`', '`']) (hy : '\n' ∉ y) (hyh : ∀ c ∈ y.head?, c ≠ '`') :
    ¬ ('\n' :: fence) <:+: x ++ y := by
  intro h
  rcases List.prefix_or_prefix_of_prefix hx (List.prefix_append P ['\n', '`', '`']) with hxP | hPx
  · -- no line end at all
    rcases List.mem_append.1 (h.subset List.mem_cons_self) with hn | hn
    · exact hP (hxP.subset hn)
    · exact hy hn
  · obtain ⟨k, rfl⟩ := hPx
    have hk : k <+: ['\n', '`', '`'] := (List.prefix_append_right_inj P).1 hx
    rcases List.prefix_cons_iff.1 hk with rfl | ⟨k, rfl, hk₁⟩
    · rcases List.mem_append.1 (h.subset List.mem_cons_self) with hn | hn
      · exact hP (by simpa using hn)
      · exact hy hn
    rw [List.append_assoc, List.cons_append] at h
    -- the fence would start right after the line end, where at most two backticks stand
    have hk' : k = [] ∨ k = ['`'] ∨ k = ['`', '`'] := by
      rcases List.prefix_cons_iff.1 hk₁ with rfl | ⟨k, rfl, hk₂⟩
      · exact .inl rfl
      · rcases List.prefix_cons_iff.1 hk₂ with rfl | ⟨k, rfl, hk₃⟩
        · exact .inr (.inl rfl)
        · obtain rfl := List.eq_nil_of_prefix_nil hk₃
          exact .inr (.inr rfl)
    rcases infix_newline_cases hP h with ⟨t, ht⟩ | hin
    · cases y with
      | nil => rcases hk' with rfl | rfl | rfl <;> simp [fence] at ht
      | cons c y =>
        refine hyh c rfl ?_
        rcases hk' with rfl | rfl | rfl <;> simp [fence] at ht <;> exact ht.1.symm
    · rcases List.mem_append.1 (hin.subset List.mem_cons_self) with hn | hn
      · rcases hk' with rfl | rfl | rfl <;> simp at hn
      · exact hy hn

theorem Settled.split {d : List Char} (hd : Settled d) {w : List Char}
    (hw : ∀ c ∈ w.head?, c = '#') : blockTexts (d ++ w) = blockTexts d ++ blockTexts w := by
  cases w with
  | nil => simp
  | cons c w =>
    obtain rfl : c = '#' := hw c rfl
    exact hd w

theorem headerLine_head (q : String) : ∃ b, headerLine q = '#' :: b := by
  have h : "## queued_at: ".toList = '#' :: "# queued_at: ".toList := by decide
  unfold headerLine
  rw [h]
  exact ⟨_, rfl⟩

theorem settled_before_opening {q : String} (hq : '`' ∉ q.toList) {p : List Char}
    (hp : p <+: headerLine q ++ '\n' :: openFence) : Settled p := by
  rw [show headerLine q ++ '\n' :: openFence = (headerLine q ++ ['\n']) ++ openFence by simp] at hp
  rcases List.prefix_or_prefix_of_prefix hp (List.prefix_append _ _) with hp' | hp'
  · exact settled_of_plain fun h => headerLine_plain hq (hp'.subset h)
  · obtain ⟨o, rfl⟩ := hp'
    -- at most the opening fence stands after the header line, and a write starts with `#`
    have ho : o <+: openFence := (List.prefix_append_right_inj _).1 hp
    have hlen : o.length < 8 := by
      have := ho.length_le
      simp only [openFence, fence, List.length_append, List.length_cons] at this
      simp at this
      omega
    have hnl : ¬ ('\n' :: fence) <:+: o := fun h =>
      absurd (ho.subset (h.subset List.mem_cons_self)) (by decide)
    intro T
    rw [List.append_assoc, blockTexts_plain (headerLine_plain hq), blockTexts_hash hlen,
      blockTexts_plain (headerLine_plain hq), blockTexts_eq_nil hnl, List.nil_append]

theorem blockTexts_closing {q raw : String} (hq : '`' ∉ q.toList) (hraw : Keepable raw)
    {t : List Char} (ht : t <+: ['\n', '\n']) (X : List Char) :
    blockTexts (closingOf q raw ++ t ++ X) = raw.toList :: blockTexts X := by
  have htrim : (Text.trim raw).toList = raw.toList := by rw [hraw.2.1]
  have ht' : '`' ∉ t := fun h => absurd (ht.subset h) (by decide)
  have e : closingOf q raw ++ t ++ X = (headerLine q ++ ['\n']) ++
      (openFence ++ '\n' :: (raw.toList ++ '\n' :: (fence ++ (t ++ X)))) := by
    unfold closingOf
    rw [htrim]
    simp only [List.append_assoc, List.cons_append, List.nil_append]
  rw [e, blockTexts_plain (headerLine_plain hq), blockTexts_fenced hraw.2.2
    (by rw [← htrim]; exact getLast_trim_ne raw), blockTexts_plain ht']

theorem settled_closing {q raw : String} (hq : '`' ∉ q.toList) (hraw : Keepable raw)
    {t : List Char} (ht : t <+: ['\n', '\n']) : Settled (closingOf q raw ++ t) := fun T => by
  have h₀ := blockTexts_closing hq hraw ht []
  rw [List.append_nil] at h₀
  rw [blockTexts_closing hq hraw ht, h₀, blockTexts_nil]
  rfl

theorem append_record_block {d : List Char} (hd : Settled d) {ts : String} (hts : Time.Stamp ts)
    (r : Activity.Record) :
    blockTexts (d ++ (entryBlock ts r.toJson).toList) = blockTexts d ++ [r.toJson.toList] ∧
      Settled (d ++ (entryBlock ts r.toJson).toList) := by
  have hk := keepable_toJson r
  have hnl : '\n' ∉ ts.toList := fun h => (hts.plain _ h).1 rfl
  have hlast : ∀ c ∈ ts.toList.getLast?, c ≠ 'n' ∧ c ≠ '\r' := by
    rw [hts.last]
    rintro c ⟨⟩
    decide
  have hraw : ¬ ('\n' :: fence) <:+: (Text.trim r.toJson).toList := by rw [hk.2.1]; exact hk.2.2
  have hblock := settled_entryBlock hnl hlast hraw
  obtain ⟨b, hb⟩ := entryBlock_head ts r.toJson
  refine ⟨?_, by rw [hb]; exact hd.append (hb ▸ hblock)⟩
  have h₀ := blockTexts_entryBlock hnl hlast hraw []
  rw [List.append_nil, hk.2.1] at h₀
  rw [hd.split (by rw [hb]; simp), h₀, blockTexts_nil]

theorem blockTexts_swallowed {q ts : String} (hq : '`' ∉ q.toList) (hts : Time.Stamp ts)
    {P x : List Char} (hP : '\n' ∉ P) (hx : x <+: P ++ ['\n', '`', '`']) (r : Activity.Record)
    (X : List Char) :
    blockTexts (openingOf q ++ x ++ (entryBlock ts r.toJson).toList ++ X) =
      (x ++ headerLine ts) :: blockTexts X := by
  obtain ⟨hnl, m, hm⟩ := r.toJson_line
  have hk := keepable_toJson r
  have hH : '\n' ∉ headerLine ts := by
    have h : '\n' ∉ "## queued_at: ".toList := by decide
    intro hn
    rcases List.mem_append.1 hn with hn | hn
    · exact h hn
    · exact (hts.plain _ hn).1 rfl
  obtain ⟨b, hb⟩ := headerLine_head ts
  have hclose : ¬ ('\n' :: fence) <:+: x ++ headerLine ts :=
    not_close_of_torn hP hx hH (by rw [hb]; rintro c ⟨⟩; decide)
  have hend : (x ++ headerLine ts).getLast? ≠ some '\r' := by
    unfold headerLine
    rw [← List.append_assoc, List.getLast?_append, hts.last, Option.some_or]
    decide
  have hjson : '`' ∉ "json".toList ++ ['\n'] := by decide
  have hrec : ∀ c ∈ r.toJson.toList.getLast?, c ≠ 'n' ∧ c ≠ '\r' := by
    rw [hm, ← List.cons_append, List.getLast?_concat]
    rintro c ⟨⟩
    decide
  have e : openingOf q ++ x ++ (entryBlock ts r.toJson).toList ++ X =
      (headerLine q ++ ['\n']) ++ (openFence ++ '\n' :: ((x ++ headerLine ts) ++ '\n' ::
        (fence ++ (("json".toList ++ ['\n']) ++ (r.toJson.toList ++ '\n' ::
          (fence ++ '\n' :: '\n' :: X)))))) := by
    rw [toList_entryBlock_eq]
    unfold openingOf closingOf
    rw [hk.2.1]
    simp only [openFence, List.append_assoc, List.cons_append, List.nil_append]
  rw [e, blockTexts_plain (headerLine_plain hq), blockTexts_fenced hclose hend,
    blockTexts_plain hjson, blockTexts_line hnl hrec, blockTexts_fence_newline, blockTexts_newline]

theorem blockTexts_opened {q : String} (hq : '`' ∉ q.toList) {P x : List Char} (hP : '\n' ∉ P)
    (hP₀ : ∀ c ∈ P.head?, c ≠ '`') (hx : x <+: P ++ ['\n', '`', '`']) :
    blockTexts (openingOf q ++ x) = [] := by
  have e : openingOf q ++ x = (headerLine q ++ ['\n']) ++ (openFence ++ '\n' :: x) := by
    unfold openingOf
    simp only [List.append_assoc, List.cons_append, List.nil_append]
  rw [e, blockTexts_plain (headerLine_plain hq)]
  refine blockTexts_eq_nil fun h => ?_
  rcases infix_newline_cases (by decide) h with hf | hc
  · -- the text would start with a backtick, where the record's text starts
    obtain ⟨t, ht⟩ := hf.trans hx
    cases P with
    | nil => simp [fence] at ht
    | cons a P => exact hP₀ a rfl (by simp [fence] at ht; exact ht.1.symm)
  · have hx' : ¬ ('\n' :: fence) <:+: x ++ [] := not_close_of_torn hP hx (by simp) (by simp)
    exact hx' (by simpa using hc)

theorem entriesOf_of_blockTexts {s t : String} {body : List Char}
    (h : blockTexts t.toList = blockTexts s.toList ++ [body])
    (hb : Text.trim (String.ofList body) ≠ "") :
    entriesOf t = entriesOf s ++ [entryOf (Text.trim (String.ofList body))] := by
  have hne : (Text.trim (String.ofList body)).isEmpty = false := by
    cases he : (Text.trim (String.ofList body)).isEmpty
    · rfl
    · exact absurd (String.isEmpty_iff.1 he) hb
  unfold entriesOf
  rw [h, List.filterMap_append, List.filterMap_cons, List.filterMap_nil]
  simp only [hne, Bool.false_eq_true, if_false]
  rfl

theorem Settled.append_head {d w : List Char} (hd : Settled d) (hw : Settled w)
    (hhead : ∀ c ∈ w.head?, c = '#') : Settled (d ++ w) := by
  cases w with
  | nil => simpa using hd
  | cons c w =>
    obtain rfl : c = '#' := hhead c rfl
    exact hd.append hw

theorem settled_of_not_opens {q raw : String} (hq : '`' ∉ q.toList) (hraw : Keepable raw)
    {p : List Char} (hp : p <+: (entryBlock q raw).toList) (hopen : ¬ OpensBlock q raw p) :
    Settled p := by
  rw [toList_entryBlock_eq] at hp
  by_cases hop : openingOf q <+: p
  · -- the closing fence stands, and at most the blank line after it is missing
    have hcl : closingOf q raw <+: p := by
      by_contra h
      exact hopen ⟨hop, h⟩
    obtain ⟨t, rfl⟩ := hcl
    exact settled_closing hq hraw ((List.prefix_append_right_inj _).1 hp)
  · -- the opening line is not whole
    have hle : openingOf q <+: closingOf q raw ++ ['\n', '\n'] := by
      unfold openingOf closingOf
      simp
    rcases List.prefix_or_prefix_of_prefix hp hle with h | h
    · have e : openingOf q = (headerLine q ++ '\n' :: openFence) ++ ['\n'] := by
        unfold openingOf
        simp
      rw [e, List.prefix_concat_iff] at h
      rcases h with h | h
      · exact absurd (e ▸ h ▸ List.prefix_refl _) hop
      · exact settled_before_opening hq h
    · exact absurd h hop

theorem getLast_trim_swallowed {ts : String} (hts : Time.Stamp ts) (x : List Char) :
    (Text.trim (String.ofList (x ++ headerLine ts))).toList.getLast? = some 'Z' := by
  obtain ⟨s', hs'⟩ := List.getLast?_eq_some_iff.1 hts.last
  unfold headerLine
  rw [toList_trim, String.toList_ofList, hs', ← List.append_assoc, ← List.append_assoc]
  exact getLast_trimChars_concat (by decide)

/-- A record appended after a torn write. Let `d` be settled text, `p` what is left of a
record's block whose write failed part way, and let the next write append a record's block
whole. The file then has the entries it had before the append and one more. That entry is the
appended record's exactly when what is left of the torn block does not stop inside it, between
its opening line and its closing fence; when it does, the torn block runs on into the appended
one, and the entry read holds the torn text and the appended block's header line instead of the
record. Either way the file is settled again. -/
theorem append_after_torn_write {d p : String} (hd : Settled d.toList) (t₀ t : Time.Instant)
    (r₀ r : Activity.Record)
    (hp : p.toList <+: (entryBlock t₀.wholeSecondsText r₀.toJson).toList) :
    Settled (d ++ p ++ entryBlock t.wholeSecondsText r.toJson).toList ∧
    ∃ e, entriesOf (d ++ p ++ entryBlock t.wholeSecondsText r.toJson) =
        entriesOf (d ++ p) ++ [e] ∧
      (¬ OpensBlock t₀.wholeSecondsText r₀.toJson p.toList → e = entryOf r.toJson) ∧
      (OpensBlock t₀.wholeSecondsText r₀.toJson p.toList → e.raw ≠ r.toJson) := by
  have hq := Time.Instant.stamp_wholeSecondsText t₀
  have hts := Time.Instant.stamp_wholeSecondsText t
  have hqb : '`' ∉ t₀.wholeSecondsText.toList := fun h => (hq.plain _ h).2 rfl
  have hk₀ := keepable_toJson r₀
  have hk := keepable_toJson r
  -- a write starts with `#`
  have hhead : ∀ c ∈ p.toList.head?, c = '#' := by
    intro c hc
    obtain ⟨b, hb⟩ := entryBlock_head t₀.wholeSecondsText r₀.toJson
    rw [hb] at hp
    rcases List.prefix_cons_iff.1 hp with h | ⟨u, h, -⟩
    · simp [h] at hc
    · simpa [h] using hc.symm
  simp only [String.toList_append]
  by_cases hopen : OpensBlock t₀.wholeSecondsText r₀.toJson p.toList
  · obtain ⟨⟨x, hx⟩, hnc⟩ := hopen
    obtain ⟨hnl₀, m₀, hm₀⟩ := r₀.toJson_line
    have htrim₀ : (Text.trim r₀.toJson).toList = r₀.toJson.toList := by rw [hk₀.2.1]
    -- what is left after the opening line stops before the closing fence is whole
    have hE : (entryBlock t₀.wholeSecondsText r₀.toJson).toList =
        openingOf t₀.wholeSecondsText ++
          (r₀.toJson.toList ++ '\n' :: (fence ++ ['\n', '\n'])) := by
      rw [toList_entryBlock, htrim₀]
      unfold openingOf headerLine
      simp only [List.append_assoc, List.cons_append, List.nil_append]
    have hC : closingOf t₀.wholeSecondsText r₀.toJson =
        openingOf t₀.wholeSecondsText ++ (r₀.toJson.toList ++ '\n' :: fence) := by
      unfold closingOf openingOf
      rw [htrim₀]
      simp only [List.append_assoc, List.cons_append, List.nil_append]
    rw [hE, ← hx] at hp
    have hx₁ := (List.prefix_append_right_inj _).1 hp
    have hnc' : ¬ (r₀.toJson.toList ++ '\n' :: fence) <+: x := fun h =>
      hnc (by rw [hC, ← hx]; exact (List.prefix_append_right_inj _).2 h)
    have hxP : x <+: r₀.toJson.toList ++ ['\n', '`', '`'] := by
      rcases List.prefix_or_prefix_of_prefix hx₁
        (show r₀.toJson.toList ++ '\n' :: fence <+: _ by simp) with h | h
      · rw [show r₀.toJson.toList ++ '\n' :: fence =
            (r₀.toJson.toList ++ ['\n', '`', '`']) ++ ['`'] by simp [fence],
          List.prefix_concat_iff] at h
        rcases h with h | h
        · exact absurd (by rw [h]; simp [fence]) hnc'
        · exact h
      · exact absurd h hnc'
    have hP₀ : ∀ c ∈ r₀.toJson.toList.head?, c ≠ '`' := by
      rw [hm₀]
      rintro c ⟨⟩
      decide
    obtain ⟨b, hb⟩ := headerLine_head t₀.wholeSecondsText
    have hhd : ∀ Y, ∀ c ∈ (openingOf t₀.wholeSecondsText ++ Y).head?, c = '#' := by
      intro Y
      unfold openingOf
      rw [hb]
      simp
    -- the torn block runs on into the appended one, and holds no block by itself
    have hrun : ∀ X, blockTexts (d.toList ++ p.toList ++
        (entryBlock t.wholeSecondsText r.toJson).toList ++ X) =
        blockTexts d.toList ++ (x ++ headerLine t.wholeSecondsText) :: blockTexts X := by
      intro X
      rw [← hx, List.append_assoc, List.append_assoc, List.append_assoc,
        hd.split (hhd _), ← List.append_assoc, ← List.append_assoc,
        blockTexts_swallowed hqb hts hnl₀ hxP r X]
    have hrun₀ := hrun []
    rw [List.append_nil] at hrun₀
    have hbefore : blockTexts (d.toList ++ p.toList) = blockTexts d.toList := by
      rw [← hx, hd.split (hhd _), blockTexts_opened hqb hnl₀ hP₀ hxP, List.append_nil]
    have hlast := getLast_trim_swallowed hts x
    refine ⟨fun T => by rw [hrun, hrun₀]; simp,
      entryOf (Text.trim (String.ofList (x ++ headerLine t.wholeSecondsText))), ?_,
      fun h => absurd ⟨⟨x, hx⟩, hnc⟩ h, fun _ h => ?_⟩
    · refine entriesOf_of_blockTexts
        (by simp only [String.toList_append]; rw [hrun₀, hbefore, blockTexts_nil]) fun h => ?_
      rw [h] at hlast
      exact absurd hlast (by decide)
    · -- the text read ends in the header's time, the record's in a brace
      obtain ⟨-, m, hm⟩ := r.toJson_line
      simp only [entryOf] at h
      rw [h, hm, ← List.cons_append, List.getLast?_concat] at hlast
      exact absurd hlast (by decide)
  · have hs : Settled (d.toList ++ p.toList) :=
      hd.append_head (settled_of_not_opens hqb hk₀ hp hopen) hhead
    obtain ⟨hb, hs'⟩ := append_record_block hs hts r
    refine ⟨hs', entryOf r.toJson, ?_, fun _ => rfl, fun h => absurd h hopen⟩
    have hb' : blockTexts (d ++ p ++ entryBlock t.wholeSecondsText r.toJson).toList =
        blockTexts (d ++ p).toList ++ [r.toJson.toList] := by
      simpa only [String.toList_append] using hb
    have := entriesOf_of_blockTexts hb' (by rw [String.ofList_toList, hk.2.1]; exact hk.1)
    rwa [String.ofList_toList, hk.2.1] at this

/-- A new file whose first write stopped right after its block's opening line, queued at the
epoch; the next record is queued a minute later. -/
theorem append_after_torn_write_opened :
    Settled "".toList ∧
    (String.ofList (openingOf (⟨0, 0⟩ : Time.Instant).wholeSecondsText)).toList <+:
      (entryBlock (⟨0, 0⟩ : Time.Instant).wholeSecondsText
        ({ id := "torn" } : Activity.Record).toJson).toList ∧
    Settled ("" ++ String.ofList (openingOf (⟨0, 0⟩ : Time.Instant).wholeSecondsText) ++
      entryBlock (⟨60, 0⟩ : Time.Instant).wholeSecondsText
        ({ id := "r-1" } : Activity.Record).toJson).toList ∧
    ∃ e, entriesOf
          ("" ++ String.ofList (openingOf (⟨0, 0⟩ : Time.Instant).wholeSecondsText) ++
          entryBlock (⟨60, 0⟩ : Time.Instant).wholeSecondsText
            ({ id := "r-1" } : Activity.Record).toJson) =
        entriesOf ("" ++ String.ofList (openingOf (⟨0, 0⟩ : Time.Instant).wholeSecondsText)) ++
          [e] ∧
      (¬ OpensBlock (⟨0, 0⟩ : Time.Instant).wholeSecondsText
          ({ id := "torn" } : Activity.Record).toJson
          (String.ofList (openingOf (⟨0, 0⟩ : Time.Instant).wholeSecondsText)).toList →
        e = entryOf ({ id := "r-1" } : Activity.Record).toJson) ∧
      (OpensBlock (⟨0, 0⟩ : Time.Instant).wholeSecondsText
          ({ id := "torn" } : Activity.Record).toJson
          (String.ofList (openingOf (⟨0, 0⟩ : Time.Instant).wholeSecondsText)).toList →
        e.raw ≠ ({ id := "r-1" } : Activity.Record).toJson) :=
  ⟨settled_of_plain (by simp), by rw [String.toList_ofList]; exact openingOf_starts_entryBlock _ _,
    append_after_torn_write (settled_of_plain (by simp)) _ _ _ _
      (by rw [String.toList_ofList]; exact openingOf_starts_entryBlock _ _)⟩

end Queue

end TurnLedger
