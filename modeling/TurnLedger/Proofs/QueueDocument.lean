import Mathlib.Data.List.DropRight
import TurnLedger.Queue.Document

/-!
# Reading queue files back

What the reader of queue files finds in the texts the queue writes. A title line, and the header
line of a block, are passed over whole; a fenced block whose text holds no line end followed by
three backticks, and does not end in a carriage return, gives back exactly that text. So a file
rewritten from texts that are not empty, trimmed and free of such a closing fence reads back as
those texts (`entriesOf_pendingFile`), and every text the reader finds is of that kind
(`keepable_of_mem_entriesOf`): rewriting a file with the texts of its entries gives back the same
entries (`entriesOf_pendingFile_raws`).
-/

namespace TurnLedger.Queue

theorem blockBody_eq_some {acc s body after : List Char}
    (h : blockBody acc s = some (body, after)) :
    ∃ x, body = acc.reverse ++ x ∧
      (s = x ++ '\n' :: (fence ++ after) ∨ s = x ++ '\r' :: '\n' :: (fence ++ after)) := by
  induction s generalizing acc with
  | nil => simp [blockBody, fence] at h
  | cons c s ih =>
    rw [blockBody] at h
    split at h
    · rename_i h₁
      obtain ⟨t, ht⟩ := List.prefix_iff_exists_eq_append.1 (List.isPrefixOf_iff_prefix.1 h₁)
      simp only [Option.some.injEq, Prod.mk.injEq] at h
      obtain ⟨rfl, rfl⟩ := h
      exact ⟨[], by simp, .inl (by rw [ht]; simp [fence])⟩
    split at h
    · rename_i h₂
      obtain ⟨t, ht⟩ := List.prefix_iff_exists_eq_append.1 (List.isPrefixOf_iff_prefix.1 h₂)
      simp only [Option.some.injEq, Prod.mk.injEq] at h
      obtain ⟨rfl, rfl⟩ := h
      exact ⟨[], by simp, .inr (by rw [ht]; simp [fence])⟩
    · obtain ⟨x, rfl, hx⟩ := ih h
      exact ⟨c :: x, by simp, by rcases hx with hx | hx <;> simp [hx]⟩

theorem blockAt_eq_some {s body after : List Char} (h : blockAt s = some (body, after)) :
    ∃ r, (s = openFence ++ '\n' :: r ∨ s = openFence ++ '\r' :: '\n' :: r) ∧
      blockBody [] r = some (body, after) := by
  unfold blockAt at h
  split at h
  · rename_i h₁
    obtain ⟨t, rfl⟩ := List.prefix_iff_exists_eq_append.1 (List.isPrefixOf_iff_prefix.1 h₁)
    rw [List.drop_left] at h
    split at h
    · exact ⟨_, .inl rfl, h⟩
    · exact ⟨_, .inr rfl, h⟩
    · cases h
  · cases h

theorem length_lt_of_blockAt {s body after : List Char} (h : blockAt s = some (body, after)) :
    after.length < s.length := by
  obtain ⟨r, hs, hb⟩ := blockAt_eq_some h
  obtain ⟨x, -, hr⟩ := blockBody_eq_some hb
  rcases hs with rfl | rfl <;> rcases hr with rfl | rfl <;> simp [openFence, fence] <;> omega

theorem blockTextsLoop_eq {n : Nat} {s : List Char} (hn : s.length < n) :
    blockTextsLoop n s = blockTexts s := by
  suffices h : ∀ n m (s : List Char), s.length < n → s.length < m →
      blockTextsLoop n s = blockTextsLoop m s from h n _ s hn (Nat.lt_succ_self _)
  intro n
  induction n with
  | zero => intro m s h; omega
  | succ k ih =>
    intro m s hk hm
    obtain ⟨j, rfl⟩ : ∃ j, m = j + 1 := ⟨m - 1, by omega⟩
    cases s with
    | nil => rfl
    | cons c s =>
      simp only [List.length_cons] at hk hm
      simp only [blockTextsLoop]
      split
      · rename_i body after h
        have := length_lt_of_blockAt h
        simp only [List.length_cons] at this
        rw [ih j after (by omega) (by omega)]
      · exact ih j s (by omega) (by omega)

@[simp] theorem blockTexts_nil : blockTexts [] = [] := rfl

theorem blockTexts_of_blockAt_some {c : Char} {s body after : List Char}
    (h : blockAt (c :: s) = some (body, after)) : blockTexts (c :: s) = body :: blockTexts after := by
  have hlen := length_lt_of_blockAt h
  simp only [List.length_cons] at hlen
  simp only [blockTexts, List.length_cons, blockTextsLoop, h]
  rw [blockTextsLoop_eq (by omega)]
  rfl

theorem blockTexts_of_blockAt_none {c : Char} {s : List Char} (h : blockAt (c :: s) = none) :
    blockTexts (c :: s) = blockTexts s := by
  simp only [blockTexts, List.length_cons, blockTextsLoop, h]

theorem blockAt_of_ne_backtick {c : Char} (hc : c ≠ '`') (s : List Char) : blockAt (c :: s) = none := by
  simp [blockAt, openFence, fence, Ne.symm hc]

theorem blockTexts_newline (T : List Char) : blockTexts ('\n' :: T) = blockTexts T :=
  blockTexts_of_blockAt_none (blockAt_of_ne_backtick (by decide) T)

theorem eq_of_append_cons_eq {α : Type} {a : α} :
    ∀ {x₁ x₂ z₁ z₂ : List α}, a ∉ x₁ → a ∉ x₂ → x₁ ++ a :: z₁ = x₂ ++ a :: z₂ → x₁ = x₂
  | [], [], _, _, _, _, _ => rfl
  | [], b :: x₂, _, _, _, h₂, h => by simp at h; simp [h.1] at h₂
  | b :: x₁, [], _, _, h₁, _, h => by simp at h; simp [h.1] at h₁
  | b :: x₁, c :: x₂, _, _, h₁, h₂, h => by
    simp only [List.cons_append, List.cons.injEq] at h
    rw [h.1, eq_of_append_cons_eq (List.not_mem_of_not_mem_cons h₁)
      (List.not_mem_of_not_mem_cons h₂) h.2]

theorem blockAt_line {P : List Char} (hP : '\n' ∉ P) (hlast : ∀ c ∈ P.getLast?, c ≠ 'n' ∧ c ≠ '\r')
    (Q : List Char) : blockAt (P ++ '\n' :: Q) = none := by
  rcases h : blockAt (P ++ '\n' :: Q) with _ | ⟨body, after⟩
  · rfl
  obtain ⟨r, hs | hs, -⟩ := blockAt_eq_some h
  · have := eq_of_append_cons_eq hP (by decide) hs
    subst this
    exact absurd rfl (hlast 'n' (by decide)).1
  · rw [show openFence ++ '\r' :: '\n' :: r = (openFence ++ ['\r']) ++ '\n' :: r by simp] at hs
    have := eq_of_append_cons_eq hP (by decide) hs
    subst this
    exact absurd rfl (hlast '\r' (by decide)).2

theorem blockTexts_line {P : List Char} (hP : '\n' ∉ P)
    (hlast : ∀ c ∈ P.getLast?, c ≠ 'n' ∧ c ≠ '\r') (Q : List Char) :
    blockTexts (P ++ '\n' :: Q) = blockTexts Q := by
  induction P with
  | nil => exact blockTexts_of_blockAt_none (blockAt_of_ne_backtick (by decide) Q)
  | cons c P ih =>
    have hnone : blockAt (c :: (P ++ '\n' :: Q)) = none := blockAt_line hP hlast Q
    rw [List.cons_append, blockTexts_of_blockAt_none hnone]
    refine ih (List.not_mem_of_not_mem_cons hP) fun d hd => hlast d ?_
    cases P with
    | nil => simp at hd
    | cons e P => simpa using hd

theorem no_close_within {y : List Char} (hy : y ≠ []) (hx : ¬ ('\n' :: fence) <:+: y)
    (hr : y.getLast? ≠ some '\r') (t : List Char) :
    ('\n' :: fence).isPrefixOf (y ++ '\n' :: (fence ++ t)) = false ∧
      ('\r' :: '\n' :: fence).isPrefixOf (y ++ '\n' :: (fence ++ t)) = false := by
  match y, hy with
  | [a], _ =>
    simp_all [fence, List.isPrefixOf]
    exact fun h => hr h.symm
  | [a, b], _ => simp_all [fence, List.isPrefixOf]
  | [a, b, d], _ => simp_all [fence, List.isPrefixOf]
  | a :: b :: d :: e :: y', _ =>
    constructor
    · -- a line end and three backticks here would be a closing fence inside the text
      cases h : ('\n' :: fence).isPrefixOf (a :: b :: d :: e :: y' ++ '\n' :: (fence ++ t))
      · rfl
      · simp [fence, List.isPrefixOf] at h
        obtain ⟨rfl, rfl, rfl, rfl⟩ := h
        exact absurd ⟨[], y', rfl⟩ hx
    · cases h : ('\r' :: '\n' :: fence).isPrefixOf (a :: b :: d :: e :: y' ++ '\n' :: (fence ++ t))
      · rfl
      · simp [fence, List.isPrefixOf] at h
        obtain ⟨rfl, rfl, rfl, rfl, hf⟩ := h
        -- the backtick after them would close a fence one place later
        cases y' with
        | nil => simp at hf
        | cons f y'' =>
          obtain rfl : '`' = f := by simpa using hf
          exact absurd ⟨['\r'], y'', rfl⟩ hx

theorem blockBody_close {x : List Char} (hx : ¬ ('\n' :: fence) <:+: x)
    (hr : x.getLast? ≠ some '\r') (acc after : List Char) :
    blockBody acc (x ++ '\n' :: (fence ++ after)) = some (acc.reverse ++ x, after) := by
  induction x generalizing acc with
  | nil => simp [blockBody, fence, List.isPrefixOf]
  | cons c x ih =>
    obtain ⟨h₁, h₂⟩ := no_close_within (List.cons_ne_nil c x) hx hr after
    have hx' : ¬ ('\n' :: fence) <:+: x := fun h => hx (List.infix_cons h)
    have hr' : x.getLast? ≠ some '\r' := by
      cases x with
      | nil => simp
      | cons d x => simpa using hr
    rw [List.cons_append, blockBody.eq_def]
    simp only [List.cons_append] at h₁ h₂
    simp only [h₁, h₂, Bool.false_eq_true, if_false]
    rw [ih hx' hr']
    simp

theorem blockTexts_fenced {x : List Char} (hx : ¬ ('\n' :: fence) <:+: x)
    (hr : x.getLast? ≠ some '\r') (Q : List Char) :
    blockTexts (openFence ++ '\n' :: (x ++ '\n' :: (fence ++ Q))) = x :: blockTexts Q := by
  have h : blockAt ('`' :: ('`' :: '`' :: "json".toList ++ '\n' :: (x ++ '\n' :: (fence ++ Q)))) =
      some (x, Q) := by
    simp only [blockAt, openFence, List.isPrefixOf_iff_prefix]
    simpa [fence] using blockBody_close hx hr [] Q
  exact blockTexts_of_blockAt_some h

theorem blockBody_length_le {acc x z body after : List Char}
    (h : blockBody acc (x ++ '\n' :: (fence ++ z)) = some (body, after)) :
    body.length ≤ acc.length + x.length := by
  induction x generalizing acc with
  | nil =>
    simp [blockBody, fence, List.isPrefixOf] at h
    obtain ⟨rfl, -⟩ := h
    simp
  | cons c x ih =>
    rw [List.cons_append, blockBody] at h
    split at h
    · obtain ⟨rfl, -⟩ := Prod.mk.inj (Option.some.inj h)
      simp
    split at h
    · obtain ⟨rfl, -⟩ := Prod.mk.inj (Option.some.inj h)
      simp
    · have := ih h
      simp only [List.length_cons] at this ⊢
      omega

theorem not_infix_of_blockAt {s body after : List Char} (h : blockAt s = some (body, after)) :
    ¬ ('\n' :: fence) <:+: body := by
  obtain ⟨r, -, hb⟩ := blockAt_eq_some h
  obtain ⟨x, hx, hr⟩ := blockBody_eq_some hb
  rintro ⟨u, v, rfl⟩
  simp only [List.reverse_nil, List.nil_append] at hx
  -- a closing fence inside the text would have ended it earlier
  have hearly : ∃ z, r = u ++ '\n' :: (fence ++ z) := by
    rcases hr with rfl | rfl
    · exact ⟨v ++ '\n' :: (fence ++ after), by rw [← hx]; simp⟩
    · exact ⟨v ++ '\r' :: '\n' :: (fence ++ after), by rw [← hx]; simp⟩
  obtain ⟨z, rfl⟩ := hearly
  have := blockBody_length_le hb
  simp only [fence, List.length_append, List.length_cons, List.length_nil] at this
  omega

theorem not_infix_of_mem_blockTextsLoop :
    ∀ {n : Nat} {s body : List Char}, body ∈ blockTextsLoop n s → ¬ ('\n' :: fence) <:+: body
  | 0, _, _, h => by simp [blockTextsLoop] at h
  | _ + 1, [], _, h => by simp [blockTextsLoop] at h
  | n + 1, c :: s, body, h => by
    simp only [blockTextsLoop] at h
    split at h
    · rename_i b a hb
      rcases List.mem_cons.1 h with rfl | h
      · exact not_infix_of_blockAt hb
      · exact not_infix_of_mem_blockTextsLoop h
    · exact not_infix_of_mem_blockTextsLoop h

theorem trimChars_eq (cs : List Char) :
    Text.trimChars cs = (cs.dropWhile Text.isBlank).rdropWhile Text.isBlank := rfl

theorem isInfix_trimChars (cs : List Char) : Text.trimChars cs <:+: cs :=
  (List.rdropWhile_prefix _ _).isInfix.trans (List.dropWhile_suffix _).isInfix

theorem trimChars_getLast (cs : List Char) :
    ∀ c ∈ (Text.trimChars cs).getLast?, Text.isBlank c = false := by
  intro c hc
  have hne : Text.trimChars cs ≠ [] := by rintro h; simp [h] at hc
  rw [List.getLast?_eq_some_getLast hne, Option.mem_some_iff] at hc
  subst hc
  exact Bool.eq_false_iff.2 (List.rdropWhile_last_not Text.isBlank (cs.dropWhile Text.isBlank) hne)

theorem trimChars_trimChars (cs : List Char) :
    Text.trimChars (Text.trimChars cs) = Text.trimChars cs := by
  -- what is left starts as the text without its leading blanks does, with no blank
  have hfront : (Text.trimChars cs).dropWhile Text.isBlank = Text.trimChars cs := by
    obtain ⟨t, ht⟩ := List.rdropWhile_prefix Text.isBlank (cs.dropWhile Text.isBlank)
    rw [trimChars_eq]
    cases h : (cs.dropWhile Text.isBlank).rdropWhile Text.isBlank with
    | nil => rfl
    | cons b w =>
      have hhead := List.head?_dropWhile_not Text.isBlank cs
      rw [← ht, h] at hhead
      exact List.dropWhile_cons_of_neg (by simpa using hhead)
  rw [trimChars_eq (Text.trimChars cs), hfront, trimChars_eq, List.rdropWhile_idempotent]

theorem toList_trim (s : String) : (Text.trim s).toList = Text.trimChars s.toList := by
  simp [Text.trim]

theorem trim_trim (s : String) : Text.trim (Text.trim s) = Text.trim s := by
  simp [Text.trim, trimChars_trimChars]

theorem getLast_trim_ne (s : String) : (Text.trim s).toList.getLast? ≠ some '\r' := by
  intro h
  have := trimChars_getLast s.toList '\r' (by rw [← toList_trim, h]; rfl)
  exact absurd this (by decide)

theorem toList_entryBlock (q raw : String) : (entryBlock q raw).toList =
    ("## queued_at: ".toList ++ q.toList) ++ '\n' ::
      (openFence ++ '\n' :: ((Text.trim raw).toList ++ '\n' :: (fence ++ ['\n', '\n']))) := by
  have hopen : "\n```json\n".toList = '\n' :: (openFence ++ ['\n']) := by decide
  have hclose : "\n```\n\n".toList = '\n' :: (fence ++ ['\n', '\n']) := by decide
  unfold entryBlock
  rw [String.toList_append, String.toList_append, String.toList_append, String.toList_append,
    hopen, hclose]
  simp only [List.append_assoc, List.cons_append, List.nil_append]

theorem blockTexts_titleBlock {L : String} (hL : '\n' ∉ L.toList) (T : List Char) :
    blockTexts ((titleBlock L).toList ++ T) = blockTexts T := by
  have hend : ")\n\n".toList = [')', '\n', '\n'] := by decide
  have hhead : '\n' ∉ "# Agent Activity Fallback Queue (".toList := by decide
  have htitle : (titleBlock L).toList ++ T =
      ("# Agent Activity Fallback Queue (".toList ++ L.toList ++ [')']) ++ '\n' :: '\n' :: T := by
    unfold titleBlock
    rw [String.toList_append, String.toList_append, hend]
    simp only [List.append_assoc, List.cons_append, List.nil_append]
  have hlast : ∀ c ∈ ("# Agent Activity Fallback Queue (".toList ++ L.toList ++ [')']).getLast?,
      c ≠ 'n' ∧ c ≠ '\r' := by
    rw [List.getLast?_concat]
    intro c hc
    cases hc
    decide
  have hline : '\n' ∉ "# Agent Activity Fallback Queue (".toList ++ L.toList ++ [')'] := by
    simp only [List.mem_append, List.mem_singleton, not_or]
    exact ⟨⟨hhead, hL⟩, by decide⟩
  rw [htitle, blockTexts_line hline hlast, blockTexts_newline]

theorem blockTexts_entryBlock {q raw : String} (hq : '\n' ∉ q.toList)
    (hlast : ∀ c ∈ q.toList.getLast?, c ≠ 'n' ∧ c ≠ '\r')
    (hraw : ¬ ('\n' :: fence) <:+: (Text.trim raw).toList) (T : List Char) :
    blockTexts ((entryBlock q raw).toList ++ T) = (Text.trim raw).toList :: blockTexts T := by
  have hhead : ∀ c ∈ ("## queued_at: ".toList ++ q.toList).getLast?, c ≠ 'n' ∧ c ≠ '\r' := by
    intro c hc
    rw [List.getLast?_append] at hc
    cases h : q.toList.getLast? with
    | none => simp [h] at hc; subst hc; decide
    | some d => simp [h] at hc; subst hc; exact hlast d h
  rw [toList_entryBlock, List.append_assoc, List.cons_append,
    blockTexts_line (by simp [hq]) hhead, List.append_assoc, List.cons_append,
    List.append_assoc, List.cons_append, List.append_assoc, blockTexts_fenced hraw (getLast_trim_ne raw)]
  simp [blockTexts_newline]

theorem waitingMark_line :
    '\n' ∉ waitingMark.toList ∧ ∀ c ∈ waitingMark.toList.getLast?, c ≠ 'n' ∧ c ≠ '\r' := by
  have h : waitingMark.toList.getLast? = some 'g' := by decide
  refine ⟨by decide, ?_⟩
  rw [h]
  intro c hc
  cases hc
  decide

theorem blockTexts_pendingFile {L : String} (hL : '\n' ∉ L.toList) {raws : List String}
    (h : ∀ r ∈ raws, ¬ ('\n' :: fence) <:+: (Text.trim r).toList) :
    blockTexts (pendingFile L raws).toList = raws.map fun r => (Text.trim r).toList := by
  rw [pendingFile, String.toList_append, blockTexts_titleBlock hL]
  induction raws with
  | nil => rfl
  | cons r rs ih =>
    rw [List.map_cons, String.join_cons, String.toList_append,
      blockTexts_entryBlock waitingMark_line.1 waitingMark_line.2 (h r (.head _)),
      ih fun r' hr' => h r' (.tail _ hr'), List.map_cons]

/-- A text that a queue block gives back as it is: not empty, trimmed, and without a line end
followed by three backticks. -/
def Keepable (raw : String) : Prop :=
  raw ≠ "" ∧ Text.trim raw = raw ∧ ¬ ('\n' :: fence) <:+: raw.toList

def entryOf (raw : String) : Entry := ⟨raw, (Activity.Record.ofJsonText raw).toOption⟩

@[simp] theorem entryOf_record (raw : String) :
    (entryOf raw).record = (Activity.Record.ofJsonText raw).toOption := rfl

theorem entriesOf_pendingFile {L : String} (hL : '\n' ∉ L.toList) {raws : List String}
    (h : ∀ r ∈ raws, Keepable r) : entriesOf (pendingFile L raws) = raws.map entryOf := by
  have hfence : ∀ r ∈ raws, ¬ ('\n' :: fence) <:+: (Text.trim r).toList := fun r hr => by
    rw [(h r hr).2.1]; exact (h r hr).2.2
  rw [entriesOf, blockTexts_pendingFile hL hfence, List.filterMap_map]
  induction raws with
  | nil => rfl
  | cons r rs ih =>
    obtain ⟨hne, htrim, -⟩ := h r (.head _)
    rw [List.filterMap_cons, List.map_cons, ← ih (fun r' hr' => h r' (.tail _ hr'))
      (fun r' hr' => hfence r' (.tail _ hr'))]
    simp [String.ofList_toList, htrim, hne, entryOf]

theorem keepable_of_mem_entriesOf {d : String} {e : Entry} (he : e ∈ entriesOf d) :
    Keepable e.raw ∧ e = entryOf e.raw := by
  simp only [entriesOf, List.mem_filterMap] at he
  obtain ⟨body, hbody, he⟩ := he
  split at he
  · cases he
  · rename_i hne
    cases he
    refine ⟨⟨fun h => hne (String.isEmpty_iff.2 h), trim_trim _, fun h => ?_⟩, rfl⟩
    rw [toList_trim, String.toList_ofList] at h
    exact not_infix_of_mem_blockTextsLoop hbody (h.trans (isInfix_trimChars body))

theorem entriesOf_pendingFile_raws {L : String} (hL : '\n' ∉ L.toList) (d : String) :
    entriesOf (pendingFile L ((entriesOf d).map (·.raw))) = entriesOf d := by
  rw [entriesOf_pendingFile hL (by simpa using fun e he => (keepable_of_mem_entriesOf he).1),
    List.map_map]
  conv_rhs => rw [← List.map_id (entriesOf d)]
  exact List.map_congr_left fun e he => (keepable_of_mem_entriesOf he).2.symm

end TurnLedger.Queue
