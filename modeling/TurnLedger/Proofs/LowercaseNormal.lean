import TurnLedger.Classify.Keyword
import TurnLedger.Proofs.QueueDocument

/-!
# Lowercase text is a normal form

Lowercasing maps every character to characters that lowercasing leaves alone, none of them a
capital sigma, so the sigma rule has nothing left to act on and lowercasing twice is lowercasing
once (`lower_lower`). No character that is not blank turns blank, so a text that starts and ends
with a character that is not blank still does after lowercasing, and trimming then changes
nothing. Together, trimming and lowercasing is a normalization (`normalize_normalize`).

What each character maps to is read off the table of lowercase runs, by evaluation
(`lowerRuns_settled`, `ascii_settled`, `special_settled`); everything else is proved over all texts.
-/

namespace TurnLedger.Text

def LowerRun.images (r : LowerRun) : List Nat :=
  (List.range r.count).map fun k => Int.toNat ((r.start + k * r.stride : Nat) + r.delta)

/-- A code point that the table may map to: a character that is not blank, neither capital
sigma nor capital I with dot above, and that lowercasing leaves alone. -/
def settledImage (n : Nat) : Bool :=
  let d := Char.ofNat n
  d.toNat == n && !isBlank d && n != 0x130 && n != 0x3A3 && lowerSimple d == d

theorem lowerRuns_settled :
    lowerRuns.toList.all (fun r => 0 < r.count && 0 < r.stride && r.images.all settledImage) =
      true := by
  decide +kernel

theorem ascii_settled :
    (List.range 0x80).all (fun n =>
      lowerSimple (Char.ofNat n) == Char.ofNat n ||
        settledImage (lowerSimple (Char.ofNat n)).toNat) = true := by
  decide

theorem special_settled :
    lowerSimple (Char.ofNat 0x3A3) = Char.ofNat 0x3C3 ∧ settledImage 0x307 = true ∧
      settledImage 0x3C2 = true ∧ settledImage 0x3C3 = true := by
  decide +kernel

theorem lowerRunIn_sound {rs : Array LowerRun} {c lo hi n : Nat} (h : hi ≤ rs.size)
    (hf : lowerRunIn rs c lo hi = some n) : ∃ r ∈ rs, r.image? c = some n := by
  fun_induction lowerRunIn rs c lo hi with
  | case1 lo hi hlt mid r hc ih => exact ih (by omega) hf
  | case2 lo hi hlt mid r hc hc' ih => exact ih h hf
  | case3 lo hi hlt mid r hc hc' =>
    have hmid : mid < rs.size := by omega
    refine ⟨r, ?_, hf⟩
    simp only [r, Array.getD_eq_getD_getElem?, Array.getElem?_eq_getElem hmid, Option.getD_some]
    exact Array.getElem_mem hmid
  | case4 => cases hf

theorem LowerRun.mem_images {r : LowerRun} {c n : Nat} (hc : 0 < r.count) (hs : 0 < r.stride)
    (h : r.image? c = some n) : n ∈ r.images := by
  unfold LowerRun.image? at h
  split at h
  · rename_i hin
    obtain ⟨h1, h2, h3⟩ := hin
    cases h
    -- `c` is the `k`-th code point of the run
    obtain ⟨k, hk⟩ := Nat.dvd_of_mod_eq_zero h3
    have hkc : k < r.count := by
      have : r.stride * k ≤ r.stride * (r.count - 1) := by
        simp only [LowerRun.last] at h2
        rw [Nat.mul_comm r.stride (r.count - 1)]
        omega
      have := Nat.le_of_mul_le_mul_left this hs
      omega
    refine List.mem_map.2 ⟨k, List.mem_range.2 hkc, ?_⟩
    rw [Nat.mul_comm k r.stride, ← hk, Nat.add_sub_cancel' h1]
  · cases h

theorem lowerSimple_cases (c : Char) : lowerSimple c = c ∨ settledImage (lowerSimple c).toNat = true := by
  by_cases hc : c.toNat < 0x80
  · have h := List.all_eq_true.1 ascii_settled c.toNat (List.mem_range.2 hc)
    simpa [Char.ofNat_toNat] using h
  · unfold lowerSimple
    rw [if_neg hc]
    cases hf : lowerRunIn lowerRuns c.toNat 0 lowerRuns.size with
    | none => exact .inl rfl
    | some n =>
      right
      obtain ⟨r, hr, himg⟩ := lowerRunIn_sound (le_refl _) hf
      have hrun := List.all_eq_true.1 lowerRuns_settled r (Array.mem_toList_iff.2 hr)
      simp only [Bool.and_eq_true, decide_eq_true_eq, List.all_eq_true] at hrun
      have hn := hrun.2 n (LowerRun.mem_images hrun.1.1 hrun.1.2 himg)
      have hval : (Char.ofNat n).toNat = n := by
        simp only [settledImage, Bool.and_eq_true, beq_iff_eq] at hn
        exact hn.1.1.1.1
      simpa only [hval] using hn

/-- A character that lowercasing leaves alone and that is no capital sigma. -/
def LowerFixed (d : Char) : Prop := lowerChar d = [d] ∧ d.toNat ≠ 0x3A3

theorem lowerFixed_of_settled {n : Nat} (h : settledImage n = true) : LowerFixed (Char.ofNat n) := by
  simp only [settledImage, Bool.and_eq_true, beq_iff_eq, Bool.not_eq_true', bne_iff_ne, ne_eq]
    at h
  obtain ⟨⟨⟨⟨hval, -⟩, h130⟩, h3a3⟩, hfix⟩ := h
  refine ⟨?_, by rw [hval]; exact h3a3⟩
  rw [lowerChar, hval, if_neg h130, hfix]

theorem isBlank_of_settled {n : Nat} (h : settledImage n = true) : isBlank (Char.ofNat n) = false := by
  simp only [settledImage, Bool.and_eq_true, Bool.not_eq_true'] at h
  exact h.1.1.1.2

theorem lowerChar_fixed (c : Char) :
    ∀ d ∈ lowerChar c, LowerFixed d ∧ (isBlank c = false → isBlank d = false) := by
  unfold lowerChar
  split
  · -- capital I with dot above becomes a small i and a combining dot above
    have hi : LowerFixed 'i' := ⟨by decide, by decide⟩
    have hdot : LowerFixed (Char.ofNat 0x307) := lowerFixed_of_settled special_settled.2.1
    intro d hd
    simp only [List.mem_cons, List.not_mem_nil, or_false] at hd
    rcases hd with rfl | rfl
    · exact ⟨hi, fun _ => by decide⟩
    · exact ⟨hdot, fun _ => by decide⟩
  · rename_i h130
    intro d hd
    rw [List.mem_singleton] at hd
    subst hd
    rcases lowerSimple_cases c with hsame | hset
    · -- a character left alone is no capital sigma, which lowercasing moves
      have h3a3 : c.toNat ≠ 0x3A3 := by
        intro h
        have hc : c = Char.ofNat 0x3A3 := by rw [← h, Char.ofNat_toNat]
        rw [hc, special_settled.1] at hsame
        exact absurd (congrArg Char.toNat hsame) (by decide)
      rw [hsame]
      exact ⟨⟨by rw [lowerChar, if_neg h130, hsame], h3a3⟩, id⟩
    · have := lowerFixed_of_settled hset
      have hb := isBlank_of_settled hset
      rw [Char.ofNat_toNat] at this hb
      exact ⟨this, fun _ => hb⟩

/-- What lowercasing writes for `c`, between the characters `before` it (nearest first) and
the characters `rest` after it. -/
def lowerAt (before : List Char) (c : Char) (rest : List Char) : List Char :=
  if c.toNat = 0x3A3 then [if endsWord before rest then Char.ofNat 0x3C2 else Char.ofNat 0x3C3]
  else lowerChar c

theorem lowerAt_fixed (before : List Char) (c : Char) (rest : List Char) :
    ∀ d ∈ lowerAt before c rest, LowerFixed d ∧ (isBlank c = false → isBlank d = false) := by
  unfold lowerAt
  split
  · -- a capital sigma becomes a final or a small sigma
    have hfinal : LowerFixed (Char.ofNat 0x3C2) := lowerFixed_of_settled special_settled.2.2.1
    have hsmall : LowerFixed (Char.ofNat 0x3C3) := lowerFixed_of_settled special_settled.2.2.2
    intro d hd
    rw [List.mem_singleton] at hd
    subst hd
    split
    · exact ⟨hfinal, fun _ => by decide⟩
    · exact ⟨hsmall, fun _ => by decide⟩
  · exact lowerChar_fixed c

theorem lowerAt_ne_nil (before : List Char) (c : Char) (rest : List Char) :
    lowerAt before c rest ≠ [] := by
  unfold lowerAt lowerChar
  split_ifs <;> simp

theorem lowerAt_of_fixed {before rest : List Char} {d : Char} (h : LowerFixed d) :
    lowerAt before d rest = [d] := by
  rw [lowerAt, if_neg h.2, h.1]

theorem lowerAux_acc (before cs acc : List Char) :
    lowerAux before cs acc = acc.reverse ++ lowerAux before cs [] := by
  induction cs generalizing before acc with
  | nil => simp [lowerAux]
  | cons c rest ih =>
    simp only [lowerAux]
    split
    · rw [ih, ih _ [_]]
      simp
    · rw [ih, ih _ ((lowerChar c).reverse ++ [])]
      simp

theorem lowerAux_cons (before : List Char) (c : Char) (rest : List Char) :
    lowerAux before (c :: rest) [] = lowerAt before c rest ++ lowerAux (c :: before) rest [] := by
  rw [lowerAux, lowerAt]
  split
  · rw [lowerAux_acc]
    simp
  · rw [lowerAux_acc]
    simp

theorem lowerAux_of_fixed {cs : List Char} (h : ∀ d ∈ cs, LowerFixed d) (before : List Char) :
    lowerAux before cs [] = cs := by
  induction cs generalizing before with
  | nil => rfl
  | cons d rest ih =>
    rw [lowerAux_cons, lowerAt_of_fixed (h d List.mem_cons_self),
      ih (fun x hx => h x (List.mem_cons_of_mem _ hx))]
    rfl

theorem lowerFixed_of_mem_lowerAux (before cs : List Char) :
    ∀ d ∈ lowerAux before cs [], LowerFixed d := by
  induction cs generalizing before with
  | nil => simp [lowerAux]
  | cons c rest ih =>
    intro d hd
    rw [lowerAux_cons, List.mem_append] at hd
    rcases hd with hd | hd
    · exact (lowerAt_fixed before c rest d hd).1
    · exact ih _ d hd

theorem lower_lower (s : String) : lower (lower s) = lower s := by
  simp only [lower, String.toList_ofList]
  rw [lowerAux_of_fixed (lowerFixed_of_mem_lowerAux [] s.toList)]

theorem lowerAux_head {before rest : List Char} {c : Char} (hc : isBlank c = false) :
    ∀ d ∈ (lowerAux before (c :: rest) []).head?, isBlank d = false := by
  intro d hd
  rw [lowerAux_cons] at hd
  obtain ⟨x, xs, hx⟩ := List.exists_cons_of_ne_nil (lowerAt_ne_nil before c rest)
  rw [hx, List.cons_append, List.head?_cons, Option.mem_some_iff] at hd
  subst hd
  exact (lowerAt_fixed before c rest x (hx ▸ List.mem_cons_self)).2 hc

theorem lowerAux_getLast {cs : List Char} (hne : cs ≠ [])
    (hc : ∀ c ∈ cs.getLast?, isBlank c = false) (before : List Char) :
    ∀ d ∈ (lowerAux before cs []).getLast?, isBlank d = false := by
  induction cs generalizing before with
  | nil => exact absurd rfl hne
  | cons c rest ih =>
    intro d hd
    rw [lowerAux_cons] at hd
    rcases rest with _ | ⟨c', rest⟩
    · -- the last character is `c` itself
      simp only [lowerAux, List.reverse_nil, List.append_nil] at hd
      have hlast : d ∈ lowerAt before c [] := List.mem_of_getLast? hd
      exact (lowerAt_fixed before c [] d hlast).2 (hc c rfl)
    · have hrest : lowerAux (c :: before) (c' :: rest) [] ≠ [] := by
        rw [lowerAux_cons]
        simp [lowerAt_ne_nil]
      rw [List.getLast?_append_of_ne_nil _ hrest] at hd
      exact ih (by simp) (by simpa using hc) _ d hd

theorem trimChars_head (cs : List Char) : ∀ c ∈ (trimChars cs).head?, isBlank c = false := by
  intro c hc
  obtain ⟨t, ht⟩ := List.rdropWhile_prefix isBlank (cs.dropWhile isBlank)
  have hhead := List.head?_dropWhile_not isBlank cs
  rw [← ht, ← Queue.trimChars_eq] at hhead
  obtain ⟨x, xs, hx⟩ := List.exists_cons_of_ne_nil (show trimChars cs ≠ [] by
    rintro h
    simp [h] at hc)
  rw [hx, List.head?_cons, Option.mem_some_iff] at hc
  subst hc
  simpa [hx] using hhead

theorem trimChars_of_ends {cs : List Char} (hh : ∀ c ∈ cs.head?, isBlank c = false)
    (hl : ∀ c ∈ cs.getLast?, isBlank c = false) : trimChars cs = cs := by
  have hfront : cs.dropWhile isBlank = cs := by
    rcases cs with _ | ⟨c, rest⟩
    · rfl
    · exact List.dropWhile_cons_of_neg (by simpa using hh c rfl)
  rw [Queue.trimChars_eq, hfront, List.rdropWhile_eq_self_iff]
  intro hne
  simpa using hl _ (List.getLast?_eq_some_getLast hne)

theorem trim_lower_trim (s : String) : trim (lower (trim s)) = lower (trim s) := by
  have hends : ∀ cs : List Char, (∀ c ∈ cs.head?, isBlank c = false) →
      (∀ c ∈ cs.getLast?, isBlank c = false) → trimChars (lowerAux [] cs []) = lowerAux [] cs [] := by
    intro cs hh hl
    rcases cs with _ | ⟨c, rest⟩
    · rfl
    · exact trimChars_of_ends (lowerAux_head (hh c rfl)) (lowerAux_getLast (by simp) hl [])
  simp only [trim, lower, String.toList_ofList]
  rw [hends _ (trimChars_head _) (Queue.trimChars_getLast _)]

end TurnLedger.Text

namespace TurnLedger.Classify

theorem normalize_normalize (s : String) : normalize (normalize s) = normalize s := by
  simp only [normalize, Text.trim_lower_trim, Text.lower_lower]

theorem normalize_ends (s : String) :
    (∀ c ∈ (normalize s).toList.head?, Text.isBlank c = false) ∧
      ∀ c ∈ (normalize s).toList.getLast?, Text.isBlank c = false := by
  have h : Text.trim (normalize s) = normalize s := Text.trim_lower_trim s
  rw [← h, Queue.toList_trim]
  exact ⟨Text.trimChars_head _, Queue.trimChars_getLast _⟩

end TurnLedger.Classify
