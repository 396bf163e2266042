import TurnLedger.Proofs.JsonText

/-!
# Numbers read within their token

A number is lexed from its first byte up to the first byte that no number holds, so what it
reads depends on that token alone: two places where the same token stands, each followed by a
byte outside it, read alike and stop alike (`numberAt_window`). A run of decimal digits reads
as the integer it writes (`numberAt_digits`), and a double as the writer lays it out is a
token of number bytes that starts with a digit or a minus sign (`render_bytes_head`).
-/

namespace TurnLedger.Json

/-- The bytes a number may hold: digits, the point, the exponent letters and the signs. -/
def isNumberByte (b : UInt8) : Bool :=
  isDigitByte b || b == 46 || b == 101 || b == 69 || b == 43 || b == 45

theorem isDigitByte_of_not_number {b : UInt8} (h : isNumberByte b = false) :
    isDigitByte b = false := by
  simp only [isNumberByte, Bool.or_eq_false_iff] at h
  exact h.1.1.1.1.1

/-- The token `tok` stands at index `i`, followed by the end of the bytes or by a byte that no
number holds. -/
def NumberWindow (bytes : ByteArray) (i : Nat) (tok : List UInt8) : Prop :=
  ∃ rest, bytes.data.toList.drop i = tok ++ rest ∧ ∀ b ∈ rest.head?, isNumberByte b = false

/-- Every result that `r` gives at an index `i + k` within a token of length `len` is what `r'`
gives, at `i' + k`. -/
def Agrees {α : Type} (r : Lexed α) (i : Nat) (r' : Lexed α) (i' len : Nat) : Prop :=
  ∀ a j, r = .ok (a, j) → ∃ k, j = i + k ∧ k ≤ len ∧ r' = .ok (a, i' + k)

section Window

variable {bytes bytes' : ByteArray} {i i' : Nat} {tok : List UInt8}

theorem NumberWindow.getElem?_lt (w : NumberWindow bytes i tok) {o : Nat} (ho : o < tok.length) :
    bytes[i + o]? = some tok[o] := by
  obtain ⟨rest, h, -⟩ := w
  rw [getElem?_add_of_drop h, List.getElem?_append_left ho, List.getElem?_eq_getElem ho]

theorem NumberWindow.getElem?_end (w : NumberWindow bytes i tok) :
    ∀ b ∈ bytes[i + tok.length]?, isNumberByte b = false := by
  obtain ⟨rest, h, hstop⟩ := w
  rw [getElem?_add_of_drop h, List.getElem?_append_right (Nat.le_refl _), Nat.sub_self]
  intro b hb
  exact hstop b (by cases rest <;> simp_all)

theorem NumberWindow.cases (w : NumberWindow bytes i tok) (w' : NumberWindow bytes' i' tok)
    {o : Nat} (ho : o ≤ tok.length) :
    (∃ h : o < tok.length, bytes[i + o]? = some tok[o] ∧ bytes'[i' + o]? = some tok[o]) ∨
    (o = tok.length ∧ (∀ b ∈ bytes[i + o]?, isNumberByte b = false) ∧
      ∀ b ∈ bytes'[i' + o]?, isNumberByte b = false) := by
  by_cases hlt : o < tok.length
  · exact .inl ⟨hlt, w.getElem?_lt hlt, w'.getElem?_lt hlt⟩
  · obtain rfl : o = tok.length := by omega
    exact .inr ⟨rfl, w.getElem?_end, w'.getElem?_end⟩

end Window

theorem digitEnd_of_getElem? {bytes : ByteArray} {j : Nat} {b : UInt8} (h : bytes[j]? = some b) :
    digitEnd bytes j = if isDigitByte b then digitEnd bytes (j + 1) else j := by
  have hj : j < bytes.size := by
    rcases Nat.lt_or_ge j bytes.size with hj | hj
    · exact hj
    · rw [getElem?_neg bytes j (by omega)] at h; cases h
  rw [digitEnd, dif_pos hj, (getElem?_pos bytes j hj).symm.trans h |> Option.some.inj]

theorem digitEnd_of_stop {bytes : ByteArray} {j : Nat}
    (h : ∀ b ∈ bytes[j]?, isNumberByte b = false) : digitEnd bytes j = j := by
  rcases hb : bytes[j]? with _ | b
  · rw [digitEnd, dif_neg]
    intro hj
    rw [getElem?_pos bytes j hj] at hb
    cases hb
  · rw [digitEnd_of_getElem? hb, if_neg (by rw [isDigitByte_of_not_number (h b hb)]; decide)]

section Window

variable {bytes bytes' : ByteArray} {i i' : Nat} {tok : List UInt8}

theorem digitEnd_window (w : NumberWindow bytes i tok) (w' : NumberWindow bytes' i' tok) :
    ∀ d o, tok.length - o ≤ d → o ≤ tok.length →
      ∃ m, o ≤ m ∧ m ≤ tok.length ∧ digitEnd bytes (i + o) = i + m ∧
        digitEnd bytes' (i' + o) = i' + m := by
  intro d
  induction d with
  | zero =>
    intro o hd ho
    obtain rfl : o = tok.length := by omega
    exact ⟨tok.length, Nat.le_refl _, Nat.le_refl _, digitEnd_of_stop w.getElem?_end,
      digitEnd_of_stop w'.getElem?_end⟩
  | succ d ih =>
    intro o hd ho
    rcases w.cases w' ho with ⟨hlt, hb, hb'⟩ | ⟨rfl, hs, hs'⟩
    · rw [digitEnd_of_getElem? hb, digitEnd_of_getElem? hb']
      by_cases hdig : isDigitByte tok[o] = true
      · obtain ⟨m, hom, hm, he, he'⟩ := ih (o + 1) (by omega) hlt
        refine ⟨m, by omega, hm, ?_, ?_⟩
        · rw [if_pos hdig, Nat.add_assoc, he]
        · rw [if_pos hdig, Nat.add_assoc, he']
      · exact ⟨o, Nat.le_refl _, ho, if_neg hdig, if_neg hdig⟩
    · exact ⟨tok.length, Nat.le_refl _, Nat.le_refl _, digitEnd_of_stop hs, digitEnd_of_stop hs'⟩

theorem digitValues_window (w : NumberWindow bytes i tok) {o m : Nat} (hom : o ≤ m)
    (hm : m ≤ tok.length) :
    digitValues bytes (i + o) (i + m) = ((tok.drop o).take (m - o)).map fun b => (b - 48).toNat := by
  obtain ⟨rest, h, -⟩ := w
  rw [digitValues, toList_extract, ← List.drop_drop, h, List.drop_append_of_le_length (by omega),
    List.take_append_of_le_length (by simp; omega), Nat.add_sub_add_left]

theorem composeAt_agrees {positive : Bool} {sig : Nat} {e : Int} {o : Nat} (ho : o ≤ tok.length) :
    Agrees (composeAt positive sig e (i + o)) i (composeAt positive sig e (i' + o)) i' tok.length := by
  intro a j h
  unfold composeAt at h ⊢
  cases hx : Decimal.scaleByTen positive sig e with
  | none => rw [hx] at h; cases h
  | some x =>
    rw [hx] at h
    cases h
    exact ⟨o, rfl, ho, rfl⟩

theorem integerEnd_agrees {positive : Bool} {sig : Nat} {e : Int} {exact : Bool} {o : Nat}
    (ho : o ≤ tok.length) :
    Agrees (integerEnd positive sig e exact (i + o)) i
      (integerEnd positive sig e exact (i' + o)) i' tok.length := by
  intro a j h
  unfold integerEnd at h ⊢
  split at h
  · rw [if_pos ‹_›]
    exact composeAt_agrees ho a j h
  · rw [if_neg ‹_›]
    split at h
    · rw [if_pos ‹_›]
      cases h
      exact ⟨o, rfl, ho, rfl⟩
    · rw [if_neg ‹_›]
      split at h <;> rename_i hs
      · rw [if_pos hs]
        cases h
        exact ⟨o, rfl, ho, rfl⟩
      · rw [if_neg hs]
        cases h
        exact ⟨o, rfl, ho, rfl⟩

theorem exponentDigits_window (w : NumberWindow bytes i tok) (w' : NumberWindow bytes' i' tok)
    {positive : Bool} {sig : Nat} {start : Int} {ep : Bool} {p : Nat} (hp : p ≤ tok.length) :
    Agrees (exponentDigits bytes positive sig start ep (i + p)) i
      (exponentDigits bytes' positive sig start ep (i' + p)) i' tok.length := by
  intro a j h
  unfold exponentDigits at h ⊢
  rcases w.cases w' hp with ⟨hlt, hb, hb'⟩ | ⟨rfl, hs, -⟩
  · rw [hb] at h
    rw [hb']
    dsimp only at h ⊢
    by_cases hd : isDigitByte tok[p] = true
    · rw [if_neg (by simp [hd])] at h
      rw [if_neg (by simp [hd])]
      obtain ⟨m, hpm, hm, he, he'⟩ := digitEnd_window w w' _ p (Nat.le_refl _) hp
      rw [he, digitValues_window w hpm hm] at h
      rw [he', digitValues_window w' hpm hm]
      generalize exponentDigits.gatherExponent _ = g at h ⊢
      obtain ⟨e, rest⟩ := g
      dsimp only at h ⊢
      split at h
      · rw [if_pos ‹_›]
        exact composeAt_agrees hm a j h
      · rw [if_neg ‹_›]
        split at h
        · cases h
        · rw [if_neg ‹_›]
          cases h
          exact ⟨m, rfl, hm, rfl⟩
    · simp [hd] at h
  · cases hx : bytes[i + tok.length]? with
    | none => rw [hx] at h; cases h
    | some c =>
      rw [hx] at h
      simp [isDigitByte_of_not_number (hs c hx)] at h

end Window

theorem exponentPart_of_byte {bytes : ByteArray} {positive : Bool} {sig : Nat} {start : Int}
    {i : Nat} {b : UInt8} (h : bytes[i + 1]? = some b) :
    exponentPart bytes positive sig start i =
      if b = 43 then exponentDigits bytes positive sig start true (i + 2)
      else if b = 45 then exponentDigits bytes positive sig start false (i + 2)
      else exponentDigits bytes positive sig start true (i + 1) := by
  unfold exponentPart
  rw [h]
  by_cases h43 : b = 43
  · subst h43; rfl
  · by_cases h45 : b = 45
    · subst h45; rfl
    · simp [h43, h45]

theorem exponentPart_of_stop {bytes : ByteArray} {positive : Bool} {sig : Nat} {start : Int}
    {i : Nat} (h : ∀ b ∈ bytes[i + 1]?, isNumberByte b = false) :
    exponentPart bytes positive sig start i = exponentDigits bytes positive sig start true (i + 1) := by
  cases hb : bytes[i + 1]? with
  | none => unfold exponentPart; rw [hb]
  | some b =>
    have hn := h b hb
    rw [exponentPart_of_byte hb, if_neg (by rintro rfl; exact absurd hn (by decide)),
      if_neg (by rintro rfl; exact absurd hn (by decide))]

section Window

variable {bytes bytes' : ByteArray} {i i' : Nat} {tok : List UInt8}

theorem exponentPart_window (w : NumberWindow bytes i tok) (w' : NumberWindow bytes' i' tok)
    {positive : Bool} {sig : Nat} {start : Int} {o : Nat} (ho : o < tok.length) :
    Agrees (exponentPart bytes positive sig start (i + o)) i
      (exponentPart bytes' positive sig start (i' + o)) i' tok.length := by
  intro a j h
  have unsigned : Agrees (exponentDigits bytes positive sig start true (i + o + 1)) i
      (exponentDigits bytes' positive sig start true (i' + o + 1)) i' tok.length := by
    rw [Nat.add_assoc, Nat.add_assoc]
    exact exponentDigits_window w w' (by omega)
  rcases w.cases w' (o := o + 1) (by omega) with ⟨hlt, hb, hb'⟩ | ⟨-, hs, hs'⟩
  · -- a sign is a number byte, so the digits after it start within the token
    have signed : ∀ ep, Agrees (exponentDigits bytes positive sig start ep (i + o + 2)) i
        (exponentDigits bytes' positive sig start ep (i' + o + 2)) i' tok.length := by
      intro ep
      rw [show i + o + 2 = i + (o + 2) by omega, show i' + o + 2 = i' + (o + 2) by omega]
      exact exponentDigits_window w w' (by omega)
    rw [← Nat.add_assoc] at hb hb'
    rw [exponentPart_of_byte hb] at h
    rw [exponentPart_of_byte hb']
    split at h
    · rw [if_pos ‹_›]
      exact signed _ a j h
    · rw [if_neg ‹_›]
      split at h
      · rw [if_pos ‹_›]
        exact signed _ a j h
      · rw [if_neg ‹_›]
        exact unsigned a j h
  · rw [← Nat.add_assoc] at hs hs'
    rw [exponentPart_of_stop hs] at h
    rw [exponentPart_of_stop hs']
    exact unsigned a j h

theorem NumberWindow.byteOrNul_cases (w : NumberWindow bytes i tok)
    (w' : NumberWindow bytes' i' tok) {m : Nat} (hm : m ≤ tok.length) :
    (∃ h : m < tok.length, byteOrNul bytes (i + m) = tok[m] ∧ byteOrNul bytes' (i' + m) = tok[m]) ∨
    (m = tok.length ∧ isNumberByte (byteOrNul bytes (i + m)) = false ∧
      isNumberByte (byteOrNul bytes' (i' + m)) = false) := by
  have stop : ∀ {x : ByteArray} {k : Nat}, (∀ b ∈ x[k]?, isNumberByte b = false) →
      isNumberByte (byteOrNul x k) = false := by
    intro x k hx
    unfold byteOrNul
    cases hk : x[k]? with
    | none => rfl
    | some b => exact hx b hk
  rcases w.cases w' hm with ⟨hlt, hb, hb'⟩ | ⟨heq, hs, hs'⟩
  · exact .inl ⟨hlt, by rw [byteOrNul, hb]; rfl, by rw [byteOrNul, hb']; rfl⟩
  · exact .inr ⟨heq, stop hs, stop hs'⟩

theorem exponentMark_of_stop {c : UInt8} (h : isNumberByte c = false) :
    ¬ (c == 101 || c == 69) = true := by
  intro hc
  simp only [Bool.or_eq_true, beq_iff_eq] at hc
  rcases hc with rfl | rfl <;> exact absurd h (by decide)

theorem fractionPart_window (w : NumberWindow bytes i tok) (w' : NumberWindow bytes' i' tok)
    {positive : Bool} {sig : Nat} {e : Int} {o : Nat} (ho : o < tok.length) :
    Agrees (fractionPart bytes positive sig e (i + o)) i
      (fractionPart bytes' positive sig e (i' + o)) i' tok.length := by
  intro a j h
  unfold fractionPart at h ⊢
  dsimp only at h ⊢
  obtain ⟨m, hm1, hm, he, he'⟩ := digitEnd_window w w' _ (o + 1) (Nat.le_refl _) (by omega)
  rw [show i + o + 1 = i + (o + 1) by omega, he, digitValues_window w hm1 hm] at h
  rw [show i' + o + 1 = i' + (o + 1) by omega, he', digitValues_window w' hm1 hm]
  split at h
  · cases h
  rw [if_neg ‹_›]
  rcases w.byteOrNul_cases w' hm with ⟨hlt, hc, hc'⟩ | ⟨-, hs, hs'⟩
  · rw [hc] at h
    rw [hc']
    split at h
    · rw [if_pos ‹_›]
      exact exponentPart_window w w' hlt a j h
    · rw [if_neg ‹_›]
      exact composeAt_agrees hm a j h
  · rw [if_neg (exponentMark_of_stop hs)] at h
    rw [if_neg (exponentMark_of_stop hs')]
    exact composeAt_agrees hm a j h

end Window

theorem afterInteger_of_byte {bytes : ByteArray} {positive : Bool} {sig : Nat} {e : Int}
    {exact : Bool} {j : Nat} {b : UInt8} (h : bytes[j]? = some b) :
    afterInteger bytes positive sig e exact j =
      if b = 46 then fractionPart bytes positive sig e j
      else if b = 101 ∨ b = 69 then exponentPart bytes positive sig e j
      else integerEnd positive sig e exact j := by
  unfold afterInteger
  rw [h]
  by_cases h46 : b = 46
  · subst h46; rfl
  · by_cases h101 : b = 101
    · subst h101; rfl
    · by_cases h69 : b = 69
      · subst h69; rfl
      · simp [h46, h101, h69]

theorem afterInteger_of_stop {bytes : ByteArray} {positive : Bool} {sig : Nat} {e : Int}
    {exact : Bool} {j : Nat} (h : ∀ b ∈ bytes[j]?, isNumberByte b = false) :
    afterInteger bytes positive sig e exact j = integerEnd positive sig e exact j := by
  cases hb : bytes[j]? with
  | none => unfold afterInteger; rw [hb]
  | some b =>
    have hn := h b hb
    rw [afterInteger_of_byte hb, if_neg (by rintro rfl; exact absurd hn (by decide)),
      if_neg (by rintro (rfl | rfl) <;> exact absurd hn (by decide))]

section Window

variable {bytes bytes' : ByteArray} {i i' : Nat} {tok : List UInt8}

theorem afterInteger_window (w : NumberWindow bytes i tok) (w' : NumberWindow bytes' i' tok)
    {positive : Bool} {sig : Nat} {e : Int} {exact : Bool} {o : Nat} (ho : o ≤ tok.length) :
    Agrees (afterInteger bytes positive sig e exact (i + o)) i
      (afterInteger bytes' positive sig e exact (i' + o)) i' tok.length := by
  intro a j h
  rcases w.cases w' ho with ⟨hlt, hb, hb'⟩ | ⟨-, hs, hs'⟩
  · rw [afterInteger_of_byte hb] at h
    rw [afterInteger_of_byte hb']
    split at h
    · rw [if_pos ‹_›]
      exact fractionPart_window w w' hlt a j h
    · rw [if_neg ‹_›]
      split at h
      · rw [if_pos ‹_›]
        exact exponentPart_window w w' hlt a j h
      · rw [if_neg ‹_›]
        exact integerEnd_agrees ho a j h
  · rw [afterInteger_of_stop hs] at h
    rw [afterInteger_of_stop hs']
    exact integerEnd_agrees ho a j h

theorem numberAt_window (w : NumberWindow bytes i tok) (w' : NumberWindow bytes' i' tok)
    (positive : Bool) :
    Agrees (numberAt bytes positive i) i (numberAt bytes' positive i') i' tok.length := by
  intro a j h
  unfold numberAt at h ⊢
  rcases w.cases w' (o := 0) (Nat.zero_le _) with ⟨hlt, hb, hb'⟩ | ⟨-, hs, -⟩
  · rw [Nat.add_zero] at hb hb'
    rw [hb] at h
    rw [hb']
    dsimp only at h ⊢
    by_cases h48 : tok[0] = 48
    · -- a leading zero: no digit may follow it
      rw [if_pos (by rw [h48]; rfl)] at h ⊢
      rcases w.byteOrNul_cases w' (m := 1) (by omega) with ⟨h1, hc, hc'⟩ | ⟨-, hs, hs'⟩
      · rw [hc] at h
        rw [hc']
        split at h
        · cases h
        · rw [if_neg ‹_›]
          exact afterInteger_window w w' (o := 1) (by omega) a j h
      · rw [if_neg (by rw [isDigitByte_of_not_number hs]; decide)] at h
        rw [if_neg (by rw [isDigitByte_of_not_number hs']; decide)]
        exact afterInteger_window w w' (o := 1) (by omega) a j h
    · rw [if_neg (by simpa using h48)] at h ⊢
      split at h
      · rw [if_pos ‹_›]
        obtain ⟨m, -, hm, he, he'⟩ := digitEnd_window w w' _ 0 (Nat.le_refl _) (Nat.zero_le _)
        have hv := digitValues_window w (o := 0) (Nat.zero_le m) hm
        have hv' := digitValues_window w' (o := 0) (Nat.zero_le m) hm
        rw [Nat.add_zero] at he he' hv hv'
        rw [he, hv] at h
        rw [he', hv']
        exact afterInteger_window w w' hm a j h
      · cases h
  · -- no number starts with a byte that no number holds
    rw [Nat.add_zero] at hs
    cases hx : bytes[i]? with
    | none => rw [hx] at h; cases h
    | some c =>
      have hc := hs c hx
      rw [hx] at h
      dsimp only at h
      rw [if_neg (by rintro h48; rw [beq_iff_eq] at h48; subst h48; exact absurd hc (by decide)),
        if_neg (by rw [isDigitByte_of_not_number hc]; decide)] at h
      cases h

end Window

def digitBytes (n : Nat) : List UInt8 := (Nat.toDigits 10 n).map fun c => UInt8.ofNat c.toNat

theorem flatMap_utf8EncodeChar_ascii : ∀ {l : List Char}, (∀ c ∈ l, c.toNat < 0x80) →
    l.flatMap String.utf8EncodeChar = l.map fun c => UInt8.ofNat c.toNat
  | [], _ => rfl
  | c :: l, h => by
    rw [List.flatMap_cons, List.map_cons, utf8EncodeChar_ascii (h c List.mem_cons_self),
      flatMap_utf8EncodeChar_ascii fun d hd => h d (List.mem_cons_of_mem _ hd)]
    rfl

theorem toUTF8_toString (n : Nat) : (toString n).toUTF8.data.toList = digitBytes n := by
  rw [toUTF8_data, Nat.toString_eq_repr, Nat.toList_repr, digitBytes, flatMap_utf8EncodeChar_ascii]
  intro c hc
  have hd := Char.isDigit_iff_toNat.1 (Nat.isDigit_of_mem_toDigits (by decide) (by decide) hc)
  simp only [Char.reduceToNat] at hd
  omega

theorem gatherDigits_digits : ∀ (cs : List Char) (sig : Nat),
    Nat.ofDigitChars 10 cs sig ≤ significandLimit →
    gatherDigits sig (cs.map fun c => c.toNat - 48) = (Nat.ofDigitChars 10 cs sig, [])
  | [], sig, _ => by simp [gatherDigits]
  | c :: cs, sig, h => by
    rw [Nat.ofDigitChars_cons] at h
    have hle : 10 * sig + (c.toNat - '0'.toNat) ≤ Nat.ofDigitChars 10 cs (10 * sig + (c.toNat - '0'.toNat)) := by
      rw [Nat.ofDigitChars_eq_ofDigitChars_zero]
      have : 1 ≤ 10 ^ cs.length := Nat.one_le_pow _ _ (by decide)
      calc 10 * sig + (c.toNat - '0'.toNat) ≤ 10 ^ cs.length * (10 * sig + (c.toNat - '0'.toNat)) :=
            Nat.le_mul_of_pos_left _ this
        _ ≤ _ := Nat.le_add_right _ _
    simp only [List.map_cons, gatherDigits]
    rw [if_neg (by simp only [Char.reduceToNat] at hle h; omega), Nat.ofDigitChars_cons]
    simp only [Char.reduceToNat] at h ⊢
    rw [Nat.mul_comm sig 10]
    exact gatherDigits_digits cs _ h

theorem digitChar_bounds {n : Nat} {c : Char} (hc : c ∈ Nat.toDigits 10 n) :
    48 ≤ c.toNat ∧ c.toNat ≤ 57 := by
  have hd := Char.isDigit_iff_toNat.1 (Nat.isDigit_of_mem_toDigits (by decide) (by decide) hc)
  simp only [Char.reduceToNat] at hd
  exact hd

theorem isDigitByte_of_mem_digitBytes {n : Nat} {b : UInt8} (hb : b ∈ digitBytes n) :
    isDigitByte b = true := by
  obtain ⟨c, hc, rfl⟩ := List.mem_map.1 hb
  have hd := digitChar_bounds hc
  simp only [isDigitByte, Bool.and_eq_true, decide_eq_true_eq, UInt8.le_iff_toNat_le,
    UInt8.toNat_ofNat', UInt8.reduceToNat]
  omega

theorem digitValues_digitBytes (n : Nat) :
    (digitBytes n).map (fun b => (b - 48).toNat) = (Nat.toDigits 10 n).map fun c => c.toNat - 48 := by
  rw [digitBytes, List.map_map]
  refine List.map_congr_left fun c hc => ?_
  have hd := digitChar_bounds hc
  simp only [Function.comp_apply]
  rw [UInt8.toNat_sub_of_le _ _ (by rw [UInt8.le_iff_toNat_le, UInt8.toNat_ofNat']; simp; omega),
    UInt8.toNat_ofNat']
  simp
  omega

theorem digitEnd_of_digits {bytes : ByteArray} :
    ∀ (ds : List UInt8) (i : Nat) (rest : List UInt8), bytes.data.toList.drop i = ds ++ rest →
      (∀ b ∈ ds, isDigitByte b = true) → (∀ b ∈ rest.head?, isNumberByte b = false) →
      digitEnd bytes i = i + ds.length
  | [], i, rest, h, _, hstop => by
    rw [List.nil_append] at h
    rw [List.length_nil, Nat.add_zero]
    refine digitEnd_of_stop fun b hb => hstop b ?_
    have h0 := getElem?_add_of_drop h 0
    rw [Nat.add_zero] at h0
    rwa [h0, ← List.head?_eq_getElem?] at hb
  | d :: ds, i, rest, h, hds, hstop => by
    rw [List.cons_append] at h
    rw [digitEnd_of_getElem? (getElem?_of_drop h), if_pos (hds d List.mem_cons_self),
      digitEnd_of_digits ds (i + 1) rest (drop_succ_of_drop h)
        (fun b hb => hds b (List.mem_cons_of_mem _ hb)) hstop, List.length_cons]
    omega

theorem toDigits_ne_zero_cons {n : Nat} (hn : 0 < n) (cs : List Char) :
    Nat.toDigits 10 n ≠ '0' :: cs := by
  induction n using Nat.strongRecOn generalizing cs with
  | _ n ih =>
    rw [Nat.toDigits_eq_if (by decide)]
    split
    · rename_i hlt
      have key : ∀ m < 10, 0 < m → m.digitChar ≠ '0' := by decide
      intro h
      exact key n hlt hn (List.cons.inj h).1
    · rename_i hge
      obtain ⟨d, ds, hds⟩ := List.exists_cons_of_ne_nil (Nat.toDigits_ne_nil (b := 10) (n := n / 10))
      rw [hds, List.cons_append]
      intro h
      rw [(List.cons.inj h).1] at hds
      exact ih (n / 10) (by omega) (by omega) ds hds

theorem numberAt_digits {bytes : ByteArray} {i n : Nat} {rest : List UInt8} (positive : Bool)
    (h : bytes.data.toList.drop i = digitBytes n ++ rest)
    (hstop : ∀ b ∈ rest.head?, isNumberByte b = false) (hn : n ≤ significandLimit) :
    numberAt bytes positive i = integerEnd positive n 0 true (i + (digitBytes n).length) := by
  have w : NumberWindow bytes i (digitBytes n) := ⟨rest, h, hstop⟩
  have hend := @afterInteger_of_stop bytes positive n 0 true _ w.getElem?_end
  obtain ⟨c, cs, hcs⟩ := List.exists_cons_of_ne_nil (Nat.toDigits_ne_nil (b := 10) (n := n))
  have hfirst : bytes[i]? = some (UInt8.ofNat c.toNat) := by
    rw [digitBytes, hcs, List.map_cons, List.cons_append] at h
    exact getElem?_of_drop h
  have hc := digitChar_bounds (n := n) (c := c) (by rw [hcs]; exact List.mem_cons_self)
  unfold numberAt
  rw [hfirst]
  dsimp only
  by_cases h0 : n = 0
  · -- a lone zero
    subst h0
    obtain rfl : c = '0' := by
      rw [Nat.toDigits_zero] at hcs
      exact (List.cons.inj hcs).1.symm
    have hlen : (digitBytes 0).length = 1 := by decide
    rw [hlen] at hend ⊢
    rw [if_pos (by decide)]
    rcases w.byteOrNul_cases w (m := 1) (Nat.le_of_eq hlen.symm) with ⟨h1, -⟩ | ⟨-, hs, -⟩
    · rw [hlen] at h1; omega
    · rw [if_neg (by rw [isDigitByte_of_not_number hs]; decide)]
      exact hend
  · -- a leading digit other than zero, then the rest of the run
    have hc0 : c ≠ '0' := by
      rintro rfl
      exact toDigits_ne_zero_cons (Nat.pos_of_ne_zero h0) cs hcs
    have hc48 : c.toNat ≠ 48 := fun h48 => hc0 (by rw [← Char.ofNat_toNat c, h48])
    have hbyte : (UInt8.ofNat c.toNat).toNat = c.toNat := by
      rw [UInt8.toNat_ofNat']
      omega
    rw [if_neg (by
      rw [beq_iff_eq]
      intro h48
      have := congrArg UInt8.toNat h48
      rw [hbyte] at this
      exact hc48 this)]
    rw [if_pos (isDigitByte_of_mem_digitBytes (by rw [digitBytes, hcs]; exact List.mem_cons_self))]
    have hvals := digitValues_window w (o := 0) (Nat.zero_le _) (Nat.le_refl _)
    rw [Nat.add_zero, List.drop_zero, Nat.sub_zero, List.take_length, digitValues_digitBytes] at hvals
    rw [digitEnd_of_digits _ i rest h (fun b hb => isDigitByte_of_mem_digitBytes hb) hstop, hvals,
      gatherDigits_digits _ 0 (by rw [Nat.ofDigitChars_ten_toDigits]; exact hn),
      Nat.ofDigitChars_ten_toDigits]
    exact hend

def isNumberChar (c : Char) : Bool :=
  c.isDigit || c == '.' || c == 'e' || c == 'E' || c == '+' || c == '-'

theorem isNumberChar_of_mem_digitsOf {n : Nat} {c : Char} (hc : c ∈ Decimal.digitsOf n) :
    isNumberChar c = true := by
  simp [isNumberChar, Nat.isDigit_of_mem_toDigits (by decide) (by decide) hc]

theorem isNumberChar_of_mem_zeros {n : Nat} {c : Char} (hc : c ∈ Decimal.zeros n) :
    isNumberChar c = true := by
  rw [Decimal.zeros, List.mem_replicate] at hc
  rw [hc.2]
  decide

theorem mem_ite_cases {α : Type} {p : Prop} [Decidable p] {a b : List α} {x : α}
    (h : x ∈ (if p then a else b)) : x ∈ a ∨ x ∈ b := by
  by_cases hp : p
  · exact .inl (by rwa [if_pos hp] at h)
  · exact .inr (by rwa [if_neg hp] at h)

theorem renderDigits_chars (layout : Decimal.Layout) (s : Decimal.Shortest) :
    ∀ c ∈ layout.renderDigits s, isNumberChar c = true := by
  intro c hc
  unfold Decimal.Layout.renderDigits at hc
  dsimp only at hc
  rcases mem_ite_cases hc with hc | hc
  · -- positional notation
    rcases mem_ite_cases hc with hc | hc
    · simp only [List.mem_append, List.mem_cons, List.not_mem_nil, or_false] at hc
      rcases hc with (hc | hc) | rfl | rfl
      · exact isNumberChar_of_mem_digitsOf hc
      · exact isNumberChar_of_mem_zeros hc
      · decide
      · decide
    rcases mem_ite_cases hc with hc | hc
    · simp only [List.mem_append, List.mem_cons] at hc
      rcases hc with hc | rfl | hc
      · exact isNumberChar_of_mem_digitsOf (List.mem_of_mem_take hc)
      · decide
      · exact isNumberChar_of_mem_digitsOf (List.mem_of_mem_drop hc)
    · simp only [List.mem_cons, List.mem_append] at hc
      rcases hc with (rfl | rfl | hc) | hc
      · decide
      · decide
      · exact isNumberChar_of_mem_zeros hc
      · exact isNumberChar_of_mem_digitsOf hc
  · -- scientific notation
    simp only [List.mem_append] at hc
    rcases hc with (hc | hc) | hc
    · split at hc
      · rename_i d hds
        rw [List.mem_singleton] at hc
        subst hc
        exact isNumberChar_of_mem_digitsOf (by rw [hds]; exact List.mem_cons_self)
      · rename_i d rest _ hds
        rcases List.mem_cons.1 hc with rfl | hc
        · exact isNumberChar_of_mem_digitsOf (by rw [hds]; exact List.mem_cons_self)
        rcases List.mem_cons.1 hc with rfl | hc
        · decide
        · exact isNumberChar_of_mem_digitsOf (by rw [hds]; exact List.mem_cons_of_mem _ hc)
      · simp at hc
    · rcases mem_ite_cases hc with hc | hc
      · simp only [List.mem_cons, List.not_mem_nil, or_false] at hc
        rcases hc with rfl | rfl <;> decide
      rcases mem_ite_cases hc with hc | hc
      · simp only [List.mem_cons, List.not_mem_nil, or_false] at hc
        rcases hc with rfl | rfl <;> decide
      · simp only [List.mem_cons, List.not_mem_nil, or_false] at hc
        rw [hc]
        decide
    · exact isNumberChar_of_mem_digitsOf hc

theorem sign_chars (b : Bool) : ∀ c ∈ (if b then "-" else "").toList, isNumberChar c = true := by
  apply List.all_eq_true.1
  cases b <;> decide

theorem render_chars (x : Float) :
    ∀ c ∈ (Decimal.Layout.json.render x).toList, isNumberChar c = true := by
  intro c hc
  unfold Decimal.Layout.render at hc
  dsimp only at hc
  rcases mem_ite_cases (by rwa [apply_ite String.toList] at hc) with hc | hc <;>
    rw [String.toList_append] at hc <;> rcases List.mem_append.1 hc with hc | hc
  · exact sign_chars _ c hc
  · exact List.all_eq_true.1 (by decide : "0.0".toList.all isNumberChar = true) c hc
  · exact sign_chars _ c hc
  · rw [String.toList_ofList] at hc
    exact renderDigits_chars _ _ c hc

theorem isNumberByte_of_char {c : Char} (h : isNumberChar c = true) :
    c.toNat < 0x80 ∧ isNumberByte (UInt8.ofNat c.toNat) = true := by
  simp only [isNumberChar, Bool.or_eq_true, beq_iff_eq] at h
  rcases h with ((((hd | rfl) | rfl) | rfl) | rfl) | rfl
  · have hb := Char.isDigit_iff_toNat.1 hd
    simp only [Char.reduceToNat] at hb
    refine ⟨by omega, ?_⟩
    simp only [isNumberByte, isDigitByte, Bool.or_eq_true, Bool.and_eq_true, decide_eq_true_eq,
      UInt8.le_iff_toNat_le, UInt8.toNat_ofNat', UInt8.reduceToNat]
    left; left; left; left; left
    omega
  all_goals decide

theorem render_bytes (x : Float) :
    ∀ b ∈ (Decimal.Layout.json.render x).toUTF8.data.toList, isNumberByte b = true := by
  intro b hb
  rw [toUTF8_data, flatMap_utf8EncodeChar_ascii fun c hc => (isNumberByte_of_char
    (render_chars x c hc)).1] at hb
  obtain ⟨c, hc, rfl⟩ := List.mem_map.1 hb
  exact (isNumberByte_of_char (render_chars x c hc)).2

theorem renderDigits_head (layout : Decimal.Layout) (s : Decimal.Shortest) :
    ∃ c, (layout.renderDigits s).head? = some c ∧ c.isDigit = true := by
  obtain ⟨d, ds, hds⟩ := List.exists_cons_of_ne_nil
    (Nat.toDigits_ne_nil (b := 10) (n := s.digits))
  have hd : d.isDigit = true := Nat.isDigit_of_mem_toDigits (b := 10) (n := s.digits)
    (by decide) (by decide) (by rw [hds]; exact List.mem_cons_self)
  unfold Decimal.Layout.renderDigits
  simp only [Decimal.digitsOf, hds]
  split_ifs with hpos hexp hpoint
  · exact ⟨d, rfl, hd⟩
  · obtain ⟨k, hk⟩ : ∃ k, (↑(d :: ds).length + s.exponent).toNat = k + 1 :=
      ⟨(↑(d :: ds).length + s.exponent).toNat - 1, by omega⟩
    rw [hk]
    exact ⟨d, rfl, hd⟩
  · exact ⟨'0', rfl, by decide⟩
  -- scientific notation: the mantissa's first digit, whatever the exponent's mark
  all_goals cases ds <;> exact ⟨d, rfl, hd⟩

theorem render_bytes_head (x : Float) :
    ∃ b t, (Decimal.Layout.json.render x).toUTF8.data.toList = b :: t ∧
      (b = 45 ∨ isDigitByte b = true) := by
  rw [toUTF8_data]
  unfold Decimal.Layout.render
  dsimp only
  cases (Decimal.BinaryParts.ofFloat x).negative
  · simp only [Bool.false_eq_true, if_false, String.empty_append]
    split
    · have hzero : List.flatMap String.utf8EncodeChar "0.0".toList = [48, 46, 48] := by decide
      exact ⟨48, _, hzero, .inr (by decide)⟩
    · obtain ⟨c, hc, hd⟩ := renderDigits_head Decimal.Layout.json
        (Decimal.shortestOf (Decimal.BinaryParts.ofFloat x).mantissa
          (Decimal.BinaryParts.ofFloat x).exponent)
      obtain ⟨cs, hcs⟩ : ∃ cs, Decimal.Layout.json.renderDigits (Decimal.shortestOf
          (Decimal.BinaryParts.ofFloat x).mantissa (Decimal.BinaryParts.ofFloat x).exponent) =
          c :: cs :=
        List.head?_eq_some_iff.1 hc
      rw [String.toList_ofList, hcs, List.flatMap_cons,
        utf8EncodeChar_ascii (isNumberByte_of_char (by simp [isNumberChar, hd])).1]
      refine ⟨_, _, rfl, .inr ?_⟩
      have hb := Char.isDigit_iff_toNat.1 hd
      simp only [Char.reduceToNat] at hb
      simp only [isDigitByte, Bool.and_eq_true, decide_eq_true_eq, UInt8.le_iff_toNat_le,
        UInt8.toNat_ofNat', UInt8.reduceToNat]
      omega
  · have hminus : List.flatMap String.utf8EncodeChar "-".toList = [45] := by decide
    simp only [if_true]
    split <;> rw [String.toList_append, List.flatMap_append, hminus] <;>
      exact ⟨45, _, rfl, .inl rfl⟩

end TurnLedger.Json
