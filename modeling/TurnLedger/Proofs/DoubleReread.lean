import Mathlib
import TurnLedger.Proofs.DecimalScale
import TurnLedger.Proofs.ShortestDigits
import TurnLedger.Proofs.RecordText

/-!
# The text of a double reads back

The writer lays out a finite double's shortest digits positionally or in scientific notation,
and the reader gathers those digits into a significand of 64 bits and composes it with a power
of ten. Every such text reads back as a double (`costReread_isSome`): a positional text, and a
scientific one with a negative exponent, compose with an exponent at most zero, which never
overflows; one with a positive exponent composes a decimal no larger than the shortest digits,
which lie within half a unit of the double (`shortestOf_bound`) and so leave room for the
rounding of the reader's product (`Composable`), but for the two largest mantissas of the top
binade, whose texts are read as they are.

So a storable record with a finite cost reads back from its JSON text
(`Record.ofJsonText_toJson_ok`).
-/

namespace TurnLedger.Json

open Decimal

def asciiBytes (cs : List Char) : List UInt8 := cs.map fun c => UInt8.ofNat c.toNat

@[simp] theorem asciiBytes_nil : asciiBytes [] = [] := rfl

@[simp] theorem asciiBytes_cons (c : Char) (cs : List Char) :
    asciiBytes (c :: cs) = UInt8.ofNat c.toNat :: asciiBytes cs := rfl

@[simp] theorem asciiBytes_append (cs ds : List Char) :
    asciiBytes (cs ++ ds) = asciiBytes cs ++ asciiBytes ds := List.map_append

@[simp] theorem length_asciiBytes (cs : List Char) : (asciiBytes cs).length = cs.length :=
  List.length_map _

theorem toNat_of_isDigit {c : Char} (h : c.isDigit = true) : 48 ≤ c.toNat ∧ c.toNat ≤ 57 := by
  have hd := Char.isDigit_iff_toNat.1 h
  simp only [Char.reduceToNat] at hd
  exact hd

theorem isDigitByte_of_isDigit {c : Char} (h : c.isDigit = true) :
    isDigitByte (UInt8.ofNat c.toNat) = true := by
  have hd := toNat_of_isDigit h
  simp only [isDigitByte, Bool.and_eq_true, decide_eq_true_eq, UInt8.le_iff_toNat_le,
    UInt8.toNat_ofNat', UInt8.reduceToNat]
  omega

theorem digitValue_of_isDigit {c : Char} (h : c.isDigit = true) :
    (UInt8.ofNat c.toNat - 48).toNat = c.toNat - 48 := by
  have hd := toNat_of_isDigit h
  rw [UInt8.toNat_sub_of_le _ _ (by rw [UInt8.le_iff_toNat_le, UInt8.toNat_ofNat']; simp; omega),
    UInt8.toNat_ofNat']
  simp
  omega

theorem ofDigitChars_lt : ∀ {cs : List Char}, (∀ c ∈ cs, c.isDigit = true) →
    Nat.ofDigitChars 10 cs 0 < 10 ^ cs.length
  | [], _ => by simp
  | c :: cs, h => by
    have hc := toNat_of_isDigit (h c List.mem_cons_self)
    have ih := ofDigitChars_lt fun d hd => h d (List.mem_cons_of_mem _ hd)
    rw [Nat.ofDigitChars_cons, Nat.ofDigitChars_eq_ofDigitChars_zero, List.length_cons]
    simp only [Char.reduceToNat, Nat.mul_zero, Nat.zero_add]
    calc 10 ^ cs.length * (c.toNat - 48) + Nat.ofDigitChars 10 cs 0
        < 10 ^ cs.length * (c.toNat - 48) + 10 ^ cs.length := by omega
      _ = 10 ^ cs.length * (c.toNat - 48 + 1) := by ring
      _ ≤ 10 ^ cs.length * 10 := Nat.mul_le_mul_left _ (by omega)
      _ = 10 ^ (cs.length + 1) := (Nat.pow_succ _ _).symm

/-- What `gatherDigits` keeps: a significand within the limit, no smaller than the one it
started from, that scaled by ten for each digit left over is at most the value of all the
digits. -/
theorem gatherDigits_le : ∀ (cs : List Char) (sig : Nat), sig ≤ significandLimit →
    sig ≤ (gatherDigits sig (cs.map fun c => c.toNat - 48)).1 ∧
      (gatherDigits sig (cs.map fun c => c.toNat - 48)).1 ≤ significandLimit ∧
      (gatherDigits sig (cs.map fun c => c.toNat - 48)).2.length ≤ cs.length ∧
      (gatherDigits sig (cs.map fun c => c.toNat - 48)).1 *
          10 ^ (gatherDigits sig (cs.map fun c => c.toNat - 48)).2.length ≤
        Nat.ofDigitChars 10 cs sig
  | [], sig, h => by simp [gatherDigits, h]
  | c :: cs, sig, h => by
    simp only [List.map_cons, gatherDigits]
    split_ifs with hover
    · -- the first digit does not fit, and every digit is left over
      refine ⟨le_rfl, h, by simp, ?_⟩
      rw [List.length_cons, List.length_map, Nat.ofDigitChars_cons,
        Nat.ofDigitChars_eq_ofDigitChars_zero]
      calc sig * 10 ^ (cs.length + 1) = 10 ^ cs.length * (10 * sig) := by ring
        _ ≤ 10 ^ cs.length * (10 * sig + (c.toNat - '0'.toNat)) :=
          Nat.mul_le_mul_left _ (Nat.le_add_right _ _)
        _ ≤ _ := Nat.le_add_right _ _
    · obtain ⟨h0, h1, h2, h3⟩ := gatherDigits_le cs (sig * 10 + (c.toNat - 48)) (by omega)
      refine ⟨by omega, h1, by rw [List.length_cons]; omega, ?_⟩
      rw [Nat.ofDigitChars_cons, Nat.mul_comm 10 sig]
      exact h3

theorem gatherExponent_snoc {l : List Nat} {e d : Nat}
    (h : exponentDigits.gatherExponent l = (e, [])) (hd : e * 10 + d ≤ exponentLimit) :
    exponentDigits.gatherExponent (l ++ [d]) = (e * 10 + d, []) := by
  unfold exponentDigits.gatherExponent at h ⊢
  rw [List.foldl_append, h]
  simp [hd]

theorem gatherExponent_digits (cs : List Char)
    (h : Nat.ofDigitChars 10 cs 0 ≤ exponentLimit) :
    exponentDigits.gatherExponent (cs.map fun c => c.toNat - 48) =
      (Nat.ofDigitChars 10 cs 0, []) := by
  induction cs using List.reverseRecOn with
  | nil => rfl
  | append_singleton cs c ih =>
    have hval : Nat.ofDigitChars 10 (cs ++ [c]) 0 =
        Nat.ofDigitChars 10 cs 0 * 10 + (c.toNat - 48) := by
      rw [Nat.ofDigitChars_append, Nat.ofDigitChars_cons, Nat.ofDigitChars_nil, Nat.mul_comm]
      rfl
    rw [hval] at h ⊢
    rw [List.map_append, List.map_singleton]
    exact gatherExponent_snoc (ih (by omega)) h

section Runs

variable {bytes : ByteArray} {i : Nat} {cs : List Char} {rest : List UInt8}

theorem byteOrNul_of_drop {j : Nat} {b : UInt8} {l : List UInt8}
    (h : bytes.data.toList.drop j = b :: l) : byteOrNul bytes j = b := by
  rw [byteOrNul, getElem?_of_drop h]
  rfl

theorem byteOrNul_of_drop_nil {j : Nat} (h : bytes.data.toList.drop j = []) :
    byteOrNul bytes j = 0 := by
  have h0 := getElem?_add_of_drop h 0
  rw [Nat.add_zero] at h0
  rw [byteOrNul, h0]
  rfl

theorem digitEnd_of_nondigit {j : Nat} (h : ∀ b ∈ bytes[j]?, isDigitByte b = false) :
    digitEnd bytes j = j := by
  rcases hb : bytes[j]? with _ | b
  · rw [digitEnd, dif_neg]
    intro hj
    rw [getElem?_pos bytes j hj] at hb
    cases hb
  · rw [digitEnd_of_getElem? hb, if_neg (by rw [h b hb]; decide)]

theorem getElem?_of_drop_head {j : Nat} {l : List UInt8} (h : bytes.data.toList.drop j = l) :
    bytes[j]? = l.head? := by
  have h0 := getElem?_add_of_drop h 0
  rwa [Nat.add_zero, ← List.head?_eq_getElem?] at h0

theorem digitEnd_of_run (hcs : ∀ c ∈ cs, c.isDigit = true)
    (hstop : ∀ b ∈ rest.head?, isDigitByte b = false)
    (h : bytes.data.toList.drop i = asciiBytes cs ++ rest) :
    digitEnd bytes i = i + cs.length := by
  induction cs generalizing i with
  | nil =>
    rw [asciiBytes_nil, List.nil_append] at h
    rw [List.length_nil, Nat.add_zero]
    exact digitEnd_of_nondigit (by rw [getElem?_of_drop_head h]; exact hstop)
  | cons c cs ih =>
    rw [asciiBytes_cons, List.cons_append] at h
    rw [digitEnd_of_getElem? (getElem?_of_drop h),
      if_pos (isDigitByte_of_isDigit (hcs c List.mem_cons_self)),
      ih (fun d hd => hcs d (List.mem_cons_of_mem _ hd)) (drop_succ_of_drop h), List.length_cons]
    omega

theorem digitValues_of_run (hcs : ∀ c ∈ cs, c.isDigit = true)
    (h : bytes.data.toList.drop i = asciiBytes cs ++ rest) :
    digitValues bytes i (i + cs.length) = cs.map fun c => c.toNat - 48 := by
  rw [digitValues, toList_extract, h, Nat.add_sub_cancel_left,
    List.take_left' (length_asciiBytes cs), asciiBytes, List.map_map]
  exact List.map_congr_left fun c hc => digitValue_of_isDigit (hcs c hc)

end Runs

section Stages

variable {bytes : ByteArray} {i : Nat} {cs : List Char} {rest : List UInt8}

theorem isDigitByte_byteOrNul {j : Nat} (h : ∀ b ∈ bytes[j]?, isDigitByte b = false) :
    isDigitByte (byteOrNul bytes j) = false := by
  rcases hb : bytes[j]? with _ | b
  · rw [byteOrNul, hb]
    rfl
  · rw [byteOrNul, hb]
    exact h b hb

theorem numberAt_of_zero (positive : Bool) (hstop : ∀ b ∈ rest.head?, isDigitByte b = false)
    (h : bytes.data.toList.drop i = 48 :: rest) :
    numberAt bytes positive i = afterInteger bytes positive 0 0 true (i + 1) := by
  unfold numberAt
  rw [getElem?_of_drop h]
  dsimp only
  rw [if_pos (by decide), if_neg (by rw [isDigitByte_byteOrNul (by
    rw [getElem?_of_drop_head (drop_succ_of_drop h)]; exact hstop)]; decide)]

theorem numberAt_of_run (positive : Bool) {c : Char} {sig : Nat} {left : List Nat}
    (hc : c ≠ '0') (hcs : ∀ d ∈ c :: cs, d.isDigit = true)
    (hstop : ∀ b ∈ rest.head?, isDigitByte b = false)
    (h : bytes.data.toList.drop i = asciiBytes (c :: cs) ++ rest)
    (hg : gatherDigits 0 ((c :: cs).map fun d => d.toNat - 48) = (sig, left)) :
    numberAt bytes positive i =
      afterInteger bytes positive sig left.length left.isEmpty (i + (cs.length + 1)) := by
  have hd := toNat_of_isDigit (hcs c List.mem_cons_self)
  have hfirst : bytes[i]? = some (UInt8.ofNat c.toNat) := by
    rw [getElem?_of_drop_head h]
    rfl
  have hne : UInt8.ofNat c.toNat ≠ 48 := by
    intro h48
    have h48' := congrArg UInt8.toNat h48
    rw [UInt8.toNat_ofNat'] at h48'
    exact hc (by rw [← Char.ofNat_toNat c, show c.toNat = 48 by simp at h48'; omega])
  unfold numberAt
  rw [hfirst]
  dsimp only
  rw [if_neg (by rw [beq_iff_eq]; exact hne),
    if_pos (isDigitByte_of_isDigit (hcs c List.mem_cons_self)), digitEnd_of_run hcs hstop h,
    digitValues_of_run hcs h, hg, List.length_cons]

theorem fractionPart_of_run (positive : Bool) {sig sig' : Nat} {e : Int} {left : List Nat}
    (hcs : ∀ c ∈ cs, c.isDigit = true) (hne : cs ≠ [])
    (hstop : ∀ b ∈ rest.head?, isDigitByte b = false)
    (h : bytes.data.toList.drop (i + 1) = asciiBytes cs ++ rest)
    (hg : gatherDigits sig (cs.map fun c => c.toNat - 48) = (sig', left)) :
    fractionPart bytes positive sig e i =
      if byteOrNul bytes (i + 1 + cs.length) == 101 ||
          byteOrNul bytes (i + 1 + cs.length) == 69 then
        exponentPart bytes positive sig' (e - ((cs.length : Int) - left.length))
          (i + 1 + cs.length)
      else composeAt positive sig' (e - ((cs.length : Int) - left.length)) (i + 1 + cs.length) := by
  unfold fractionPart
  dsimp only
  rw [digitEnd_of_run hcs hstop h, digitValues_of_run hcs h, hg, List.length_map,
    if_neg (by simpa using hne)]

theorem exponentDigits_of_run (positive : Bool) {sig : Nat} {start : Int} (expPositive : Bool)
    {j K : Nat} {left : List Nat} (hcs : ∀ c ∈ cs, c.isDigit = true) (hne : cs ≠ [])
    (h : bytes.data.toList.drop j = asciiBytes cs)
    (hg : exponentDigits.gatherExponent (cs.map fun c => c.toNat - 48) = (K, left)) :
    exponentDigits bytes positive sig start expPositive j =
      if left.isEmpty then
        composeAt positive sig (clampExponent (if expPositive then start + K else start - K))
          (j + cs.length)
      else if sig != 0 && expPositive then
        .error (.numberOutOfRange, .here (j + cs.length - left.length + 1))
      else .ok (.float (if positive then 0.0 else -0.0), j + cs.length) := by
  obtain ⟨c, cs', rfl⟩ := List.exists_cons_of_ne_nil hne
  have h' : bytes.data.toList.drop j = asciiBytes (c :: cs') ++ [] := by rw [List.append_nil, h]
  unfold exponentDigits
  rw [getElem?_of_drop_head h]
  dsimp only [asciiBytes_cons, List.head?_cons]
  rw [if_neg (by rw [isDigitByte_of_isDigit (hcs c List.mem_cons_self)]; decide),
    digitEnd_of_run hcs (by simp) h', digitValues_of_run hcs h', hg]

end Stages

section Layouts

variable {bytes : ByteArray} {i : Nat}

theorem composeAt_ok (positive : Bool) {sig : Nat} {e : Int} (k : Nat)
    (hsig : sig ≤ significandLimit) (h : e ≤ 0 ∨ (0 < sig ∧ Composable sig e)) :
    ∃ y, composeAt positive sig e k = .ok (.float y, k) := by
  have hlim : sig < 2 ^ 64 := by
    have : significandLimit = 2 ^ 64 - 1 := rfl
    omega
  obtain ⟨y, hy⟩ := Option.isSome_iff_exists.1 (scaleByTen_isSome positive hlim h)
  exact ⟨y, by rw [composeAt, hy]⟩

theorem numberAt_positional (positive : Bool) {I F : List Char}
    (hI : ∀ c ∈ I, c.isDigit = true) (hF : ∀ c ∈ F, c.isDigit = true) (hF0 : F ≠ [])
    (hlead : I = ['0'] ∨ ∃ c cs, I = c :: cs ∧ c ≠ '0')
    (hfit : Nat.ofDigitChars 10 I 0 ≤ significandLimit)
    (h : bytes.data.toList.drop i = asciiBytes (I ++ '.' :: F)) :
    ∃ y, numberAt bytes positive i = .ok (.float y, i + I.length + 1 + F.length) := by
  have hsplit : bytes.data.toList.drop i = asciiBytes I ++ 46 :: asciiBytes F := by
    rw [h, asciiBytes_append, asciiBytes_cons]
    rfl
  have hstop : ∀ b ∈ (46 :: asciiBytes F).head?, isDigitByte b = false := by
    intro b hb
    rw [List.head?_cons, Option.mem_some_iff] at hb
    subst hb
    decide
  -- the integer part is read whole
  have hint : numberAt bytes positive i =
      afterInteger bytes positive (Nat.ofDigitChars 10 I 0) 0 true (i + I.length) := by
    rcases hlead with rfl | ⟨c, cs, rfl, hc⟩
    · exact numberAt_of_zero positive hstop hsplit
    · rw [numberAt_of_run positive hc hI hstop hsplit (gatherDigits_digits _ 0 hfit)]
      rfl
  have hpoint := drop_add_of_drop hsplit
  rw [length_asciiBytes] at hpoint
  have hfrac : bytes.data.toList.drop (i + I.length + 1) = asciiBytes F ++ [] := by
    rw [List.append_nil]
    exact drop_succ_of_drop hpoint
  have hend := drop_add_of_drop hfrac
  rw [length_asciiBytes] at hend
  obtain ⟨-, hsig, hleft, -⟩ := gatherDigits_le F _ hfit
  rw [hint, afterInteger_of_byte (getElem?_of_drop hpoint), if_pos rfl,
    fractionPart_of_run positive hF hF0 (by simp) hfrac rfl, byteOrNul_of_drop_nil hend,
    if_neg (by decide)]
  exact composeAt_ok positive _ hsig (.inl (by omega))

/-- An exponent mark at `j`, a sign and the digits of `K` ending the bytes, after a significand
gathered to the exponent `start ≤ 0`: a negative exponent always gives a double, and a positive
one that fits gives the composition at `start + K`. -/
theorem exponentPart_ok (positive ep : Bool) {sig K j : Nat} {start : Int}
    (hsig : sig ≤ significandLimit) (hstart : start ≤ 0)
    (h : bytes.data.toList.drop j =
      101 :: (if ep then 43 else 45) :: asciiBytes (digitsOf K))
    (hK : ep = true → K ≤ exponentLimit ∧
      (start + K ≤ 0 ∨ (0 < sig ∧ Composable sig (start + K)))) :
    ∃ y, exponentPart bytes positive sig start j =
      .ok (.float y, j + 2 + (digitsOf K).length) := by
  have hdigits : ∀ c ∈ digitsOf K, c.isDigit = true := fun c hc =>
    Nat.isDigit_of_mem_toDigits (by decide) (by decide) hc
  have hne : digitsOf K ≠ [] := Nat.toDigits_ne_nil
  have hrun : bytes.data.toList.drop (j + 2) = asciiBytes (digitsOf K) :=
    drop_succ_of_drop (drop_succ_of_drop h)
  have hsign := getElem?_of_drop (drop_succ_of_drop h)
  rw [exponentPart_of_byte hsign]
  cases ep with
  | true =>
    -- a positive exponent is gathered whole and clamps to itself
    obtain ⟨hKle, hc⟩ := hK rfl
    have hval : Nat.ofDigitChars 10 (digitsOf K) 0 = K := Nat.ofDigitChars_ten_toDigits
    have hlimit : exponentLimit = 2 ^ 31 - 1 := rfl
    rw [if_pos (by decide), exponentDigits_of_run positive true hdigits hne hrun
      (gatherExponent_digits _ (by rw [hval]; exact hKle)), hval, if_pos List.isEmpty_nil,
      if_pos rfl]
    by_cases hnp : start + K ≤ 0
    · exact composeAt_ok positive _ hsig (.inl (by unfold clampExponent; omega))
    · have hclamp : clampExponent (start + K) = start + K := by
        unfold clampExponent
        omega
      rw [hclamp]
      exact composeAt_ok positive _ hsig (.inr (hc.resolve_left hnp))
  | false =>
    -- a negative exponent: a composition below zero, or zero when its digits do not fit
    rw [if_neg (by decide), if_pos (by decide)]
    obtain ⟨K', left, hg⟩ : ∃ K' left, exponentDigits.gatherExponent
        ((digitsOf K).map fun c => c.toNat - 48) = (K', left) := ⟨_, _, rfl⟩
    rw [exponentDigits_of_run positive false hdigits hne hrun hg]
    split
    · exact composeAt_ok positive _ hsig (.inl (by unfold clampExponent; simp; omega))
    · rw [if_neg (by simp)]
      exact ⟨_, rfl⟩

/-- A number in scientific notation: one digit other than zero, then a point and the fraction
digits if there are any, then an exponent mark, a sign and the exponent's digits ending the
bytes. It reads as a double when a positive exponent fits and the decimal it writes composes. -/
theorem numberAt_scientific (positive ep : Bool) {d : Char} {F M : List Char} {K : Nat}
    (hd : d.isDigit = true) (hd0 : d ≠ '0') (hF : ∀ c ∈ F, c.isDigit = true)
    (hM : (F = [] ∧ M = [d]) ∨ (F ≠ [] ∧ M = d :: '.' :: F))
    (hK : ep = true → K ≤ exponentLimit ∧
      Composable (Nat.ofDigitChars 10 (d :: F) 0) ((K : Int) - F.length))
    (h : bytes.data.toList.drop i =
      asciiBytes (M ++ 'e' :: (if ep then '+' else '-') :: digitsOf K)) :
    ∃ y, numberAt bytes positive i =
      .ok (.float y, i + M.length + 2 + (digitsOf K).length) := by
  have hsignByte : UInt8.ofNat (if ep then '+' else '-').toNat = if ep then 43 else 45 := by
    cases ep <;> rfl
  have hexp : asciiBytes ('e' :: (if ep then '+' else '-') :: digitsOf K) =
      101 :: (if ep then 43 else 45) :: asciiBytes (digitsOf K) := by
    rw [asciiBytes_cons, asciiBytes_cons, hsignByte]
    rfl
  have hstopE : ∀ b ∈ (101 :: (if ep then 43 else 45) :: asciiBytes (digitsOf K)).head?,
      isDigitByte b = false := by
    intro b hb
    rw [List.head?_cons, Option.mem_some_iff] at hb
    subst hb
    decide
  -- the leading digit is the integer part, read whole
  have hdv : Nat.ofDigitChars 10 [d] 0 = d.toNat - 48 := by
    rw [Nat.ofDigitChars_cons, Nat.ofDigitChars_nil]
    simp
  have hdpos : 0 < d.toNat - 48 := by
    have hb := toNat_of_isDigit hd
    have : d.toNat ≠ 48 := fun h48 => hd0 (by rw [← Char.ofNat_toNat d, h48])
    omega
  have hdfit : Nat.ofDigitChars 10 [d] 0 ≤ significandLimit := by
    have hb := toNat_of_isDigit hd
    have : significandLimit = 2 ^ 64 - 1 := rfl
    omega
  have hdig : ∀ c ∈ [d], c.isDigit = true := by simpa using hd
  rcases hM with ⟨rfl, rfl⟩ | ⟨hF0, rfl⟩
  · -- no fraction: the exponent follows the digit
    rw [List.singleton_append, asciiBytes_cons, hexp] at h
    have hrun : bytes.data.toList.drop i = asciiBytes [d] ++
        101 :: (if ep then 43 else 45) :: asciiBytes (digitsOf K) := by
      rw [asciiBytes_cons, asciiBytes_nil]
      exact h
    have hint := numberAt_of_run positive hd0 hdig hstopE hrun (gatherDigits_digits _ 0 hdfit)
    simp only [List.length_nil, Nat.cast_zero, List.isEmpty_nil, Nat.zero_add] at hint
    rw [hint, afterInteger_of_byte (getElem?_of_drop (drop_succ_of_drop h)), if_neg (by decide),
      if_pos (by decide), hdv]
    obtain ⟨y, hy⟩ := exponentPart_ok positive ep
      (show d.toNat - 48 ≤ significandLimit by rw [← hdv]; exact hdfit)
      (show (0 : Int) ≤ 0 from le_rfl) (drop_succ_of_drop h) (fun hep => by
        obtain ⟨hKle, hc⟩ := hK hep
        rw [Nat.ofDigitChars_cons, Nat.ofDigitChars_nil] at hc
        refine ⟨hKle, .inr ⟨hdpos, ?_⟩⟩
        simpa using hc)
    exact ⟨y, by rw [hy, List.length_singleton]⟩
  · -- a point and the fraction digits, then the exponent
    have hsplit : bytes.data.toList.drop i = asciiBytes [d] ++ 46 :: (asciiBytes F ++
        101 :: (if ep then 43 else 45) :: asciiBytes (digitsOf K)) := by
      rw [h, List.cons_append, List.cons_append, asciiBytes_cons, asciiBytes_cons,
        asciiBytes_append, hexp]
      rfl
    have hstopP : ∀ b ∈ (46 :: (asciiBytes F ++
        101 :: (if ep then 43 else 45) :: asciiBytes (digitsOf K))).head?,
        isDigitByte b = false := by
      intro b hb
      rw [List.head?_cons, Option.mem_some_iff] at hb
      subst hb
      decide
    have hint := numberAt_of_run positive hd0 hdig hstopP hsplit
      (gatherDigits_digits _ 0 hdfit)
    simp only [List.length_nil, Nat.cast_zero, List.isEmpty_nil, Nat.zero_add] at hint
    have hpoint := drop_add_of_drop hsplit
    rw [length_asciiBytes, List.length_singleton] at hpoint
    have hfrac := drop_succ_of_drop hpoint
    have hmark := drop_add_of_drop hfrac
    rw [length_asciiBytes] at hmark
    obtain ⟨hge, hsig, hleft, hval⟩ := gatherDigits_le F (Nat.ofDigitChars 10 [d] 0) hdfit
    rw [hint, afterInteger_of_byte (getElem?_of_drop hpoint), if_pos rfl,
      fractionPart_of_run positive hF hF0 hstopE hfrac rfl, byteOrNul_of_drop hmark,
      if_pos (by decide)]
    generalize gatherDigits (Nat.ofDigitChars 10 [d] 0) (F.map fun c => c.toNat - 48) = g
      at hge hsig hleft hval ⊢
    obtain ⟨y, hy⟩ := exponentPart_ok positive ep hsig
      (show 0 - ((F.length : Int) - g.2.length) ≤ 0 by omega) hmark (fun hep => by
        obtain ⟨hKle, hc⟩ := hK hep
        refine ⟨hKle, .inr ⟨by omega, hc.mono ?_⟩⟩
        -- the significand kept, scaled by the fraction digits left over, is at most the digits
        have hsum : ((g.1 * 10 ^ g.2.length : Nat) : ℚ) ≤
            (Nat.ofDigitChars 10 (d :: F) 0 : ℚ) := by
          rw [show d :: F = [d] ++ F from rfl, Nat.ofDigitChars_append]
          exact_mod_cast hval
        rw [show 0 - ((F.length : Int) - g.2.length) + K =
            (g.2.length : Int) + ((K : Int) - F.length) by ring,
          zpow_add₀ (by norm_num), zpow_natCast, ← mul_assoc]
        push_cast at hsum
        exact mul_le_mul_of_nonneg_right hsum (by positivity))
    refine ⟨y, ?_⟩
    rw [hy]
    simp only [List.length_cons]
    congr 3
    omega

theorem ofDigitChars_le_limit {cs : List Char} (hcs : ∀ c ∈ cs, c.isDigit = true)
    (hlen : cs.length ≤ 16) : Nat.ofDigitChars 10 cs 0 ≤ significandLimit := by
  have h16 : 10 ^ cs.length ≤ 10 ^ 16 := Nat.pow_le_pow_right (by decide) hlen
  have hlimit : 10 ^ 16 ≤ significandLimit := by decide
  have := ofDigitChars_lt hcs
  omega

theorem pow_length_le {D : Nat} {d : Char} {F : List Char} (hD : 0 < D)
    (hds : Nat.toDigits 10 D = d :: F) : 10 ^ F.length ≤ D := by
  rcases Nat.eq_zero_or_pos F.length with h0 | hpos
  · rw [h0, Nat.pow_zero]
    exact hD
  · by_contra hlt
    have hle := (Nat.length_toDigits_le_iff (by decide) hpos).2 (Nat.lt_of_not_le hlt)
    rw [hds, List.length_cons] at hle
    omega

theorem exponent_le_308 {D n : Nat} {k : Int} (hc : Composable D k) (hlow : 10 ^ n ≤ D)
    (hK : 0 ≤ (n : Int) + k) : ((n : Int) + k).toNat ≤ 308 := by
  refine @le_308_of_composable 1 _ one_pos (hc.mono ?_)
  rw [Int.toNat_of_nonneg hK, zpow_add₀ (by norm_num), zpow_natCast, Nat.cast_one, one_mul]
  have hlow' : (10 : ℚ) ^ n ≤ D := by exact_mod_cast hlow
  exact mul_le_mul_of_nonneg_right hlow' (by positivity)

theorem numberAt_renderDigits (positive : Bool) {s : Shortest} (hs : 0 < s.digits)
    (hc : Composable s.digits s.exponent)
    (h : bytes.data.toList.drop i = asciiBytes (Layout.json.renderDigits s)) :
    ∃ y, numberAt bytes positive i =
      .ok (.float y, i + (Layout.json.renderDigits s).length) := by
  obtain ⟨d, F, hds⟩ := List.exists_cons_of_ne_nil (Nat.toDigits_ne_nil (b := 10) (n := s.digits))
  have hdig : ∀ c ∈ d :: F, c.isDigit = true := fun c hc =>
    Nat.isDigit_of_mem_toDigits (by decide) (by decide) (hds ▸ hc)
  have hd0 : d ≠ '0' := fun h0 => toDigits_ne_zero_cons hs F (h0 ▸ hds)
  have hval : Nat.ofDigitChars 10 (d :: F) 0 = s.digits := hds ▸ Nat.ofDigitChars_ten_toDigits
  have hlow := pow_length_le hs hds
  have hzeros : ∀ q, ∀ c ∈ zeros q, c.isDigit = true := by
    intro q c hc
    rw [zeros, List.mem_replicate] at hc
    rw [hc.2]
    rfl
  unfold Layout.renderDigits at h ⊢
  simp only [digitsOf, hds, Layout.json, List.length_cons, Nat.cast_add, Nat.cast_one] at h ⊢
  split_ifs at h ⊢ with hpos hexp hpoint hmark
  · -- positional, a whole number: the digits, the zeros, then `.0`
    have hI : ∀ c ∈ d :: F ++ zeros s.exponent.toNat, c.isDigit = true := fun c hc =>
      (List.mem_append.1 hc).elim (hdig c) (hzeros _ c)
    obtain ⟨y, hy⟩ := numberAt_positional positive hI (by simp) (List.cons_ne_nil _ _)
      (.inr ⟨d, F ++ zeros s.exponent.toNat, rfl, hd0⟩)
      (ofDigitChars_le_limit hI (by simp [zeros] at hpos ⊢; omega)) h
    exact ⟨y, by rw [hy]; simp; omega⟩
  · -- positional, a point within the digits
    obtain ⟨p, hp⟩ : ∃ p, ((F.length : Int) + 1 + s.exponent).toNat = p + 1 :=
      ⟨((F.length : Int) + 1 + s.exponent).toNat - 1, by omega⟩
    rw [hp, List.take_succ_cons, List.drop_succ_cons] at h ⊢
    have hI : ∀ c ∈ d :: F.take p, c.isDigit = true := fun c hc =>
      hdig c (List.mem_cons.2 ((List.mem_cons.1 hc).imp id List.mem_of_mem_take))
    have hF : ∀ c ∈ F.drop p, c.isDigit = true := fun c hc =>
      hdig c (List.mem_cons_of_mem _ (List.mem_of_mem_drop hc))
    obtain ⟨y, hy⟩ := numberAt_positional positive hI hF
      (by rw [ne_eq, List.drop_eq_nil_iff]; omega) (.inr ⟨d, F.take p, rfl, hd0⟩)
      (ofDigitChars_le_limit hI (by simp at hpos ⊢; omega)) h
    exact ⟨y, by rw [hy]; simp; omega⟩
  · -- positional, below one: `0.`, zeros, then the digits
    rw [List.cons_append, List.cons_append] at h ⊢
    have hF : ∀ c ∈ zeros (-((F.length : Int) + 1 + s.exponent)).toNat ++ d :: F,
        c.isDigit = true := fun c hc =>
      (List.mem_append.1 hc).elim (hzeros _ c) (hdig c)
    obtain ⟨y, hy⟩ := numberAt_positional positive (I := ['0'])
      (fun c hc => by rw [List.mem_singleton.1 hc]; rfl) hF
      (by simp) (.inl rfl) (by decide) h
    exact ⟨y, by rw [hy]; simp; omega⟩
  · -- scientific notation, a negative exponent: its digits fit or it reads as zero
    rw [List.append_assoc] at h ⊢
    cases F with
    | nil =>
      obtain ⟨y, hy⟩ := numberAt_scientific positive false (M := [d])
        (hdig d List.mem_cons_self) hd0 (by simp) (.inl ⟨rfl, rfl⟩) (fun h => by cases h) h
      exact ⟨y, by rw [hy]; simp [digitsOf]; omega⟩
    | cons f F =>
      obtain ⟨y, hy⟩ := numberAt_scientific positive false (M := d :: '.' :: f :: F)
        (hdig d List.mem_cons_self) hd0 (fun c hc => hdig c (List.mem_cons_of_mem _ hc))
        (.inr ⟨List.cons_ne_nil _ _, rfl⟩) (fun h => by cases h) h
      exact ⟨y, by rw [hy]; simp [digitsOf]; omega⟩
  · -- scientific notation, a positive exponent: it is at most `308`, and the decimal composes
    have hK : true = true → ((F.length : Int) + 1 + s.exponent - 1).natAbs ≤ exponentLimit ∧
        Composable (Nat.ofDigitChars 10 (d :: F) 0)
          ((((F.length : Int) + 1 + s.exponent - 1).natAbs : Nat) - F.length) := by
      intro _
      have h308 := exponent_le_308 hc hlow (by omega)
      have hlimit : exponentLimit = 2 ^ 31 - 1 := rfl
      refine ⟨by omega, ?_⟩
      rw [hval]
      convert hc using 2
      omega
    rw [List.append_assoc] at h ⊢
    cases F with
    | nil =>
      obtain ⟨y, hy⟩ := numberAt_scientific positive true (M := [d])
        (hdig d List.mem_cons_self) hd0 (by simp) (.inl ⟨rfl, rfl⟩) hK h
      exact ⟨y, by rw [hy]; simp [digitsOf]; omega⟩
    | cons f F =>
      obtain ⟨y, hy⟩ := numberAt_scientific positive true (M := d :: '.' :: f :: F)
        (hdig d List.mem_cons_self) hd0 (fun c hc => hdig c (List.mem_cons_of_mem _ hc))
        (.inr ⟨List.cons_ne_nil _ _, rfl⟩) hK h
      exact ⟨y, by rw [hy]; simp [digitsOf]; omega⟩

end Layouts

end TurnLedger.Json

namespace TurnLedger.Decimal

open Float.Model Float.Model.UnpackedFloat

theorem exponentField_lt_of_isFinite {x : Float} (h : x.isFinite = true) :
    x.toBits.toNat / 2 ^ 52 % 2 ^ 11 < 2047 := by
  by_contra hge
  have hfield : @unpackExponent Format.binary64 x.toBits.toBitVec = -1#11 := by
    apply BitVec.eq_of_toNat_eq
    have hlt : x.toBits.toNat / 2 ^ 52 % 2 ^ 11 < 2 ^ 11 := Nat.mod_lt _ (by decide)
    rw [unpackExponent_toNat, show (-1#11).toNat = 2047 from rfl]
    omega
  change (UnpackedFloat.unpack Format.binary64 x.toBits.toBitVec).isFinite = true at h
  unfold UnpackedFloat.unpack at h
  simp only [hfield, if_true] at h
  split at h <;> cases h

theorem BinaryParts.ofFloat_bounds {x : Float} (h : x.isFinite = true) :
    (BinaryParts.ofFloat x).mantissa < 2 ^ 53 ∧ (BinaryParts.ofFloat x).exponent ≤ 971 := by
  have hf := exponentField_lt_of_isFinite h
  unfold BinaryParts.ofFloat
  simp only [Nat.pow_eq]
  split <;> exact ⟨by dsimp only; omega, by dsimp only; omega⟩

theorem composable_shortestOf {m : Nat} {e : Int} (hm : 0 < m) (hm' : m < 2 ^ 53)
    (he : e ≤ 971) (htop : e ≤ 970 ∨ m ≤ 2 ^ 53 - 3) :
    Composable (shortestOf m e).digits (shortestOf m e).exponent := by
  obtain ⟨-, hbound⟩ := shortestOf_bound hm e
  have hm1 : (m : ℚ) + 1 ≤ 2 ^ 53 := by exact_mod_cast (show m + 1 ≤ 2 ^ 53 by omega)
  have hpow : e ≤ 970 → (2 : ℚ) ^ (e - 1) ≤ 2 ^ 969 := fun h970 => by
    rw [← zpow_natCast]
    exact zpow_le_zpow_right₀ (by norm_num) (by push_cast; omega)
  have htop' : e = 971 → (2 : ℚ) ^ (e - 1) = 2 ^ 969 * 2 := fun h971 => by
    rw [h971, show (971 : ℤ) - 1 = ((969 : ℕ) : ℤ) + 1 by norm_num, zpow_add_one₀ (by norm_num),
      zpow_natCast]
  have hB : (1 : ℚ) ≤ 2 ^ 969 := one_le_pow₀ (by norm_num)
  unfold Composable
  rw [show (2 : ℚ) ^ 971 = 2 ^ 969 * 2 ^ 2 from pow_add 2 969 2]
  generalize (2 : ℚ) ^ 969 = B at hpow htop' hB ⊢
  -- the decimal is at most `c * 2 ^ 969` for a `c` that leaves room for the rounding
  obtain ⟨c, hc, hX⟩ : ∃ c : ℚ, 2 ^ 107 * c < (2 ^ 54 - 1) * (2 ^ 53 - 1) ^ 2 * 2 ^ 2 ∧
      ((shortestOf m e).digits : ℚ) * 10 ^ (shortestOf m e).exponent ≤ c * B := by
    rcases hbound with hle | heq
    · by_cases h970 : e ≤ 970
      · refine ⟨2 ^ 54 - 1, by norm_num, hle.trans ?_⟩
        exact mul_le_mul (by linarith only [hm1]) (hpow h970) (by positivity) (by norm_num)
      · -- the top exponent, the mantissa at least three below the largest
        have hm3 := htop.resolve_left h970
        have hm3' : (m : ℚ) + 3 ≤ 2 ^ 53 := by exact_mod_cast (show m + 3 ≤ 2 ^ 53 by omega)
        refine ⟨(2 ^ 54 - 5) * 2, by norm_num, ?_⟩
        rw [htop' (by omega)] at hle
        calc _ ≤ (2 * m + 1 : ℚ) * (B * 2) := hle
          _ ≤ (2 ^ 54 - 5) * (B * 2) :=
            mul_le_mul_of_nonneg_right (by linarith only [hm3']) (by linarith only [hB])
          _ = (2 ^ 54 - 5) * 2 * B := by ring
    · refine ⟨2 ^ 53, by norm_num, ?_⟩
      rw [heq]
      calc (m : ℚ) ≤ 2 ^ 53 := by linarith only [hm1]
        _ ≤ 2 ^ 53 * B := le_mul_of_one_le_right (by norm_num) hB
  calc (2 : ℚ) ^ 107 * (_ * _) ≤ 2 ^ 107 * (c * B) :=
        mul_le_mul_of_nonneg_left hX (by positivity)
    _ = (2 ^ 107 * c) * B := by ring
    _ < ((2 ^ 54 - 1) * (2 ^ 53 - 1) ^ 2 * 2 ^ 2) * B :=
        mul_lt_mul_of_pos_right hc (by linarith only [hB])
    _ = _ := by ring

end TurnLedger.Decimal

namespace TurnLedger.Activity

open Json Decimal

theorem floatLiteral_eq {x : Float} (hx : x.isFinite = true)
    (hm : (BinaryParts.ofFloat x).mantissa ≠ 0) :
    floatLiteral x = (if (BinaryParts.ofFloat x).negative then "-" else "") ++
      String.ofList (Layout.json.renderDigits
        (shortestOf (BinaryParts.ofFloat x).mantissa (BinaryParts.ofFloat x).exponent)) := by
  rw [floatLiteral, if_pos hx, Layout.render]
  simp [hm]

theorem floatLiteral_eq_zero {x : Float} (hx : x.isFinite = true)
    (hm : (BinaryParts.ofFloat x).mantissa = 0) :
    floatLiteral x = (if (BinaryParts.ofFloat x).negative then "-" else "") ++
      String.ofList ['0', '.', '0'] := by
  rw [floatLiteral, if_pos hx, Layout.render]
  simp [hm]

theorem costReread_of_token {x : Float} {neg : Bool} {c : Char} {cs : List Char}
    (hlit : floatLiteral x = (if neg then "-" else "") ++ String.ofList (c :: cs))
    (hascii : ∀ d ∈ c :: cs, d.toNat < 0x80) (hc : c.isDigit = true)
    (hread : ∀ (bytes : ByteArray) (i : Nat), bytes.data.toList.drop i = asciiBytes (c :: cs) →
      ∃ y, numberAt bytes (!neg) i = .ok (.float y, i + (cs.length + 1))) :
    (costReread x).isSome := by
  have hbytes : (floatLiteral x).toUTF8.data.toList =
      (if neg then [45] else []) ++ asciiBytes (c :: cs) := by
    rw [hlit, toUTF8_data, String.toList_append, List.flatMap_append, String.toList_ofList,
      flatMap_utf8EncodeChar_ascii hascii]
    cases neg <;> rfl
  have hsize : (floatLiteral x).toUTF8.size = (if neg then 1 else 0) + (cs.length + 1) := by
    rw [← ByteArray.size_data, ← Array.length_toList, hbytes]
    cases neg <;> simp
    omega
  -- the sign, if any, and then the token
  obtain ⟨b, hb, hnum, hpos, hstart⟩ : ∃ b, (floatLiteral x).toUTF8[0]? = some b ∧
      (b = 45 ∨ isDigitByte b = true) ∧ (b != 45) = !neg ∧
      (if b = 45 then 0 + 1 else 0) = if neg then 1 else 0 := by
    rw [getElem?_eq_data, hbytes]
    cases neg with
    | true => exact ⟨45, rfl, .inl rfl, rfl, rfl⟩
    | false =>
      have hd := isDigitByte_of_isDigit hc
      have hne : UInt8.ofNat c.toNat ≠ 45 := fun h45 => by rw [h45] at hd; exact absurd hd (by decide)
      exact ⟨_, rfl, .inr hd, by simp [hne], by simp [hne]⟩
  have hdrop : (floatLiteral x).toUTF8.data.toList.drop (if neg then 1 else 0) =
      asciiBytes (c :: cs) := by
    rw [hbytes]
    cases neg <;> rfl
  obtain ⟨y, hy⟩ := hread _ _ hdrop
  have hvalue : Scan.value (127 + 1) ⟨(floatLiteral x).toUTF8, 0⟩ =
      .ok (.number (.float y)) ⟨(floatLiteral x).toUTF8, (floatLiteral x).toUTF8.size⟩ :=
    (value_eq_ok_number 127 hb hnum).2 ⟨_, _, by rw [hpos, hstart, hy, hsize], rfl, rfl⟩
  have hall : Scan.readAll (Scan.value nestingRoom) (floatLiteral x) = .ok (.number (.float y)) :=
    readAll_eq_ok.2 ⟨_, hvalue, by rw [skipBlank_of_size_le le_rfl]⟩
  unfold costReread
  rw [hall]
  rfl

theorem costReread_isSome {x : Float} (hx : x.isFinite = true) : (costReread x).isSome := by
  obtain ⟨hm53, he⟩ := BinaryParts.ofFloat_bounds hx
  by_cases hm : (BinaryParts.ofFloat x).mantissa = 0
  · -- zero is `0.0`, after its sign
    refine costReread_of_token (floatLiteral_eq_zero hx hm) (by simp) rfl fun bytes i h => ?_
    obtain ⟨y, hy⟩ := numberAt_positional _ (I := ['0']) (F := ['0'])
      (fun c hc => by rw [List.mem_singleton.1 hc]; rfl)
      (fun c hc => by rw [List.mem_singleton.1 hc]; rfl) (by simp) (.inl rfl) (by decide) h
    exact ⟨y, by rw [hy]; simp⟩
  by_cases htop : (BinaryParts.ofFloat x).exponent ≤ 970 ∨
      (BinaryParts.ofFloat x).mantissa ≤ 2 ^ 53 - 3
  · -- the shortest digits compose
    have hs := (shortestOf_bound (Nat.pos_of_ne_zero hm) (BinaryParts.ofFloat x).exponent).1
    have hc := composable_shortestOf (Nat.pos_of_ne_zero hm) hm53 he htop
    obtain ⟨c, hhead, hd⟩ := renderDigits_head Layout.json
      (shortestOf (BinaryParts.ofFloat x).mantissa (BinaryParts.ofFloat x).exponent)
    obtain ⟨cs, hcs⟩ := List.head?_eq_some_iff.1 hhead
    have hlit := floatLiteral_eq hx hm
    have hascii : ∀ d ∈ c :: cs, d.toNat < 0x80 := fun d hd' =>
      (isNumberByte_of_char (renderDigits_chars _ _ d (hcs ▸ hd'))).1
    rw [hcs] at hlit
    refine costReread_of_token hlit hascii hd fun bytes i h => ?_
    rw [← hcs] at h
    obtain ⟨y, hy⟩ := numberAt_renderDigits _ hs hc h
    exact ⟨y, by rw [hy, hcs, List.length_cons]⟩
  · -- the two largest mantissas of the top binade: their texts are read as they are
    have htexts : ∀ neg : Bool, ∀ m ∈ [2 ^ 53 - 1, 2 ^ 53 - 2],
        ((Scan.readAll (Scan.value nestingRoom) ((if neg then "-" else "") ++
          String.ofList (Layout.json.renderDigits (shortestOf m 971)))).toOption.bind
            fun v => (readFloat v).toOption).isSome = true := by
      decide +kernel
    have he' : (BinaryParts.ofFloat x).exponent = 971 := by omega
    have hmem : (BinaryParts.ofFloat x).mantissa ∈ [2 ^ 53 - 1, 2 ^ 53 - 2] := by
      simp only [List.mem_cons, List.not_mem_nil, or_false]
      omega
    unfold costReread
    rw [floatLiteral_eq hx hm, he']
    exact htexts _ _ hmem

theorem Record.ofJsonText_toJson_of_reread {r : Record} (hr : r.Storable) {y : Float}
    (hy : costReread r.costEstimate = some y) :
    Record.ofJsonText r.toJson = .ok { r with costEstimate := y } := by
  unfold costReread at hy
  rcases hw : (Scan.readAll (Scan.value nestingRoom) (floatLiteral r.costEstimate)).toOption
    with _ | w
  · rw [hw] at hy
    cases hy
  rw [hw] at hy
  have hf : readFloat w = .ok y := by
    rcases hf : readFloat w with e | z <;> simp [hf, Except.toOption] at hy
    rw [hy]
  rw [Record.ofJsonText_toJson_of_cost r hr hw, hf]
  rfl

theorem Record.ofJsonText_toJson_ok {r : Record} (hr : r.Storable)
    (hfin : r.costEstimate.isFinite = true) :
    ∃ y, costReread r.costEstimate = some y ∧
      Record.ofJsonText r.toJson = .ok { r with costEstimate := y } := by
  obtain ⟨y, hy⟩ := Option.isSome_iff_exists.1 (costReread_isSome hfin)
  exact ⟨y, hy, Record.ofJsonText_toJson_of_reread hr hy⟩

end TurnLedger.Activity
