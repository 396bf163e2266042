import Mathlib.Tactic.SplitIfs
import TurnLedger.Json.Reader
import TurnLedger.Json.Writer

/-!
# Reading written JSON back

The reader walks the bytes of a text with an index, so its lemmas are stated over what stands
from that index on: `bytes.data.toList.drop i = t ++ rest` says the text `t` starts at `i`. A
string literal as the writer quotes it is read back as the string, one escaped character at a
time (`stringBytes_escaped`).
-/

namespace TurnLedger.Json

section Bytes

theorem getElem?_eq_data (bytes : ByteArray) (i : Nat) : bytes[i]? = bytes.data.toList[i]? := by
  by_cases h : i < bytes.size
  · rw [getElem?_pos bytes i h, List.getElem?_eq_getElem (by simpa using h)]
    rfl
  · rw [getElem?_neg bytes i h, List.getElem?_eq_none (by simp at h ⊢; omega)]

variable {bytes : ByteArray} {i : Nat} {l : List UInt8}

theorem getElem?_add_of_drop (h : bytes.data.toList.drop i = l) (j : Nat) :
    bytes[i + j]? = l[j]? := by
  rw [getElem?_eq_data, ← h, List.getElem?_drop]

theorem getElem?_of_drop {x : UInt8} (h : bytes.data.toList.drop i = x :: l) :
    bytes[i]? = some x := by
  simpa using getElem?_add_of_drop h 0

theorem drop_add_of_drop {l₁ l₂ : List UInt8} (h : bytes.data.toList.drop i = l₁ ++ l₂) :
    bytes.data.toList.drop (i + l₁.length) = l₂ := by
  rw [← List.drop_drop, h, List.drop_left]

theorem drop_succ_of_drop {x : UInt8} (h : bytes.data.toList.drop i = x :: l) :
    bytes.data.toList.drop (i + 1) = l := by
  rw [← List.drop_drop, h, List.drop_one, List.tail_cons]

theorem size_of_drop (h : bytes.data.toList.drop i = l) (hl : l ≠ []) :
    bytes.size = i + l.length := by
  have hlen := congrArg List.length h
  simp only [List.length_drop, Array.length_toList] at hlen
  have hpos : l.length ≠ 0 := by simpa [List.length_eq_zero_iff] using hl
  have hs : bytes.size = bytes.data.size := rfl
  omega

theorem lt_size_of_drop {x : UInt8} (h : bytes.data.toList.drop i = x :: l) : i < bytes.size := by
  rw [size_of_drop h (List.cons_ne_nil _ _)]
  simp

theorem toUTF8_data (s : String) :
    s.toUTF8.data.toList = s.toList.flatMap String.utf8EncodeChar := by
  rw [String.toUTF8_eq_toByteArray, ← String.utf8Encode_toList, List.utf8Encode,
    List.toList_data_toByteArray]

theorem toUTF8_append_data (a b : String) :
    (a ++ b).toUTF8.data.toList = a.toUTF8.data.toList ++ b.toUTF8.data.toList := by
  rw [toUTF8_data, toUTF8_data, toUTF8_data, String.toList_append, List.flatMap_append]

theorem utf8EncodeChar_ascii {c : Char} (h : c.toNat < 0x80) :
    String.utf8EncodeChar c = [UInt8.ofNat c.toNat] := by
  have h' : c.val.toNat ≤ 0x7f := by
    simp only [Char.toNat] at h
    omega
  simp only [String.utf8EncodeChar]
  rw [if_pos h']
  rfl

theorem toList_loop (b : ByteArray) : ∀ n j r, b.size - j ≤ n →
    ByteArray.toList.loop b j r = r.reverse ++ b.data.toList.drop j := by
  intro n
  induction n with
  | zero =>
    intro j r h
    unfold ByteArray.toList.loop
    have hs : b.size = b.data.size := rfl
    rw [if_neg (by omega), List.drop_eq_nil_of_le (by simp only [Array.length_toList]; omega),
      List.append_nil]
  | succ n ih =>
    intro j r h
    unfold ByteArray.toList.loop
    by_cases hj : j < b.size
    · rw [if_pos hj, ih (j + 1) _ (by omega)]
      have hj' : j < b.data.toList.length := by simpa using hj
      rw [List.drop_eq_getElem_cons hj']
      have hget : b.get! j = b.data.toList[j] := by
        show b.data[j]! = _
        rw [getElem!_pos b.data j hj]
        exact (Array.getElem_toList hj).symm
      simp [hget]
    · have hs : b.size = b.data.size := rfl
      rw [if_neg hj, List.drop_eq_nil_of_le (by simp only [Array.length_toList]; omega),
        List.append_nil]

theorem toList_eq_data (b : ByteArray) : b.toList = b.data.toList := by
  show ByteArray.toList.loop b 0 [] = _
  rw [toList_loop b b.size 0 [] (by omega)]
  simp

theorem toList_extract (b : ByteArray) (j k : Nat) :
    (b.extract j k).toList = (b.data.toList.drop j).take (k - j) := by
  rw [toList_eq_data, ByteArray.data_extract, Array.toList_extract, List.extract_eq_take_drop]

theorem bytes_ext {a b : ByteArray} (h : a.data.toList = b.data.toList) : a = b := by
  cases a; cases b
  simp only [Array.toList_inj] at h
  rw [h]

@[simp] theorem data_toList_append (a b : ByteArray) :
    (a ++ b).data.toList = a.data.toList ++ b.data.toList := by
  rw [ByteArray.data_append, Array.toList_append]

@[simp] theorem data_toList_push (a : ByteArray) (x : UInt8) :
    (a.push x).data.toList = a.data.toList ++ [x] := by
  rw [ByteArray.data_push, Array.toList_push]

@[simp] theorem data_toList_toByteArray (l : List UInt8) : l.toByteArray.data.toList = l :=
  List.toList_data_toByteArray

end Bytes

section Strings

variable {bytes : ByteArray}

theorem getElem_of_drop {i : Nat} {x : UInt8} {l : List UInt8}
    (h : bytes.data.toList.drop i = x :: l) (hi : i < bytes.size) : bytes[i] = x := by
  have h' := getElem?_of_drop h
  rw [getElem?_pos bytes i hi] at h'
  exact Option.some.inj h'

theorem stringBytes_plain : ∀ (l rest : List UInt8) (i : Nat) (out : ByteArray),
    (∀ b ∈ l, 32 ≤ b ∧ b ≠ 34 ∧ b ≠ 92) → bytes.data.toList.drop i = l ++ rest →
    stringBytes bytes i out = stringBytes bytes (i + l.length) (out ++ l.toByteArray)
  | [], _, i, out, _, _ => by
    rw [List.length_nil, Nat.add_zero]
    congr
    exact bytes_ext (by simp)
  | b :: l, rest, i, out, hl, h => by
    have hb := hl b List.mem_cons_self
    rw [List.cons_append] at h
    rw [stringBytes, dif_pos (lt_size_of_drop h)]
    simp only [getElem_of_drop h (lt_size_of_drop h)]
    rw [if_neg (by simp only [beq_iff_eq]; exact hb.2.1), if_neg (by simp only [beq_iff_eq]; exact hb.2.2),
      if_neg (by simp only [UInt8.not_lt]; exact hb.1)]
    rw [stringBytes_plain l rest (i + 1) (out.push b) (fun x hx => hl x (List.mem_cons_of_mem _ hx))
      (drop_succ_of_drop h)]
    congr 1
    · simp only [List.length_cons]
      omega
    · exact bytes_ext (by simp)

theorem utf8EncodeChar_high {c : Char} (h : 0x80 ≤ c.toNat) :
    ∀ b ∈ String.utf8EncodeChar c, 0x80 ≤ b := by
  have hv : 0x80 ≤ c.val.toNat := h
  have hmax := c.valid
  simp only [String.utf8EncodeChar]
  rw [if_neg (by omega)]
  split
  · simp only [List.mem_cons, List.not_mem_nil, or_false]
    rintro b (rfl | rfl) <;> simp [UInt8.le_iff_toNat_le] <;> omega
  · split
    · simp only [List.mem_cons, List.not_mem_nil, or_false]
      rintro b (rfl | rfl | rfl) <;> simp [UInt8.le_iff_toNat_le] <;> omega
    · have hc : c.toNat = c.val.toNat := rfl
      have : c.val.toNat < 0x110000 := by
        rcases hmax with h1 | h1 <;> simp at h1 <;> omega
      simp only [List.mem_cons, List.not_mem_nil, or_false]
      rintro b (rfl | rfl | rfl | rfl) <;> simp [UInt8.le_iff_toNat_le] <;> omega

theorem hexQuad_of_drop {j : Nat} {hb rest : List UInt8} {a b c d : Nat}
    (h : bytes.data.toList.drop j = hb ++ rest) (hlen : hb.length = 4)
    (hvals : hb.map hexValue? = [some a, some b, some c, some d]) :
    hexQuad bytes j = .ok (((a * 16 + b) * 16 + c) * 16 + d, j + 4) := by
  have hne : hb ++ rest ≠ [] := by
    intro hnil
    rw [List.append_eq_nil_iff] at hnil
    rw [hnil.1] at hlen
    simp at hlen
  have hsize := size_of_drop h hne
  have hext : (bytes.extract j (j + 4)).toList = hb := by
    rw [toList_extract, h, Nat.add_sub_cancel_left, List.take_left' hlen]
  simp only [hexQuad, List.length_append] at hsize ⊢
  rw [if_pos (by omega), hext, hvals]

theorem toUTF8_singleton (c : Char) :
    (String.singleton c).toUTF8 = (String.utf8EncodeChar c).toByteArray :=
  bytes_ext (by rw [toUTF8_data]; simp)

theorem hex4_control {n : Nat} (hn : n < 32) : (hex4 n).toUTF8.data.toList.length = 4 ∧
    (hex4 n).toUTF8.data.toList.map hexValue? = [some 0, some 0, some (n / 16), some (n % 16)] := by
  have key : ∀ n < 32, (hex4 n).toUTF8.data.toList.length = 4 ∧
      (hex4 n).toUTF8.data.toList.map hexValue? = [some 0, some 0, some (n / 16), some (n % 16)] := by
    decide
  exact key n hn

theorem stringBytes_short (c : Char) (e : UInt8) {i : Nat} {rest : List UInt8} {out : ByteArray}
    (h : bytes.data.toList.drop i = (escapeChar false c).toUTF8.data.toList ++ rest)
    (hbytes : (escapeChar false c).toUTF8.data.toList = [92, e])
    (hletter : ∀ j, bytes[j]? = some e →
      escapeAt bytes j = .ok ((String.utf8EncodeChar c).toByteArray, j + 1)) :
    stringBytes bytes i out = stringBytes bytes (i + (escapeChar false c).toUTF8.data.toList.length)
      (out ++ (String.utf8EncodeChar c).toByteArray) := by
  rw [hbytes] at h ⊢
  rw [List.cons_append] at h
  rw [stringBytes, dif_pos (lt_size_of_drop h)]
  simp only [getElem_of_drop h (lt_size_of_drop h)]
  have hj := getElem?_of_drop (drop_succ_of_drop h)
  simp [hletter (i + 1) hj, show i < i + 1 + 1 by omega]

theorem stringBytes_escapeChar (c : Char) {i : Nat} {rest : List UInt8} {out : ByteArray}
    (h : bytes.data.toList.drop i = (escapeChar false c).toUTF8.data.toList ++ rest) :
    stringBytes bytes i out = stringBytes bytes (i + (escapeChar false c).toUTF8.data.toList.length)
      (out ++ (String.utf8EncodeChar c).toByteArray) := by
  by_cases h1 : c = '"'
  · subst h1
    exact stringBytes_short _ 34 h (by decide) fun j hj => by simp [escapeAt, hj]; rfl
  by_cases h2 : c = '\\'
  · subst h2
    exact stringBytes_short _ 92 h (by decide) fun j hj => by simp [escapeAt, hj]; rfl
  by_cases h3 : c = '\n'
  · subst h3
    exact stringBytes_short _ 110 h (by decide) fun j hj => by simp [escapeAt, hj]; rfl
  by_cases h4 : c = '\r'
  · subst h4
    exact stringBytes_short _ 114 h (by decide) fun j hj => by simp [escapeAt, hj]; rfl
  by_cases h5 : c = '\t'
  · subst h5
    exact stringBytes_short _ 116 h (by decide) fun j hj => by simp [escapeAt, hj]; rfl
  by_cases h6 : c.toNat = 8
  · obtain rfl : c = Char.ofNat 8 := by rw [← h6, Char.ofNat_toNat]
    exact stringBytes_short _ 98 h (by decide) fun j hj => by simp [escapeAt, hj]; rfl
  by_cases h7 : c.toNat = 12
  · obtain rfl : c = Char.ofNat 12 := by rw [← h7, Char.ofNat_toNat]
    exact stringBytes_short _ 102 h (by decide) fun j hj => by simp [escapeAt, hj]; rfl
  by_cases h8 : c.toNat < 0x20
  · -- a control character: `\u` and four hexadecimal digits of its code
    have he : escapeChar false c = "\\u" ++ hex4 c.toNat := by
      simp [escapeChar, h1, h2, h3, h4, h5, h6, h7, h8]
    obtain ⟨hlen, hvals⟩ := hex4_control h8
    have hbytes : (escapeChar false c).toUTF8.data.toList =
        [92, 117] ++ (hex4 c.toNat).toUTF8.data.toList := by
      rw [he, toUTF8_data, toUTF8_data, String.toList_append, List.flatMap_append]
      rfl
    rw [hbytes, List.append_assoc] at h
    rw [hbytes, List.length_append, hlen]
    have h' : bytes.data.toList.drop i = 92 :: 117 :: ((hex4 c.toNat).toUTF8.data.toList ++ rest) := h
    have hcode : ((0 * 16 + 0) * 16 + c.toNat / 16) * 16 + c.toNat % 16 = c.toNat := by omega
    have hquad : hexQuad bytes (i + 2) = .ok (c.toNat, i + 2 + 4) := by
      rw [← hcode]
      exact hexQuad_of_drop (drop_succ_of_drop (drop_succ_of_drop h')) hlen hvals
    have hu : unicodeEscape bytes (i + 2) = .ok ((String.utf8EncodeChar c).toByteArray, i + 2 + 4) := by
      simp only [unicodeEscape, hquad, bind, Except.bind, utf8Of, Char.ofNat_toNat, toUTF8_singleton]
      rw [if_neg (by simp only [Bool.and_eq_true, decide_eq_true_eq, not_and]; omega),
        if_pos (by simp only [Bool.or_eq_true, decide_eq_true_eq]; omega)]
      rfl
    rw [stringBytes, dif_pos (lt_size_of_drop h')]
    simp only [getElem_of_drop h' (lt_size_of_drop h')]
    have hesc : escapeAt bytes (i + 1) = .ok ((String.utf8EncodeChar c).toByteArray, i + 2 + 4) := by
      simp [escapeAt, getElem?_of_drop (drop_succ_of_drop h'), hu]
    simp only [beq_self_eq_true, if_true, hesc, show (92 : UInt8) ≠ 34 by decide, beq_iff_eq,
      if_false]
    rw [if_pos (by omega)]
    rfl
  · -- any other character stands for itself
    have he : escapeChar false c = String.singleton c := by
      simp [escapeChar, h1, h2, h3, h4, h5, h6, h7, h8]
    rw [he, toUTF8_singleton, data_toList_toByteArray] at h ⊢
    rw [stringBytes_plain _ rest i out ?_ h]
    intro b hb
    -- its bytes are all at least 0x20 and none is a quote or a backslash
    have hval : b.toNat ≥ 0x80 ∨ (b.toNat = c.toNat ∧ c.toNat ≠ 34 ∧ c.toNat ≠ 92) := by
      by_cases hhigh : 0x80 ≤ c.toNat
      · exact .inl (UInt8.le_iff_toNat_le.1 (utf8EncodeChar_high hhigh b hb))
      · rw [utf8EncodeChar_ascii (by omega), List.mem_singleton] at hb
        subst hb
        refine .inr ⟨by rw [UInt8.toNat_ofNat']; omega, ?_, ?_⟩
        · exact fun hq => h1 (by rw [← Char.ofNat_toNat c, hq])
        · exact fun hq => h2 (by rw [← Char.ofNat_toNat c, hq])
    refine ⟨UInt8.le_iff_toNat_le.2 (by simp only [UInt8.reduceToNat]; omega), fun hq => ?_,
      fun hq => ?_⟩
    · subst hq
      simp only [UInt8.reduceToNat] at hval
      omega
    · subst hq
      simp only [UInt8.reduceToNat] at hval
      omega

/-- The bytes of the escaped text of `cs`, as a string literal holds them. -/
def escapedBytes (cs : List Char) : List UInt8 :=
  cs.flatMap fun c => (escapeChar false c).toUTF8.data.toList

theorem stringBytes_escaped : ∀ (cs : List Char) (i : Nat) (out : ByteArray) (rest : List UInt8),
    bytes.data.toList.drop i = escapedBytes cs ++ 34 :: rest →
    stringBytes bytes i out =
      .ok (out ++ (cs.flatMap String.utf8EncodeChar).toByteArray, i + (escapedBytes cs).length + 1)
  | [], i, out, rest, h => by
    simp only [escapedBytes, List.flatMap_nil, List.nil_append] at h
    rw [stringBytes, dif_pos (lt_size_of_drop h)]
    simp only [getElem_of_drop h (lt_size_of_drop h), beq_self_eq_true, if_true]
    congr
    · exact bytes_ext (by simp)
  | c :: cs, i, out, rest, h => by
    simp only [escapedBytes, List.flatMap_cons, List.append_assoc] at h
    rw [stringBytes_escapeChar c h, stringBytes_escaped cs _ _ rest (drop_add_of_drop h)]
    congr 2
    · exact bytes_ext (by simp)
    · simp only [escapedBytes, List.flatMap_cons, List.length_append]
      omega

theorem toUTF8_quoteString (s : String) :
    (quoteString false s).toUTF8.data.toList = 34 :: (escapedBytes s.toList ++ [34]) := by
  have hq : List.flatMap String.utf8EncodeChar "\"".toList = [34] := by decide
  simp only [quoteString, toUTF8_data, String.toList_append, List.flatMap_append,
    String.toList_join, List.flatMap_assoc, List.flatMap_map, escapedBytes, hq, List.cons_append,
    List.nil_append, List.append_assoc]

theorem fromUTF8?_toByteArray (s : String) : String.fromUTF8? s.toByteArray = some s := by
  simp only [String.fromUTF8?, dif_pos s.isValidUTF8]
  rfl

theorem stringAt_quoted {i : Nat} {rest : List UInt8} (s : String)
    (h : bytes.data.toList.drop i = escapedBytes s.toList ++ 34 :: rest) :
    stringAt bytes i = .ok (s, i + (escapedBytes s.toList).length + 1) := by
  have hbytes : (ByteArray.empty ++ (s.toList.flatMap String.utf8EncodeChar).toByteArray) =
      s.toByteArray := by
    apply bytes_ext
    rw [data_toList_append, ← String.toUTF8_eq_toByteArray, toUTF8_data]
    simp
  simp [stringAt, stringBytes_escaped s.toList i ByteArray.empty rest h, hbytes,
    fromUTF8?_toByteArray, bind, Except.bind, pure, Except.pure]

end Strings

end TurnLedger.Json
