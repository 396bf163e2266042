import Mathlib
import TurnLedger.Proofs.JsonNumber

/-!
# Scalar values read back

`ReadsBack v w` says what the reader makes of the compact text of `v` wherever it stands
before a comma or a closing brace: the value `w` when there is one, and otherwise a failure or a
stop inside the text. Strings, literals and integers in range read back as themselves; a double
reads back as whatever its own text reads as alone (`readsBack_float`), which for the reader's
rounding need not be the double written.
-/

namespace TurnLedger.Json

open Scan

theorem skipBlank_of_getElem? {bytes : ByteArray} {i : Nat} {b : UInt8} (h : bytes[i]? = some b)
    (hb : b ≠ 32 ∧ b ≠ 10 ∧ b ≠ 9 ∧ b ≠ 13) : skipBlank bytes i = i := by
  have hi : i < bytes.size := by
    rcases Nat.lt_or_ge i bytes.size with hi | hi
    · exact hi
    · rw [getElem?_neg bytes i (by omega)] at h; cases h
  rw [skipBlank, dif_pos hi, (getElem?_pos bytes i hi).symm.trans h |> Option.some.inj]
  simp [hb.1, hb.2.1, hb.2.2.1, hb.2.2.2]

theorem value_string (room : Nat) {bytes : ByteArray} {i : Nat} (s : String) {rest : List UInt8}
    (h : bytes.data.toList.drop i = 34 :: (escapedBytes s.toList ++ 34 :: rest)) :
    Scan.value (room + 1) ⟨bytes, i⟩ =
      .ok (.string s) ⟨bytes, i + (escapedBytes s.toList).length + 2⟩ := by
  have hb := getElem?_of_drop h
  have hs := stringAt_quoted s (drop_succ_of_drop h)
  simp [Scan.value, Scan.blank, bind, EStateM.bind, skipBlank_of_getElem? hb (by decide), hb,
    isDigitByte, advance, lex, hs, Functor.map, EStateM.map]
  omega

theorem literalAt_of_drop {bytes : ByteArray} :
    ∀ (word : List UInt8) (i : Nat) (tail : List UInt8), bytes.data.toList.drop i = word ++ tail →
      literalAt bytes word i = .ok ((), i + word.length)
  | [], i, _, _ => by simp [literalAt]
  | b :: more, i, tail, h => by
    rw [List.cons_append] at h
    rw [literalAt, getElem?_of_drop h, literalAt_of_drop more (i + 1) tail (drop_succ_of_drop h)]
    simp only [beq_self_eq_true, if_true, List.length_cons]
    congr 2
    omega

theorem value_literal (room : Nat) {bytes : ByteArray} {i : Nat} {first : UInt8}
    {word tail : List UInt8} (v : Value) (h : bytes.data.toList.drop i = first :: (word ++ tail))
    (hv : Scan.value (room + 1) ⟨bytes, i⟩ =
      (do advance; lex (literalAt · word ·); pure v) ⟨bytes, i⟩) :
    Scan.value (room + 1) ⟨bytes, i⟩ = .ok v ⟨bytes, i + word.length + 1⟩ := by
  rw [hv]
  simp [bind, EStateM.bind, advance, lex, literalAt_of_drop word (i + 1) tail (drop_succ_of_drop h),
    pure, EStateM.pure]
  omega

theorem value_null (room : Nat) {bytes : ByteArray} {i : Nat} {tail : List UInt8}
    (h : bytes.data.toList.drop i = 110 :: (nullRest ++ tail)) :
    Scan.value (room + 1) ⟨bytes, i⟩ = .ok .null ⟨bytes, i + 4⟩ := by
  have hb := getElem?_of_drop h
  refine value_literal room .null h ?_
  simp [Scan.value, Scan.blank, bind, EStateM.bind, skipBlank_of_getElem? hb (by decide), hb]

theorem value_true (room : Nat) {bytes : ByteArray} {i : Nat} {tail : List UInt8}
    (h : bytes.data.toList.drop i = 116 :: (trueRest ++ tail)) :
    Scan.value (room + 1) ⟨bytes, i⟩ = .ok (.bool true) ⟨bytes, i + 4⟩ := by
  have hb := getElem?_of_drop h
  refine value_literal room (.bool true) h ?_
  simp [Scan.value, Scan.blank, bind, EStateM.bind, skipBlank_of_getElem? hb (by decide), hb]

theorem value_false (room : Nat) {bytes : ByteArray} {i : Nat} {tail : List UInt8}
    (h : bytes.data.toList.drop i = 102 :: (falseRest ++ tail)) :
    Scan.value (room + 1) ⟨bytes, i⟩ = .ok (.bool false) ⟨bytes, i + 5⟩ := by
  have hb := getElem?_of_drop h
  refine value_literal room (.bool false) h ?_
  simp [Scan.value, Scan.blank, bind, EStateM.bind, skipBlank_of_getElem? hb (by decide), hb]

theorem lex_eq_ok {α : Type} {f : ByteArray → Nat → Lexed α} {bytes : ByteArray} {j : Nat} {a : α}
    {c : Cursor} : Scan.lex f ⟨bytes, j⟩ = .ok a c ↔ ∃ k, f bytes j = .ok (a, k) ∧ c = ⟨bytes, k⟩ := by
  unfold Scan.lex
  constructor
  · intro h
    split at h
    · rename_i a' k hf
      cases h
      exact ⟨k, hf, rfl⟩
    · cases h
  · rintro ⟨k, hf, rfl⟩
    simp only [hf]

theorem map_lex_eq_ok {α β : Type} {f : ByteArray → Nat → Lexed α} {g : α → β}
    {bytes : ByteArray} {j : Nat} {u : β} {c : Cursor} :
    (g <$> Scan.lex f) ⟨bytes, j⟩ = .ok u c ↔ ∃ a k, f bytes j = .ok (a, k) ∧ u = g a ∧ c = ⟨bytes, k⟩ := by
  show EStateM.map g (Scan.lex f) ⟨bytes, j⟩ = .ok u c ↔ _
  unfold EStateM.map
  constructor
  · intro h
    split at h
    · rename_i a s hl
      cases h
      obtain ⟨k, hk, rfl⟩ := lex_eq_ok.1 hl
      exact ⟨a, k, hk, rfl, rfl⟩
    · cases h
  · rintro ⟨a, k, hk, rfl, rfl⟩
    rw [lex_eq_ok.2 ⟨k, hk, rfl⟩]

theorem value_eq_ok_number (room : Nat) {bytes : ByteArray} {i : Nat} {b : UInt8}
    (hb : bytes[i]? = some b) (hnum : b = 45 ∨ isDigitByte b = true) {u : Value} {c : Cursor} :
    Scan.value (room + 1) ⟨bytes, i⟩ = .ok u c ↔
      ∃ n k, numberAt bytes (b != 45) (if b = 45 then i + 1 else i) = .ok (n, k) ∧
        u = .number n ∧ c = ⟨bytes, k⟩ := by
  have hblank : skipBlank bytes i = i := by
    refine skipBlank_of_getElem? hb ?_
    rcases hnum with rfl | hd
    · decide
    · simp only [isDigitByte, Bool.and_eq_true, decide_eq_true_eq] at hd
      refine ⟨?_, ?_, ?_, ?_⟩ <;> rintro rfl <;> exact absurd hd (by decide)
  rcases hnum with rfl | hd
  · simp only [Scan.value, Scan.blank, bind, EStateM.bind, hblank, hb]
    simp
    exact map_lex_eq_ok
  · have h1 : b ≠ 110 ∧ b ≠ 116 ∧ b ≠ 102 ∧ b ≠ 45 := by
      simp only [isDigitByte, Bool.and_eq_true, decide_eq_true_eq] at hd
      refine ⟨?_, ?_, ?_, ?_⟩ <;> rintro rfl <;> exact absurd hd (by decide)
    simp only [Scan.value, Scan.blank, bind, EStateM.bind, hblank, hb]
    have hpos : (b != 45) = true := by simp [h1.2.2.2]
    simp [h1, hd, hpos]
    exact map_lex_eq_ok

theorem readAll_eq_ok {α : Type} {p : Scan α} {text : String} {a : α} :
    Scan.readAll p text = .ok a ↔
      ∃ c, p ⟨text.toUTF8, 0⟩ = .ok a c ∧ c.bytes.size ≤ skipBlank c.bytes c.index := by
  unfold Scan.readAll
  simp only [bind, EStateM.bind, get, getThe, MonadStateOf.get, EStateM.get, set, EStateM.set,
    MonadStateOf.set, EStateM.run]
  constructor
  · intro h
    rcases hp : p ⟨text.toUTF8, 0⟩ with ⟨a', c⟩ | ⟨e, c⟩ <;> rw [hp] at h
    · dsimp only at h
      by_cases hc : skipBlank c.bytes c.index < c.bytes.size
      · rw [if_pos hc] at h
        cases h
      · rw [if_neg hc] at h
        cases h
        exact ⟨c, rfl, by omega⟩
    · cases h
  · rintro ⟨c, hp, hc⟩
    rw [hp]
    dsimp only
    rw [if_neg (by omega)]
    rfl

def Value.compactBytes (v : Value) : List UInt8 := v.compact.toUTF8.data.toList

def Before (bytes : ByteArray) (i : Nat) (t : List UInt8) : Prop :=
  ∃ d rest, (d = 44 ∨ d = 125) ∧ bytes.data.toList.drop i = t ++ d :: rest

/-- What the reader makes of a value's compact text wherever it stands before a comma or a
closing brace: `w` when it reads `some w`, stopping right after the text; when `w` is `none`
it fails, or stops inside the text at a byte of a number. -/
structure ReadsBack (v : Value) (w : Option Value) : Prop where
  reads : ∀ {u room bytes i}, w = some u → Before bytes i v.compactBytes →
    Scan.value (room + 1) ⟨bytes, i⟩ = .ok u ⟨bytes, i + v.compactBytes.length⟩
  stops : ∀ {u c room bytes i}, Before bytes i v.compactBytes →
    Scan.value (room + 1) ⟨bytes, i⟩ = .ok u c →
      ∃ j, c = ⟨bytes, j⟩ ∧ ((w = some u ∧ j = i + v.compactBytes.length) ∨
        ∃ b, bytes[j]? = some b ∧ isNumberByte b = true)

theorem ReadsBack.of_value {v w : Value}
    (h : ∀ room bytes i, Before bytes i v.compactBytes →
      Scan.value (room + 1) ⟨bytes, i⟩ = .ok w ⟨bytes, i + v.compactBytes.length⟩) :
    ReadsBack v (some w) where
  reads hu hb := by
    cases hu
    exact h _ _ _ hb
  stops hb hv := by
    rw [h _ _ _ hb] at hv
    cases hv
    exact ⟨_, rfl, .inl ⟨rfl, rfl⟩⟩

theorem ReadsBack.value_eq {v u : Value} (hv : ReadsBack v (some u)) (room : Nat)
    {bytes : ByteArray} {i : Nat} (hb : Before bytes i v.compactBytes) :
    Scan.value (room + 1) ⟨bytes, i⟩ = .ok u ⟨bytes, i + v.compactBytes.length⟩ :=
  hv.reads rfl hb

theorem readsBack_string (s : String) : ReadsBack (.string s) (some (.string s)) := by
  refine ReadsBack.of_value fun room bytes i ⟨d, rest, _, h⟩ => ?_
  have hbytes : (Value.string s).compactBytes = 34 :: (escapedBytes s.toList ++ [34]) :=
    toUTF8_quoteString s
  rw [hbytes, List.cons_append, List.append_assoc, List.singleton_append] at h
  rw [value_string room s h, hbytes]
  congr 2
  simp only [List.length_cons, List.length_append, List.length_nil]
  omega

theorem readsBack_null : ReadsBack .null (some .null) :=
  ReadsBack.of_value fun room _ _ ⟨_, rest, _, h⟩ => @value_null room _ _ (_ :: rest) h

theorem readsBack_bool (b : Bool) : ReadsBack (.bool b) (some (.bool b)) := by
  cases b
  · exact ReadsBack.of_value fun room _ _ ⟨_, rest, _, h⟩ => @value_false room _ _ (_ :: rest) h
  · exact ReadsBack.of_value fun room _ _ ⟨_, rest, _, h⟩ => @value_true room _ _ (_ :: rest) h

theorem digitBytes_cons (n : Nat) : ∃ b t, digitBytes n = b :: t ∧ isDigitByte b = true := by
  obtain ⟨c, cs, hcs⟩ := List.exists_cons_of_ne_nil (Nat.toDigits_ne_nil (b := 10) (n := n))
  have hbt : digitBytes n = UInt8.ofNat c.toNat :: cs.map fun c => UInt8.ofNat c.toNat := by
    rw [digitBytes, hcs, List.map_cons]
  exact ⟨_, _, hbt, isDigitByte_of_mem_digitBytes (n := n) (by rw [hbt]; exact List.mem_cons_self)⟩

theorem isNumberByte_delimiter {d : UInt8} (hd : d = 44 ∨ d = 125) : isNumberByte d = false := by
  rcases hd with rfl | rfl <;> decide

theorem readsBack_unsigned {n : Nat} (hn : n ≤ significandLimit) :
    ReadsBack (.number (.unsigned n)) (some (.number (.unsigned n))) := by
  refine ReadsBack.of_value fun room bytes i ⟨d, rest, hd, h⟩ => ?_
  have hbytes : (Value.number (.unsigned n)).compactBytes = digitBytes n := toUTF8_toString n
  rw [hbytes] at h ⊢
  obtain ⟨b, t, hbt, hb⟩ := digitBytes_cons n
  have hfirst : bytes[i]? = some b := by
    rw [hbt, List.cons_append] at h
    exact getElem?_of_drop h
  have hb45 : b ≠ 45 := by rintro rfl; exact absurd hb (by decide)
  refine (value_eq_ok_number room hfirst (.inr hb)).2 ⟨.unsigned n, _, ?_, rfl, rfl⟩
  rw [if_neg hb45, show (b != 45) = true by simp [hb45],
    numberAt_digits true h (fun c hc => by cases hc; exact isNumberByte_delimiter hd) hn]
  rfl

theorem toString_neg {n : Int} (hn : n < 0) : toString n = "-" ++ toString n.natAbs := by
  obtain ⟨m, rfl⟩ : ∃ m, n = Int.negSucc m := ⟨n.natAbs - 1, by omega⟩
  rfl

theorem readsBack_negative {n : Int} (hn : n < 0) (hlo : -2 ^ 63 ≤ n) :
    ReadsBack (.number (.negative n)) (some (.number (.negative n))) := by
  refine ReadsBack.of_value fun room bytes i ⟨d, rest, hd, h⟩ => ?_
  have hbytes : (Value.number (.negative n)).compactBytes = 45 :: digitBytes n.natAbs := by
    show (toString n).toUTF8.data.toList = _
    have hminus : List.flatMap String.utf8EncodeChar "-".toList = [45] := by decide
    rw [toString_neg hn, toUTF8_data, String.toList_append, List.flatMap_append, hminus,
      ← toUTF8_data, toUTF8_toString]
    rfl
  rw [hbytes] at h ⊢
  have hm : n.natAbs ≤ significandLimit := by
    simp only [significandLimit, Nat.pow_eq]
    omega
  refine (value_eq_ok_number room (getElem?_of_drop h) (.inl rfl)).2 ⟨.negative n, _, ?_, rfl, rfl⟩
  rw [if_pos rfl, show ((45 : UInt8) != 45) = false by decide, numberAt_digits false (drop_succ_of_drop h)
    (fun c hc => by cases hc; exact isNumberByte_delimiter hd) hm]
  simp only [integerEnd, Bool.not_true, Bool.false_eq_true, if_false, List.length_cons]
  rw [if_neg (by simp only [Bool.or_eq_true, beq_iff_eq, decide_eq_true_eq, Nat.pow_eq]; omega)]
  have hneg : -((n.natAbs : Nat) : Int) = n := by omega
  rw [hneg, Nat.add_assoc, Nat.add_comm 1]

theorem skipBlank_of_size_le {bytes : ByteArray} {i : Nat} (h : bytes.size ≤ i) :
    skipBlank bytes i = i := by
  rw [skipBlank, dif_neg (by omega)]

theorem not_blank_of_isNumberByte {b : UInt8} (h : isNumberByte b = true) :
    b ≠ 32 ∧ b ≠ 10 ∧ b ≠ 9 ∧ b ≠ 13 := by
  refine ⟨?_, ?_, ?_, ?_⟩ <;> rintro rfl <;> exact absurd h (by decide)

theorem readsBack_numberToken {v : Value} (positive : Bool) (i₀ : Nat) (tok : List UInt8)
    (hlen : v.compactBytes.length = i₀ + tok.length)
    (hnum : ∀ b ∈ tok, isNumberByte b = true)
    (hdrop : ∀ {bytes : ByteArray} {i : Nat} {r : List UInt8},
      bytes.data.toList.drop i = v.compactBytes ++ r → bytes.data.toList.drop (i + i₀) = tok ++ r)
    (hvalue : ∀ {room : Nat} {bytes : ByteArray} {i : Nat} {r : List UInt8} {u : Value}
      {c : Cursor}, bytes.data.toList.drop i = v.compactBytes ++ r →
      (Scan.value (room + 1) ⟨bytes, i⟩ = .ok u c ↔
        ∃ n k, numberAt bytes positive (i + i₀) = .ok (n, k) ∧ u = .number n ∧ c = ⟨bytes, k⟩)) :
    ReadsBack v (Scan.readAll (Scan.value nestingRoom) v.compact).toOption := by
  -- the text alone: the token stands at `i₀` and nothing follows it
  have halone : (v.compact.toUTF8).data.toList.drop 0 = v.compactBytes ++ [] := by
    rw [List.drop_zero, List.append_nil]
    rfl
  have walone : NumberWindow v.compact.toUTF8 (0 + i₀) tok :=
    ⟨[], hdrop halone, fun b hb => by cases hb⟩
  have hsize : v.compact.toUTF8.size = i₀ + tok.length := by
    rw [← hlen, Value.compactBytes, Array.length_toList]
    rfl
  have hroom : nestingRoom = 127 + 1 := rfl
  -- read alone, the text is taken whole exactly when the number takes the whole token
  have alone : ∀ u, Scan.readAll (Scan.value nestingRoom) v.compact = .ok u ↔
      ∃ n, u = .number n ∧
        numberAt v.compact.toUTF8 positive (0 + i₀) = .ok (n, 0 + i₀ + tok.length) := by
    intro u
    rw [hroom]
    constructor
    · intro h
      obtain ⟨c, hv, hend⟩ := readAll_eq_ok.1 h
      obtain ⟨n, k, hn, rfl, rfl⟩ := (hvalue halone).1 hv
      obtain ⟨k', rfl, hk', hn'⟩ := numberAt_window walone walone positive n k hn
      refine ⟨n, rfl, ?_⟩
      rcases Nat.lt_or_ge k' tok.length with hlt | hge
      · have hb := walone.getElem?_lt hlt
        rw [skipBlank_of_getElem? hb (not_blank_of_isNumberByte (hnum _ (List.getElem_mem hlt)))]
          at hend
        dsimp only at hend
        omega
      · rwa [show k' = tok.length by omega] at hn
    · rintro ⟨n, rfl, hn⟩
      refine readAll_eq_ok.2 ⟨_, (hvalue halone).2 ⟨n, _, hn, rfl, rfl⟩, ?_⟩
      dsimp only
      rw [skipBlank_of_size_le (by omega)]
      omega
  -- in a larger text the token is followed by a comma or a closing brace
  have window : ∀ {bytes i}, Before bytes i v.compactBytes → NumberWindow bytes (i + i₀) tok := by
    rintro bytes i ⟨d, rest, hd, h⟩
    exact ⟨d :: rest, hdrop h, fun b hb => by cases hb; exact isNumberByte_delimiter hd⟩
  constructor
  · intro u room bytes i hu hb
    obtain ⟨n, rfl, hn⟩ := (alone u).1 (by
      cases h : Scan.readAll (Scan.value nestingRoom) v.compact <;> rw [h] at hu <;> cases hu; rfl)
    obtain ⟨k', hk, -, hn'⟩ := numberAt_window walone (window hb) positive n _ hn
    obtain ⟨d, rest, -, h⟩ := hb
    refine (hvalue h).2 ⟨n, i + i₀ + tok.length, ?_, rfl, ?_⟩
    · rwa [show k' = tok.length by omega] at hn'
    · rw [hlen, Nat.add_assoc]
  · intro u c room bytes i hb hv
    obtain ⟨d, rest, hd, h⟩ := hb
    obtain ⟨n, k, hn, rfl, rfl⟩ := (hvalue h).1 hv
    obtain ⟨k', rfl, hk', hn'⟩ := numberAt_window (window ⟨d, rest, hd, h⟩) walone positive n _ hn
    refine ⟨_, rfl, ?_⟩
    rcases Nat.lt_or_ge k' tok.length with hlt | hge
    · exact .inr ⟨_, (window ⟨d, rest, hd, h⟩).getElem?_lt hlt, hnum _ (List.getElem_mem hlt)⟩
    · obtain rfl : k' = tok.length := by omega
      refine .inl ⟨?_, by rw [hlen, Nat.add_assoc]⟩
      rw [(alone _).2 ⟨n, rfl, hn'⟩]
      rfl

theorem readsBack_float (x : Float) :
    ReadsBack (.number (.float x))
      (Scan.readAll (Scan.value nestingRoom) (floatLiteral x)).toOption := by
  by_cases hx : x.isFinite = true
  · -- a finite double is written as a number token, perhaps after a minus sign
    have htext : (Value.number (.float x)).compact = Decimal.Layout.json.render x := by
      show floatLiteral x = _
      rw [floatLiteral, if_pos hx]
    have hbytes : (Value.number (.float x)).compactBytes =
        (Decimal.Layout.json.render x).toUTF8.data.toList := by
      rw [Value.compactBytes, htext]
    rw [show floatLiteral x = (Value.number (.float x)).compact from rfl]
    obtain ⟨b, t, hbt, hb⟩ := render_bytes_head x
    have hnum : ∀ c ∈ b :: t, isNumberByte c = true := hbt ▸ render_bytes x
    rw [← hbytes] at hbt
    rcases hb with rfl | hd
    · refine readsBack_numberToken false 1 t
        (by rw [hbt, List.length_cons, Nat.add_comm]) (fun c hc => hnum c (List.mem_cons_of_mem _ hc))
        (fun h => drop_succ_of_drop (hbt ▸ h)) (fun {room bytes i r u c} h => ?_)
      rw [hbt, List.cons_append] at h
      exact value_eq_ok_number room (getElem?_of_drop h) (.inl rfl)
    · have hb45 : b ≠ 45 := by rintro rfl; exact absurd hd (by decide)
      refine readsBack_numberToken true 0 (b :: t)
        (by rw [hbt, Nat.zero_add]) hnum (fun h => by rw [Nat.add_zero, ← hbt]; exact h)
        (fun {room bytes i r u c} h => ?_)
      rw [hbt, List.cons_append] at h
      have hv := value_eq_ok_number room (getElem?_of_drop h) (.inr hd) (u := u) (c := c)
      rwa [if_neg hb45, show (b != 45) = true by simp [hb45]] at hv
  · -- infinities and NaN are written `null`
    have hnull : floatLiteral x = "null" := by rw [floatLiteral, if_neg hx]
    have hbytes : (Value.number (.float x)).compactBytes = [110, 117, 108, 108] := by
      rw [Value.compactBytes, show (Value.number (.float x)).compact = floatLiteral x from rfl,
        hnull]
      decide
    have halone : Scan.readAll (Scan.value nestingRoom) (floatLiteral x) = .ok .null := by
      rw [hnull]
      refine readAll_eq_ok.2 ⟨_, @value_null 127 _ _ [] (by decide), ?_⟩
      rw [skipBlank_of_size_le] <;> decide
    rw [halone]
    refine ReadsBack.of_value fun room bytes i ⟨d, rest, _, h⟩ => ?_
    rw [hbytes] at h ⊢
    exact @value_null room _ _ (d :: rest) h

end TurnLedger.Json
