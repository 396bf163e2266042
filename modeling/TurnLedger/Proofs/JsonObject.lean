import Mathlib.Data.List.Forall2
import TurnLedger.Proofs.JsonValue

/-!
# Objects read back

An object's compact text is read member by member. When every member's value reads back, the
object reads back as the object of the keys with what their values read as
(`value_object_reads`); one member that does not read back makes the whole read fail.
-/

namespace TurnLedger.Json

open Scan

section Keys

variable {bytes : ByteArray} {i : Nat}

theorem blank_of_getElem? {b : UInt8} (h : bytes[i]? = some b)
    (hb : b ≠ 32 ∧ b ≠ 10 ∧ b ≠ 9 ∧ b ≠ 13) :
    Scan.blank ⟨bytes, i⟩ = .ok (some b) ⟨bytes, i⟩ := by
  simp [Scan.blank, skipBlank_of_getElem? h hb, h]

theorem key_quoted (k : String) {rest : List UInt8}
    (h : bytes.data.toList.drop i = 34 :: (escapedBytes k.toList ++ 34 :: rest)) :
    Scan.key ⟨bytes, i⟩ = .ok k ⟨bytes, i + (escapedBytes k.toList).length + 2⟩ := by
  have hs := stringAt_quoted k (drop_succ_of_drop h)
  simp [Scan.key, bind, EStateM.bind, advance, lex, hs]
  omega

theorem nextKey_first (k : String) {rest : List UInt8}
    (h : bytes.data.toList.drop i = 34 :: (escapedBytes k.toList ++ 34 :: rest)) :
    Scan.nextKey true ⟨bytes, i⟩ = .ok (some k) ⟨bytes, i + (escapedBytes k.toList).length + 2⟩ := by
  have hb := blank_of_getElem? (getElem?_of_drop h) (by decide)
  simp [Scan.nextKey, bind, EStateM.bind, hb, Functor.map, EStateM.map, key_quoted k h]

theorem nextKey_comma (k : String) {rest : List UInt8}
    (h : bytes.data.toList.drop i = 44 :: 34 :: (escapedBytes k.toList ++ 34 :: rest)) :
    Scan.nextKey false ⟨bytes, i⟩ =
      .ok (some k) ⟨bytes, i + 1 + (escapedBytes k.toList).length + 2⟩ := by
  have hb := blank_of_getElem? (getElem?_of_drop h) (by decide)
  have hb' := blank_of_getElem? (getElem?_of_drop (drop_succ_of_drop h)) (by decide)
  simp [Scan.nextKey, bind, EStateM.bind, hb, hb', advance, Functor.map, EStateM.map,
    key_quoted k (drop_succ_of_drop h)]

theorem nextKey_close {rest : List UInt8} (h : bytes.data.toList.drop i = 125 :: rest) :
    Scan.nextKey false ⟨bytes, i⟩ = .ok none ⟨bytes, i⟩ := by
  have hb := blank_of_getElem? (getElem?_of_drop h) (by decide)
  simp [Scan.nextKey, bind, EStateM.bind, hb, pure, EStateM.pure]

theorem nextKey_number {b : UInt8} (h : bytes[i]? = some b) (hb : isNumberByte b = true)
    {r : Option String} {c : Cursor} : Scan.nextKey false ⟨bytes, i⟩ ≠ .ok r c := by
  have hblank := blank_of_getElem? h (not_blank_of_isNumberByte hb)
  have h125 : b ≠ 125 := by rintro rfl; exact absurd hb (by decide)
  have h44 : b ≠ 44 := by rintro rfl; exact absurd hb (by decide)
  simp [Scan.nextKey, bind, EStateM.bind, hblank, h125, h44, failAhead]

theorem colon_at {rest : List UInt8} (h : bytes.data.toList.drop i = 58 :: rest) :
    Scan.colon ⟨bytes, i⟩ = .ok () ⟨bytes, i + 1⟩ := by
  have hb := blank_of_getElem? (getElem?_of_drop h) (by decide)
  simp [Scan.colon, bind, EStateM.bind, hb, advance]

end Keys

/-- The bytes of one member as compact text writes it: the quoted key, a colon, the value. -/
def memberBytes (k : String) (v : Value) : List UInt8 :=
  (quoteString false k).toUTF8.data.toList ++ 58 :: v.compactBytes

theorem memberBytes_eq (k : String) (v : Value) :
    memberBytes k v = 34 :: (escapedBytes k.toList ++ 34 :: 58 :: v.compactBytes) := by
  rw [memberBytes, toUTF8_quoteString]
  simp

theorem inside_eq_ok {α : Type} {seg : Segment} {p : Scan α} {c c' : Cursor} {a : α} :
    Scan.inside seg p c = .ok a c' ↔ p c = .ok a c' := by
  unfold Scan.inside
  constructor
  · intro h
    split at h
    · cases h
      assumption
    · cases h
  · intro h
    rw [h]

theorem membersLoop_key {val : Scan Value} {fuel : Nat} {first : Bool}
    {acc : List (String × Value)} {c c' : Cursor} {k : String}
    (hk : Scan.nextKey first c = .ok (some k) c') :
    Scan.membersLoop val (fuel + 1) first acc c =
      (Scan.inside (.key k) (EStateM.bind Scan.colon fun _ => val) >>= fun v =>
        Scan.membersLoop val fuel false ((k, v) :: acc)) c' := by
  rw [Scan.membersLoop]
  simp only [bind, EStateM.bind, hk]

section Members

variable {bytes : ByteArray} {i : Nat}

theorem nextKey_member (first : Bool) (k : String) (v : Value) {rest : List UInt8}
    (h : bytes.data.toList.drop i = (if first then [] else [44]) ++ memberBytes k v ++ rest) :
    ∃ j, Scan.nextKey first ⟨bytes, i⟩ = .ok (some k) ⟨bytes, j⟩ ∧
      bytes.data.toList.drop j = 58 :: (v.compactBytes ++ rest) ∧
      j + 1 + v.compactBytes.length = i + (if first then 0 else 1) + (memberBytes k v).length := by
  rw [memberBytes_eq] at h ⊢
  have hlen : ∀ j, bytes.data.toList.drop j =
      34 :: (escapedBytes k.toList ++ 34 :: 58 :: (v.compactBytes ++ rest)) →
      bytes.data.toList.drop (j + (escapedBytes k.toList).length + 2) =
        58 :: (v.compactBytes ++ rest) := by
    intro j hj
    have hj' : bytes.data.toList.drop j = (34 :: (escapedBytes k.toList ++ [34])) ++
        58 :: (v.compactBytes ++ rest) := by
      rw [hj]
      simp
    rw [← drop_add_of_drop hj']
    simp only [List.length_cons, List.length_append, List.length_nil]
    congr 1
  cases first
  · simp only [Bool.false_eq_true, if_false, List.cons_append, List.append_assoc] at h ⊢
    refine ⟨_, nextKey_comma k h, hlen _ (drop_succ_of_drop h), ?_⟩
    simp only [List.length_cons, List.length_append]
    omega
  · simp only [if_true, List.nil_append, List.cons_append, List.append_assoc] at h ⊢
    refine ⟨_, nextKey_first k h, hlen _ h, ?_⟩
    simp only [List.length_cons, List.length_append]
    omega

theorem membersLoop_member (room fuel : Nat) (first : Bool) (acc : List (String × Value))
    (k : String) {v u : Value} (hv : ReadsBack v (some u)) {d : UInt8} {rest : List UInt8}
    (hd : d = 44 ∨ d = 125)
    (h : bytes.data.toList.drop i = (if first then [] else [44]) ++ memberBytes k v ++ d :: rest) :
    Scan.membersLoop (Scan.value (room + 1)) (fuel + 1) first acc ⟨bytes, i⟩ =
      Scan.membersLoop (Scan.value (room + 1)) fuel false ((k, u) :: acc)
        ⟨bytes, i + (if first then 0 else 1) + (memberBytes k v).length⟩ := by
  obtain ⟨j, hk, hc, hj⟩ := nextKey_member first k v h
  rw [membersLoop_key hk]
  simp only [bind, EStateM.bind, Scan.inside, colon_at hc,
    hv.value_eq room ⟨d, rest, hd, drop_succ_of_drop hc⟩, hj]

theorem membersLoop_unreadable (room fuel : Nat) (first : Bool) (acc : List (String × Value))
    (k : String) {v : Value} (hv : ReadsBack v none) {d : UInt8} {rest : List UInt8}
    (hd : d = 44 ∨ d = 125)
    (h : bytes.data.toList.drop i = (if first then [] else [44]) ++ memberBytes k v ++ d :: rest)
    {r : List (String × Value)} {c : Cursor} :
    Scan.membersLoop (Scan.value (room + 1)) (fuel + 2) first acc ⟨bytes, i⟩ ≠ .ok r c := by
  obtain ⟨j, hk, hc, -⟩ := nextKey_member first k v h
  rw [membersLoop_key hk]
  intro heq
  simp only [bind, EStateM.bind] at heq
  split at heq
  · rename_i u c' hin
    rw [inside_eq_ok] at hin
    simp only [EStateM.bind, colon_at hc] at hin
    obtain ⟨j', rfl, hw⟩ := hv.stops ⟨d, rest, hd, drop_succ_of_drop hc⟩ hin
    rcases hw with ⟨hnone, -⟩ | ⟨b, hb, hnum⟩
    · cases hnone
    · -- the reader stopped inside a number, where no comma or closing brace stands
      rw [Scan.membersLoop] at heq
      simp only [bind, EStateM.bind] at heq
      split at heq
      · rename_i o c'' hnk
        exact nextKey_number hb hnum hnk
      · cases heq
  · cases heq

end Members

/-- The bytes of members as compact text writes them, separated by commas. -/
def membersBytes : List (String × Value) → List UInt8
  | [] => []
  | [(k, v)] => memberBytes k v
  | (k, v) :: rest => memberBytes k v ++ 44 :: membersBytes rest

theorem compactMembers_bytes : ∀ ms : List (String × Value),
    (compactMembers false ms).toUTF8.data.toList = membersBytes ms
  | [] => by simp [compactMembers, membersBytes]
  | [(k, v)] => by
    have hcolon : ":".toUTF8.data.toList = [58] := by decide
    rw [compactMembers, membersBytes, memberBytes, toUTF8_append_data, toUTF8_append_data, hcolon,
      List.append_assoc, List.singleton_append]
    rfl
  | (k, v) :: m :: rest => by
    have hcolon : ":".toUTF8.data.toList = [58] := by decide
    have hcomma : ",".toUTF8.data.toList = [44] := by decide
    rw [compactMembers, membersBytes, memberBytes, toUTF8_append_data, toUTF8_append_data,
      toUTF8_append_data, toUTF8_append_data, hcolon, hcomma, compactMembers_bytes (m :: rest)]
    · simp only [List.append_assoc, List.singleton_append]
      rfl
    all_goals exact List.cons_ne_nil _ _

theorem membersBytes_cons_cons (k : String) (v : Value) (m : String × Value)
    (rest : List (String × Value)) :
    membersBytes ((k, v) :: m :: rest) = memberBytes k v ++ 44 :: membersBytes (m :: rest) := by
  rw [membersBytes]
  exact fun h => List.cons_ne_nil _ _ h

section Loop

variable {bytes : ByteArray}

theorem drop_after_member {i : Nat} {first : Bool} {k : String} {v : Value} {t : List UInt8}
    (h : bytes.data.toList.drop i = (if first then [] else [44]) ++ memberBytes k v ++ t) :
    bytes.data.toList.drop (i + (if first then 0 else 1) + (memberBytes k v).length) = t := by
  rw [← drop_add_of_drop h, List.length_append]
  congr 1
  cases first <;> simp
  omega

theorem membersLoop_reads (room : Nat) {ms : List (String × Value)} {us : List Value}
    (hms : List.Forall₂ (fun m u => ReadsBack m.2 (some u)) ms us) :
    ∀ (fuel : Nat) (first : Bool) (acc : List (String × Value)) (i : Nat) (rest : List UInt8),
      ms ≠ [] → ms.length < fuel →
      bytes.data.toList.drop i = (if first then [] else [44]) ++ membersBytes ms ++ 125 :: rest →
      Scan.membersLoop (Scan.value (room + 1)) fuel first acc ⟨bytes, i⟩ =
        .ok (acc.reverse ++ (ms.map Prod.fst).zip us)
          ⟨bytes, i + (if first then 0 else 1) + (membersBytes ms).length⟩ := by
  induction hms with
  | nil => intro _ _ _ _ _ hne; exact absurd rfl hne
  | @cons m u ms us hv hrest ih =>
    intro fuel first acc i rest _ hfuel h
    obtain ⟨k, v⟩ := m
    obtain ⟨fuel, rfl⟩ : ∃ f, fuel = f + 1 := ⟨fuel - 1, by simp at hfuel; omega⟩
    cases hrest with
    | nil =>
      -- the last member, then the closing brace
      rw [membersBytes] at h ⊢
      rw [membersLoop_member room fuel first acc k hv (.inr rfl) h]
      obtain ⟨fuel, rfl⟩ : ∃ f, fuel = f + 1 := ⟨fuel - 1, by simp at hfuel; omega⟩
      have hclose := drop_after_member h
      rw [Scan.membersLoop]
      simp [bind, EStateM.bind, nextKey_close hclose, pure, EStateM.pure]
    | @cons m' u' ms' us' hv' hrest' =>
      -- a member, a comma, and the members after it
      obtain ⟨k', v'⟩ := m'
      rw [membersBytes_cons_cons] at h ⊢
      have h' : bytes.data.toList.drop i = (if first then [] else [44]) ++ memberBytes k v ++
          44 :: (membersBytes ((k', v') :: ms') ++ 125 :: rest) := by
        rw [h]
        simp
      rw [membersLoop_member room fuel first acc k hv (.inl rfl) h']
      have hnext := drop_after_member h'
      rw [ih fuel false ((k, u) :: acc) _ rest (List.cons_ne_nil _ _)
        (by simp at hfuel ⊢; omega) (by rw [hnext]; rfl)]
      simp only [List.reverse_cons, List.append_assoc, List.map_cons, List.zip_cons_cons,
        List.singleton_append, Bool.false_eq_true, if_false, List.length_append, List.length_cons]
      congr 2
      omega

theorem membersLoop_fails (room : Nat) {pre : List (String × Value)} {us : List Value}
    (hpre : List.Forall₂ (fun m u => ReadsBack m.2 (some u)) pre us) (k : String) {v : Value}
    (hv : ReadsBack v none) (post : List (String × Value)) :
    ∀ (fuel : Nat) (first : Bool) (acc : List (String × Value)) (i : Nat) (rest : List UInt8),
      pre.length + 1 < fuel →
      bytes.data.toList.drop i =
        (if first then [] else [44]) ++ membersBytes (pre ++ (k, v) :: post) ++ 125 :: rest →
      ∀ r c, Scan.membersLoop (Scan.value (room + 1)) fuel first acc ⟨bytes, i⟩ ≠ .ok r c := by
  induction hpre with
  | nil =>
    intro fuel first acc i rest hfuel h r c
    obtain ⟨fuel, rfl⟩ : ∃ f, fuel = f + 2 := ⟨fuel - 2, by simp at hfuel; omega⟩
    cases post with
    | nil =>
      rw [List.nil_append, membersBytes] at h
      exact membersLoop_unreadable room fuel first acc k hv (.inr rfl) h
    | cons m post =>
      rw [List.nil_append, membersBytes_cons_cons] at h
      refine membersLoop_unreadable room fuel first acc k hv (d := 44) (.inl rfl)
        (?_ : _ = _ ++ _ ++ 44 :: (membersBytes (m :: post) ++ 125 :: rest))
      rw [h]
      simp
  | @cons m u pre us hm hpre ih =>
    intro fuel first acc i rest hfuel h r c
    obtain ⟨k', v'⟩ := m
    obtain ⟨fuel, rfl⟩ : ∃ f, fuel = f + 1 := ⟨fuel - 1, by simp at hfuel; omega⟩
    obtain ⟨m', more, hmore⟩ := List.exists_cons_of_ne_nil
      (List.append_ne_nil_of_right_ne_nil pre (List.cons_ne_nil (k, v) post))
    rw [List.cons_append, hmore, membersBytes_cons_cons, ← hmore] at h
    have h' : bytes.data.toList.drop i = (if first then [] else [44]) ++ memberBytes k' v' ++
        44 :: (membersBytes (pre ++ (k, v) :: post) ++ 125 :: rest) := by
      rw [h]
      simp
    rw [membersLoop_member room fuel first acc k' hm (.inl rfl) h']
    have hnext := drop_after_member h'
    exact ih fuel false ((k', u) :: acc) _ rest (by simp at hfuel; omega) (by rw [hnext]; rfl) r c

end Loop

theorem object_bytes (ms : List (String × Value)) :
    (Value.object ms).compact.toUTF8.data.toList = 123 :: (membersBytes ms ++ [125]) := by
  have hopen : "\x7b".toUTF8.data.toList = [123] := by decide
  have hclose : "\x7d".toUTF8.data.toList = [125] := by decide
  show (("\x7b" ++ compactMembers false ms) ++ "\x7d").toUTF8.data.toList = _
  rw [toUTF8_append_data, toUTF8_append_data, hopen, hclose, compactMembers_bytes]
  rfl

theorem length_le_membersBytes : ∀ ms : List (String × Value), ms.length ≤ (membersBytes ms).length
  | [] => Nat.le_refl 0
  | [(k, v)] => by simp [membersBytes, memberBytes_eq]
  | (k, v) :: m :: rest => by
    rw [membersBytes_cons_cons]
    have := length_le_membersBytes (m :: rest)
    simp only [List.length_cons, List.length_append] at this ⊢
    omega

theorem closeObjectAt_brace {bytes : ByteArray} {j : Nat} (h : bytes[j]? = some 125) :
    closeObjectAt bytes j = (none, j + 1) := by
  simp [closeObjectAt, skipBlank_of_getElem? h (by decide), h]

theorem value_object_reads (room : Nat) {ms : List (String × Value)} {us : List Value}
    (hms : List.Forall₂ (fun m u => ReadsBack m.2 (some u)) ms us) (hne : ms ≠ [])
    {bytes : ByteArray} {i : Nat} {rest : List UInt8}
    (h : bytes.data.toList.drop i = 123 :: (membersBytes ms ++ 125 :: rest)) :
    Scan.value (room + 2) ⟨bytes, i⟩ =
      .ok (.object ((ms.map Prod.fst).zip us)) ⟨bytes, i + (membersBytes ms).length + 2⟩ := by
  have hb := getElem?_of_drop h
  have hsize := size_of_drop h (List.cons_ne_nil _ _)
  simp only [List.length_cons, List.length_append] at hsize
  have hloop := membersLoop_reads room hms (bytes.size - (i + 1) + 1) true [] (i + 1) rest hne
    (by have := length_le_membersBytes ms; omega) (by simpa using drop_succ_of_drop h)
  have hend : bytes[i + 1 + (membersBytes ms).length]? = some 125 := by
    have h' : bytes.data.toList.drop (i + 1) = membersBytes ms ++ 125 :: rest := drop_succ_of_drop h
    exact getElem?_of_drop (drop_add_of_drop h')
  simp only [if_true, Nat.add_zero, List.reverse_nil, List.nil_append] at hloop
  rw [Scan.value]
  simp [Scan.blank, skipBlank_of_getElem? hb (by decide), hb, isDigitByte, Scan.enter, advance,
    Scan.closeWith, Scan.members, Scan.budget, bind, EStateM.bind, Functor.map, EStateM.map, hloop,
    closeObjectAt_brace hend]
  omega

theorem value_object_fails (room : Nat) {pre : List (String × Value)} {us : List Value}
    (hpre : List.Forall₂ (fun m u => ReadsBack m.2 (some u)) pre us) (k : String) {v : Value}
    (hv : ReadsBack v none) (post : List (String × Value))
    {bytes : ByteArray} {i : Nat} {rest : List UInt8}
    (h : bytes.data.toList.drop i = 123 :: (membersBytes (pre ++ (k, v) :: post) ++ 125 :: rest))
    (u : Value) (c : Cursor) : Scan.value (room + 2) ⟨bytes, i⟩ ≠ .ok u c := by
  have hb := getElem?_of_drop h
  have hsize := size_of_drop h (List.cons_ne_nil _ _)
  simp only [List.length_cons, List.length_append] at hsize
  have hloop := membersLoop_fails room hpre k hv post (bytes.size - (i + 1) + 1) true [] (i + 1)
    rest (by have := length_le_membersBytes (pre ++ (k, v) :: post); simp at this; omega)
    (by simpa using drop_succ_of_drop h)
  rw [Scan.value]
  simp [Scan.blank, skipBlank_of_getElem? hb (by decide), hb, isDigitByte, Scan.enter, advance,
    Scan.closeWith, Scan.members, Scan.budget, bind, EStateM.bind, Functor.map, EStateM.map]
  -- the members loop fails, and closing the object passes the failure on
  rcases hm : Scan.membersLoop (Scan.value (room + 1)) (bytes.size - (i + 1) + 1) true []
    ⟨bytes, i + 1⟩ with ⟨r, c'⟩ | ⟨e, c'⟩
  · exact absurd hm (hloop r c')
  · simp

theorem object_bytes_drop (ms : List (String × Value)) :
    (Value.object ms).compact.toUTF8.data.toList.drop 0 = 123 :: (membersBytes ms ++ 125 :: []) :=
  object_bytes ms

theorem readAll_object_reads {ms : List (String × Value)} {us : List Value}
    (hms : List.Forall₂ (fun m u => ReadsBack m.2 (some u)) ms us) (hne : ms ≠ []) :
    Scan.readAll (Scan.value nestingRoom) (Value.object ms).compact =
      .ok (.object ((ms.map Prod.fst).zip us)) := by
  have hsize : (Value.object ms).compact.toUTF8.size = (membersBytes ms).length + 2 := by
    rw [← ByteArray.size_data, ← Array.length_toList, object_bytes]
    simp
  refine readAll_eq_ok.2 ⟨_, value_object_reads 126 hms hne (object_bytes_drop ms), ?_⟩
  rw [skipBlank_of_size_le] <;> simp only [Nat.zero_add, hsize, Nat.le_refl]

theorem readAll_object_fails {pre : List (String × Value)} {us : List Value}
    (hpre : List.Forall₂ (fun m u => ReadsBack m.2 (some u)) pre us) (k : String) {v : Value}
    (hv : ReadsBack v none) (post : List (String × Value)) (a : Value) :
    Scan.readAll (Scan.value nestingRoom) (Value.object (pre ++ (k, v) :: post)).compact ≠
      .ok a := by
  intro h
  obtain ⟨c, hc, -⟩ := readAll_eq_ok.1 h
  exact value_object_fails 126 hpre k hv post (object_bytes_drop _) a c hc

end TurnLedger.Json
