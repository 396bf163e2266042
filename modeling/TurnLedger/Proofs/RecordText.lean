import Mathlib.Data.String.Basic
import TurnLedger.Proofs.JsonObject
import TurnLedger.Proofs.InstantText
import TurnLedger.Activity.Decode

/-!
# Records read back from their JSON

A record whose counts fit in 64 bits and whose creation time is valid reads back from its
compact JSON as itself, but for its cost: the reader does not always round a decimal to the
nearest double, so the cost comes back as what its own text reads as (`costReread`), which
need not be the double written (`Record.ofJsonText_toJson`).

The members are read in the order written, then sorted by key before the fields are set; with
seventeen fixed keys both steps are computed outright (`fromMembers_dictionary`).
-/

namespace TurnLedger.Activity

open Json

def IsCount (n : Int) : Prop := -2 ^ 63 ≤ n ∧ n < 2 ^ 63

/-- The records the store's types can hold: counts of 64 bits and a valid creation time. -/
structure Record.Storable (r : Record) : Prop where
  tokensIn : IsCount r.tokensIn
  tokensOut : IsCount r.tokensOut
  durationMs : IsCount r.durationMs
  createdAt : ∀ t ∈ r.createdAt, t.Valid

def instantValue : Option Time.Instant → Value
  | some t => .string t.text
  | none => .null

def Record.membersWith (r : Record) (cost : Value) : List (String × Value) :=
  [("id", .string r.id),
    ("session_key", .string r.sessionKey),
    ("model", .string r.model),
    ("tokens_in", intValue r.tokensIn),
    ("tokens_out", intValue r.tokensOut),
    ("cost_estimate", cost),
    ("duration_ms", intValue r.durationMs),
    ("project_tag", .string r.projectTag),
    ("external_ref", .string r.externalRef),
    ("category", .string r.category),
    ("category_reason", .string r.categoryReason),
    ("thinking", .string r.thinking),
    ("reasoning", .bool r.reasoning),
    ("channel", .string r.channel),
    ("status", .string r.status),
    ("user_id", .string r.userId),
    ("created_at", instantValue r.createdAt)]

theorem Record.toValue_eq (r : Record) :
    r.toValue = .object (r.membersWith (.number (.float r.costEstimate))) := by
  cases h : r.createdAt <;> simp [Record.toValue, Record.membersWith, instantValue, h]

theorem readCount_intValue {n : Int} (h : IsCount n) : readCount (intValue n) = .ok n := by
  by_cases hn : n < 0
  · simp [intValue, readCount, hn]
  · have hlt : n.toNat < Nat.pow 2 63 := by have := h.2; rw [Nat.pow_eq]; omega
    simp only [intValue, readCount, if_neg hn, if_pos hlt]
    congr 1
    omega

theorem readInstant_instantValue {o : Option Time.Instant} (h : ∀ t ∈ o, t.Valid) :
    readInstant (instantValue o) = .ok o := by
  cases o with
  | none => rfl
  | some t => simp [instantValue, readInstant, Time.Instant.parse_text (h t rfl)]

theorem fromMembers_dictionary (r : Record) (hr : r.Storable) (w : Value) :
    Record.fromMembers (dictionary (r.membersWith w)) =
      (fun y => { r with costEstimate := y }) <$> readFloat w := by
  -- the keys are compared as literals, not through the library's order on strings
  simp [Record.membersWith, dictionary, insertMember, -String.lt_iff_ltb]
  simp [Record.fromMembers, Record.fromMembersLoop, Record.setField, readText, readBool,
    readCount_intValue hr.tokensIn, readCount_intValue hr.tokensOut,
    readCount_intValue hr.durationMs, readInstant_instantValue hr.createdAt]
  cases readFloat w <;> rfl

theorem readsBack_intValue {n : Int} (h : IsCount n) :
    ReadsBack (intValue n) (some (intValue n)) := by
  by_cases hn : n < 0
  · rw [intValue, if_pos hn]
    exact readsBack_negative hn h.1
  · rw [intValue, if_neg hn]
    have hlt := h.2
    exact readsBack_unsigned (by simp only [significandLimit, Nat.pow_eq]; omega)

theorem readsBack_instantValue (o : Option Time.Instant) :
    ReadsBack (instantValue o) (some (instantValue o)) := by
  cases o with
  | none => exact readsBack_null
  | some t => exact readsBack_string t.text

section Members

variable (r : Record) (hr : r.Storable)
include hr

theorem Record.leading_readBack (c : Value) :
    List.Forall₂ (fun m u => ReadsBack m.2 (some u)) ((r.membersWith c).take 5)
      (((r.membersWith c).take 5).map Prod.snd) :=
  .cons (readsBack_string _) <| .cons (readsBack_string _) <| .cons (readsBack_string _) <|
    .cons (readsBack_intValue hr.tokensIn) <| .cons (readsBack_intValue hr.tokensOut) .nil

theorem Record.membersWith_readBack {c w : Value} (hc : ReadsBack c (some w)) :
    List.Forall₂ (fun m u => ReadsBack m.2 (some u)) (r.membersWith c)
      ((r.membersWith w).map Prod.snd) :=
  List.rel_append (r.leading_readBack hr c) <| .cons hc <|
    .cons (readsBack_intValue hr.durationMs) <| .cons (readsBack_string _) <|
    .cons (readsBack_string _) <| .cons (readsBack_string _) <| .cons (readsBack_string _) <|
    .cons (readsBack_string _) <| .cons (readsBack_bool _) <| .cons (readsBack_string _) <|
    .cons (readsBack_string _) <| .cons (readsBack_string _) <|
    .cons (readsBack_instantValue _) .nil

end Members

/-- The double that the text the writer gives `x` reads back as, if it reads. -/
def costReread (x : Float) : Option Float :=
  (Scan.readAll (Scan.value nestingRoom) (floatLiteral x)).toOption.bind fun v =>
    (readFloat v).toOption

theorem Record.toJson_eq_compact (r : Record) :
    r.toJson = (Value.object (r.membersWith (.number (.float r.costEstimate)))).compact := by
  rw [Record.toJson, Record.toValue_eq]

/-- When the cost's text reads alone as the value `w`, the record's text reads as the record
with `w`, read as a double, for its cost; where `w` reads as no double, it fails with the
message of that reading. -/
theorem Record.ofJsonText_toJson_of_cost (r : Record) (hr : r.Storable) {w : Value}
    (hw : (Scan.readAll (Scan.value nestingRoom) (floatLiteral r.costEstimate)).toOption =
      some w) :
    Record.ofJsonText r.toJson = ((readFloat w).mapError fun msg => .data msg none).map
      fun y => { r with costEstimate := y } := by
  have hcost := readsBack_float r.costEstimate
  rw [hw] at hcost
  have hread := readAll_object_reads (r.membersWith_readBack hr hcost) (List.cons_ne_nil _ _)
  rw [show ((r.membersWith _).map Prod.fst).zip ((r.membersWith w).map Prod.snd) =
    r.membersWith w from rfl] at hread
  simp only [Record.ofJsonText, r.toJson_eq_compact, hread, bind, Except.bind,
    fromMembers_dictionary r hr w]
  rcases readFloat w with e | y <;> rfl

/-- A storable record read back from its JSON text is itself, but for its cost, which is what
the text of the cost reads back as; when that text does not read, neither does the record. -/
theorem Record.ofJsonText_toJson (r : Record) (hr : r.Storable) :
    (Record.ofJsonText r.toJson).toOption =
      (costReread r.costEstimate).map fun y => { r with costEstimate := y } := by
  unfold costReread
  rcases hw : (Scan.readAll (Scan.value nestingRoom) (floatLiteral r.costEstimate)).toOption
    with _ | w
  · -- the cost's text does not read alone, and so the record's text does not read
    have hcost := readsBack_float r.costEstimate
    rw [hw] at hcost
    rcases hread : Scan.readAll (Scan.value nestingRoom) r.toJson with e | v
    · simp [Record.ofJsonText, hread, bind, Except.bind, Except.toOption]
    · rw [r.toJson_eq_compact] at hread
      exact absurd hread (readAll_object_fails
        (r.leading_readBack hr (.number (.float r.costEstimate))) "cost_estimate" hcost _ v)
  · rw [Record.ofJsonText_toJson_of_cost r hr hw]
    rcases hf : readFloat w with e | y <;> simp [hf, Except.toOption, Except.mapError, Except.map]

end TurnLedger.Activity
