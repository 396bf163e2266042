import TurnLedger.Classify.RuleSet
import TurnLedger.Json.Decode

/-!
# Rule sets written in JSON

A rule set is an object with `default_category` (a string) and `categories` (an object from
names to rules); a rule is an object with `keywords` and `tools`, both arrays of strings. Every
field may be left out, unknown fields are skipped, and a record may also be given as an array
of its fields in order. A name given twice in `categories` keeps the later rule.
-/

namespace TurnLedger.Classify

open Json

def readStrings (room : Nat) : Scan (List String) :=
  Scan.listOf room "a sequence" fun _ => Scan.text "a string"

def readCategorySpec (room : Nat) : Scan CategorySpec :=
  Scan.recordOf room "struct CategoryRuleSpec"
    (fun inner => do
      let keywords ← Scan.positional true (readStrings inner)
      let tools ← Scan.positional keywords.isNone (readStrings inner)
      pure { keywords := keywords.getD [], tools := tools.getD [] })
    (fun inner => Scan.fields [
      ⟨"keywords", fun r acc => do pure { acc with keywords := ← readStrings r }⟩,
      ⟨"tools", fun r acc => do pure { acc with tools := ← readStrings r }⟩] inner {})

/-- The categories: an object from names to rules, kept sorted, the later of a repeated name
winning. -/
def readCategories (room : Nat) : Scan (List (String × CategorySpec)) :=
  Scan.objectOf room "a map" fun inner => do
    let members ← Scan.members (readCategorySpec inner)
    pure (members.foldl (fun acc (k, v) => insertEntry k v acc) [])

def readRuleSetSpec (room : Nat) : Scan RuleFile :=
  Scan.recordOf room "struct RuleSetSpec"
    (fun inner => do
      let d ← Scan.positional true (Scan.text "a string")
      let cats ← Scan.positional d.isNone (readCategories inner)
      pure { defaultCategory := d.getD "", categories := cats.getD [] })
    (fun inner => Scan.fields [
      ⟨"default_category", fun _ acc => do pure { acc with defaultCategory := ← Scan.text "a string" }⟩,
      ⟨"categories", fun r acc => do pure { acc with categories := ← readCategories r }⟩] inner {})

def RuleFile.ofJsonText (text : String) : Except Json.Error RuleFile :=
  Scan.readAll (readRuleSetSpec nestingRoom) text

end TurnLedger.Classify
