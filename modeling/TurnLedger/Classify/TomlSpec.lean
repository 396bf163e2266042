import TurnLedger.Classify.RuleSet
import TurnLedger.Toml.Decode

/-!
# Rule sets written in TOML

The same rule set as in JSON: `default_category` (a string) and `categories` (a table from names
to rules), a rule holding `keywords` and `tools`, arrays of strings. Every field may be left out
and unknown fields are skipped.
-/

namespace TurnLedger.Classify

open Toml

def tomlStrings (item : Item) : Decoded (List String) :=
  item.readList (Item.readString "a string")

def tomlCategorySpec (item : Item) : Decoded CategorySpec :=
  item.readRecord "struct CategoryRuleSpec" [
    ⟨"keywords", fun v acc => (tomlStrings v).map fun ks => { acc with keywords := ks }⟩,
    ⟨"tools", fun v acc => (tomlStrings v).map fun ts => { acc with tools := ts }⟩] {}

def tomlCategories (item : Item) : Decoded (List (String × CategorySpec)) :=
  (item.readMap tomlCategorySpec).map fun entries =>
    entries.foldl (fun acc (k, v) => insertEntry k v acc) []

def tomlRuleSetSpec (item : Item) : Decoded RuleFile :=
  item.readRecord "struct RuleSetSpec" [
    ⟨"default_category", fun v acc => (v.readString "a string").map fun d => { acc with defaultCategory := d }⟩,
    ⟨"categories", fun v acc => (tomlCategories v).map fun cs => { acc with categories := cs }⟩] {}

def RuleFile.ofTomlText (text : String) : Except String RuleFile :=
  decodeDocument tomlRuleSetSpec text

end TurnLedger.Classify
