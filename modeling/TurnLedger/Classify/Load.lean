import TurnLedger.Classify.JsonSpec
import TurnLedger.Classify.TomlSpec
import TurnLedger.Files.Volume

/-!
# Loading rule sets

A rule set comes from JSON or TOML text, or from a file whose extension (`json` or `toml`, in
any case) names its format. The file is read before its extension is looked at, so a missing
file is reported as such whatever its name.
-/

namespace TurnLedger.Classify

inductive LoadError where
  | io (path : String) (failure : Files.IoFailure)
  | json (e : Json.Error)
  | toml (shown : String)
  | unsupported (extension : String)

def LoadError.message : LoadError → String
  | .io path f => "Failed to read rule file " ++ path ++ ": " ++ f.message
  | .json e => "Invalid JSON rule file: " ++ e.message
  | .toml shown => "Invalid TOML rule file: " ++ shown
  | .unsupported ext => "Unsupported rule file extension: " ++ Text.quote ext

/-- The causes beneath a load failure: the failure of reading or decoding the file. -/
def LoadError.causes : LoadError → List String
  | .io _ f => [f.message]
  | .json e => [e.message]
  | .toml shown => [shown]
  | .unsupported _ => []

def RuleSet.ofJsonText (text : String) : Except LoadError RuleSet :=
  match RuleFile.ofJsonText text with
  | .ok spec => .ok spec.compile
  | .error e => .error (.json e)

def RuleSet.ofTomlText (text : String) : Except LoadError RuleSet :=
  match RuleFile.ofTomlText text with
  | .ok spec => .ok spec.compile
  | .error e => .error (.toml e)

def asciiLower (s : String) : String :=
  String.ofList (s.toList.map fun c => if 'A' ≤ c && c ≤ 'Z' then Char.ofNat (c.toNat + 32) else c)

def RuleSet.ofFile (volume : Files.Volume) (path : String) : Except LoadError RuleSet :=
  match volume.readText path with
  | .error f => .error (.io path f)
  | .ok text =>
    match asciiLower ((Files.extension path).getD "") with
    | "json" => RuleSet.ofJsonText text
    | "toml" => RuleSet.ofTomlText text
    | other => .error (.unsupported other)

end TurnLedger.Classify
