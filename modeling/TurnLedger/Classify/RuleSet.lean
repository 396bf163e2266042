import TurnLedger.Classify.Keyword

/-!
# Rule sets

A rule set names a default category and, per category, keywords and tool names. As written
(`RuleFile`) names and entries are free text; compiled (`RuleSet`) every name, keyword and
tool is trimmed and lowercased, blanks are dropped, and keywords and tools are sorted and
distinct. Categories are kept sorted by name; two names that compile to the same one keep the
rule of the one written later in name order. A blank default becomes `general`, and the
default category is always present, with an empty rule unless one is given.

A category scores a lowercased text by the number of its keywords found in it, and matches a
tool name by the first of its tools (in sorted order) that occurs in that name. The built-in
rules score `code`, `research`, `automation` and `admin` and default to `general`.
-/

namespace TurnLedger.Classify

structure CategorySpec where
  keywords : List String := []
  tools : List String := []
  deriving Repr

/-- A rule set as written: the categories form a dictionary sorted by name. -/
structure RuleFile where
  defaultCategory : String := ""
  categories : List (String × CategorySpec) := []
  deriving Repr

structure Criteria where
  keywords : List Keyword := []
  tools : List String := []
  deriving Repr

/-- A compiled rule set: categories sorted by name, the default among them. -/
structure RuleSet where
  defaultCategory : String
  categories : List (String × Criteria)
  deriving Repr

def insertSorted (x : String) : List String → List String
  | [] => [x]
  | y :: ys => if x < y then x :: y :: ys else if x == y then y :: ys else y :: insertSorted x ys

def sortedDistinct (xs : List String) : List String := xs.foldl (fun acc x => insertSorted x acc) []

/-- Inserts an entry into a list sorted by key, replacing an entry of the same key. -/
def insertEntry (k : String) (v : α) : List (String × α) → List (String × α)
  | [] => [(k, v)]
  | (k', v') :: rest =>
    if k < k' then (k, v) :: (k', v') :: rest
    else if k == k' then (k, v) :: rest
    else (k', v') :: insertEntry k v rest

/-- A category rule compiled: its keywords and tools normalized, sorted and distinct. -/
def CategorySpec.compile (spec : CategorySpec) : Criteria :=
  { keywords := (sortedDistinct (spec.keywords.map normalize)).filterMap Keyword.compile
    tools := (sortedDistinct (spec.tools.map normalize)).filter (!·.isEmpty) }

def fallbackCategory : String := "general"

def RuleFile.compile (spec : RuleFile) : RuleSet :=
  let d := normalize spec.defaultCategory
  let d := if d.isEmpty then fallbackCategory else d
  let cats := spec.categories.foldl (fun acc (name, rule) =>
    let n := normalize name
    if n.isEmpty then acc else insertEntry n rule.compile acc) []
  let cats := if cats.any (·.1 == d) then cats else insertEntry d {} cats
  ⟨d, cats⟩

def RuleSet.contains (rs : RuleSet) (name : String) : Bool := rs.categories.any (·.1 == name)

def RuleSet.scored (rs : RuleSet) : List (String × Criteria) :=
  rs.categories.filter (·.1 != rs.defaultCategory)

def Criteria.score (r : Criteria) (text : String) : Nat :=
  (r.keywords.filter (·.matches text)).length

def Criteria.toolMatch? (r : Criteria) (tool : String) : Option String :=
  r.tools.find? fun t => isSubstring t.toList tool.toList

def builtinSpec : RuleFile where
  defaultCategory := "general"
  categories := [
    ("admin", {
      keywords := ["admin", "openclaw", "release", "update", "upgrade", "install", "configure",
        "settings", "discord", "slack", "jira", "ticket", "email", "calendar", "account",
        "permissions"]
      tools := ["gateway", "message", "sessions_", "nodes"] }),
    ("automation", {
      keywords := ["cron", "schedule", "scheduled", "automate", "automation", "workflow",
        "recurring", "trigger", "reminder", "heartbeat", "every day", "every hour"]
      tools := ["cron"] }),
    ("code", {
      keywords := ["code", "bug", "fix", "refactor", "test", "tests", "compile", "function",
        "implement", "debug", "commit", "merge", "lint", "stack trace", "pull request",
        "unit test"]
      tools := ["write", "edit", "apply_patch", "exec", "bash", "shell", "git"] }),
    ("general", {}),
    ("research", {
      keywords := ["research", "compare", "comparison", "investigate", "analyze", "analysis",
        "findings", "sources", "summarize", "evaluate", "find out", "look up", "pros and cons"]
      tools := ["web_search", "web_fetch", "browser", "search"] })]

def builtinRules : RuleSet := builtinSpec.compile

end TurnLedger.Classify
