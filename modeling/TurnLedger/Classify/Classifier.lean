import TurnLedger.Classify.RuleSet

/-!
# Classifying a turn

A turn is classified from its signals (the prompt, the assistant's reply and the tools used)
in five stages; the first that decides wins.

1. An explicit override: `category`, blanks, `:`, blanks and a name of letters `a` to `z` and
   underscores, found first in the lowercased prompt and reply (joined by a line feed), when the
   name is a category of the rule set.
2. The prompt's keywords: the scored category with the highest score, if that score is at least
   two and no other category reaches it.
3. The tools: the first tool (trimmed, lowercased, not blank) that a scored category matches,
   categories tried in name order.
4. The reply's keywords, as for the prompt.
5. The default category.

In the override, the letter class also takes the long s `ſ`, which folds to `s`.
-/

namespace TurnLedger.Classify

structure Signals where
  promptText : String := ""
  assistantText : String := ""
  toolsUsed : List String := []
  deriving Repr

inductive Reason where
  | named (category : String)
  | promptKeywords (category : String) (score : Nat)
  | tool (tool : String)
  | replyKeywords (category : String) (score : Nat)
  | fallback
  deriving DecidableEq, Repr

def Reason.text : Reason → String
  | .named c => "explicit_override:category=" ++ c
  | .promptKeywords c n => "prompt_keyword_score:" ++ c ++ "=" ++ toString n
  | .tool t => "tool_signal:" ++ t
  | .replyKeywords c n => "assistant_keyword_score:" ++ c ++ "=" ++ toString n
  | .fallback => "fallback:insufficient_signals"

structure Classification where
  category : String
  reason : Reason
  deriving DecidableEq, Repr

def Classification.display (c : Classification) : String :=
  c.category ++ " (" ++ c.reason.text ++ ")"

def decidingScore : Nat := 2

def isNameChar (c : Char) : Bool := ('a' ≤ c && c ≤ 'z') || c = '_' || c = 'ſ'

/-- The override name right after `category` in `rest`, if the rest of the form follows. -/
def overrideName (rest : List Char) : Option (List Char) :=
  let rest := rest.dropWhile Text.isBlank
  match rest with
  | ':' :: more =>
    let name := (more.dropWhile Text.isBlank).takeWhile isNameChar
    if name.isEmpty then none else some name
  | _ => none

def firstOverride : List Char → Option (List Char)
  | [] => none
  | c :: rest =>
    let here :=
      if "category".toList.isPrefixOf (c :: rest) then overrideName (rest.drop 7) else none
    match here with
    | some name => some name
    | none => firstOverride rest

def namedCategory? (s : Signals) (rs : RuleSet) : Option String :=
  let joined := Text.lower (s.promptText ++ "\n" ++ s.assistantText)
  if Text.isBlankText joined then none
  else
    match firstOverride joined.toList with
    | some name =>
      let candidate := String.ofList name
      if rs.contains candidate then some candidate else none
    | none => none

structure Standing where
  best : Option (String × Nat) := none
  tied : Bool := false

def Standing.step (st : Standing) (category : String) (score : Nat) : Standing :=
  if score = 0 then st
  else match st.best with
    | some (_, top) =>
      if score < top then st
      else if score = top then { st with tied := true }
      else ⟨some (category, score), false⟩
    | none => ⟨some (category, score), false⟩

/-- Stages 2 and 4: the category that a text's keywords decide for, with its score. -/
def keywordLeader? (text : String) (rs : RuleSet) : Option (String × Nat) :=
  if Text.isBlankText text then none
  else
    let lowered := Text.lower text
    let st := rs.scored.foldl (fun (st : Standing) (name, rule) => st.step name (rule.score lowered)) {}
    match st.best with
    | some (c, n) => if !st.tied && n ≥ decidingScore then some (c, n) else none
    | none => none

/-- Stage 3: the first tool that a scored category matches, with that category. -/
def toolCategory? (tools : List String) (rs : RuleSet) : Option (String × String) :=
  tools.findSome? fun raw =>
    let tool := normalize raw
    if tool.isEmpty then none
    else (rs.scored.find? fun (_, rule) => (rule.toolMatch? tool).isSome).map fun (c, _) =>
      (c, tool)

def classify (s : Signals) (rs : RuleSet) : Classification :=
  match namedCategory? s rs with
  | some c => ⟨c, .named c⟩
  | none =>
  match keywordLeader? s.promptText rs with
  | some (c, n) => ⟨c, .promptKeywords c n⟩
  | none =>
  match toolCategory? s.toolsUsed rs with
  | some (c, t) => ⟨c, .tool t⟩
  | none =>
  match keywordLeader? s.assistantText rs with
  | some (c, n) => ⟨c, .replyKeywords c n⟩
  | none => ⟨rs.defaultCategory, .fallback⟩

end TurnLedger.Classify
