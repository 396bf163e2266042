import TurnLedger.Text.Blank
import TurnLedger.Text.Letter
import TurnLedger.Text.Lowercase

/-!
# Keywords

A keyword is trimmed and lowercased; a blank one is dropped. A keyword of two or more words is a
phrase, found in a text as a plain substring. A single word is found as a whole word: an
occurrence counts only where it is not glued to a word character on a side where the keyword
itself starts or ends with a letter, digit or underscore. Word characters for that test are the
alphabetic characters, marks, decimal digits, connector punctuation and the joiners; which ends
are tested is decided by the letters, digits and underscore.

A word keyword is also shown as the equivalent regular expression: `\b` on each tested side and
the keyword with every operator character escaped.
-/

namespace TurnLedger.Classify

inductive Keyword where
  /-- A single word; `leading` and `trailing` say which ends must sit at a word boundary. -/
  | word (text : String) (leading trailing : Bool)
  | phrase (text : String)
  deriving DecidableEq, Repr

def normalize (s : String) : String := Text.lower (Text.trim s)

def testsBoundary (c : Char) : Bool := Text.isAlphanumeric c || c = '_'

def Keyword.compile (raw : String) : Option Keyword :=
  let k := normalize raw
  if k.isEmpty then none
  else if (Text.words k).length ≥ 2 then some (.phrase k)
  else
    let cs := k.toList
    some (.word k (cs.head?.any testsBoundary) (cs.getLast?.any testsBoundary))

def isOperatorChar (c : Char) : Bool :=
  "\\.+*?()|[]^$#&-~".toList.contains c || c = '\x7b' || c = '\x7d'

def escapeOperators (s : String) : String :=
  String.join (s.toList.map fun c => if isOperatorChar c then "\\" ++ c.toString else c.toString)

/-- The regular expression a word keyword stands for, or the text of a phrase. -/
def Keyword.pattern : Keyword → String
  | .word k leading trailing =>
    (if leading then "\\b" else "") ++ escapeOperators k ++ (if trailing then "\\b" else "")
  | .phrase k => k

/-- Whether a word boundary lies between two neighbouring characters (`none` past an end). -/
def isBoundary (before after : Option Char) : Bool :=
  before.any Text.inWordClass != after.any Text.inWordClass

/-- Whether `pat` occurs in `rest` (preceded by `before`) with the boundary tests. -/
def occursFrom (pat : List Char) (leading trailing : Bool) :
    Option Char → List Char → Bool
  | before, rest =>
    let here :=
      pat.isPrefixOf rest &&
        (!leading || isBoundary before rest.head?) &&
        (!trailing || isBoundary pat.getLast? (rest.drop pat.length).head?)
    here || match rest with
      | [] => false
      | c :: more => occursFrom pat leading trailing (some c) more

def isSubstring (pat s : List Char) : Bool := occursFrom pat false false none s

/-- Whether the keyword is found in a text (which is not lowercased here). -/
def Keyword.matches (k : Keyword) (text : String) : Bool :=
  match k with
  | .word w leading trailing => occursFrom w.toList leading trailing none text.toList
  | .phrase p => isSubstring p.toList text.toList

end TurnLedger.Classify
