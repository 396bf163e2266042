/-!
White space as Unicode defines it (the `White_Space` property), and the text operations built
on it: trimming both ends, testing for blank text, and splitting into words.

Blank characters are the ASCII controls from tab to carriage return, the space, next line,
no-break space, ogham space mark, the spaces from en quad to hair space, the line and paragraph
separators, narrow no-break space, medium mathematical space and the ideographic space. Zero
width space, the byte order mark and the information separators are not blank.
-/

namespace TurnLedger.Text

def isBlank (c : Char) : Bool :=
  let n := c.toNat
  (0x9 ≤ n && n ≤ 0xD) || n == 0x20 || n == 0x85 || n == 0xA0 || n == 0x1680 ||
    (0x2000 ≤ n && n ≤ 0x200A) || n == 0x2028 || n == 0x2029 || n == 0x202F ||
    n == 0x205F || n == 0x3000

def trimChars (cs : List Char) : List Char :=
  ((cs.dropWhile isBlank).reverse.dropWhile isBlank).reverse

def trim (s : String) : String :=
  String.ofList (trimChars s.toList)

def trimStart (s : String) : String :=
  String.ofList (s.toList.dropWhile isBlank)

/-- Whether the text holds nothing but blank characters (the empty text included). -/
def isBlankText (s : String) : Bool :=
  s.toList.all isBlank

/-- The words of a character list, collecting the current word in reverse. -/
def wordsAux : List Char → List Char → List (List Char)
  | [], cur => if cur.isEmpty then [] else [cur.reverse]
  | c :: cs, cur =>
    if isBlank c then
      if cur.isEmpty then wordsAux cs [] else cur.reverse :: wordsAux cs []
    else wordsAux cs (c :: cur)

def words (s : String) : List String :=
  (wordsAux s.toList []).map String.ofList

theorem trimChars_nil : trimChars [] = [] := rfl

end TurnLedger.Text
