/-!
# Paths

Paths are texts with `/` between their parts. Joining puts one `/` between two paths unless the
first is empty or already ends with one; an absolute second path replaces the first. The file
name is the last normal part, ignoring trailing slashes and `.` parts; it has no file name when
it ends in `..` or is the root. A file name splits at its last dot into stem and extension,
except that a name whose only dot leads it (`.json`) has no extension.
-/

namespace TurnLedger.Files

abbrev Path := String

/-- The texts between the occurrences of `sep`, in order: one more than there are occurrences. -/
def splitBy (s : String) (sep : Char) : List String := (s.toList.splitOn sep).map String.ofList

def join (base rest : Path) : Path :=
  if rest.startsWith "/" then rest
  else if base.isEmpty || base.endsWith "/" then base ++ rest
  else base ++ "/" ++ rest

/-- The parts between slashes, without empty and `.` parts after the first. -/
def parts (p : Path) : List String :=
  let raw := splitBy p '/'
  match raw with
  | [] => []
  | first :: rest => first :: rest.filter fun s => !s.isEmpty && s != "."

def fileName (p : Path) : Option String :=
  match (parts p).getLast? with
  | some last => if last.isEmpty || last == "." || last == ".." then none else some last
  | none => none

def splitAtDot (name : String) : String × Option String :=
  match (splitBy name '.').reverse with
  | [] | [_] => (name, none)
  | ext :: revStem =>
    let stem := ".".intercalate revStem.reverse
    if stem.isEmpty then (name, none) else (stem, some ext)

def extension (p : Path) : Option String := (fileName p).bind fun n => (splitAtDot n).2

def fileStem (p : Path) : Option String := (fileName p).map fun n => (splitAtDot n).1

def parent (p : Path) : Option Path :=
  let ps := parts p
  match ps.reverse with
  | [] => none
  | [only] => if only.isEmpty then none else some ""
  | _ :: before => some ("/".intercalate before.reverse |> fun s => if s.isEmpty then "/" else s)

end TurnLedger.Files
