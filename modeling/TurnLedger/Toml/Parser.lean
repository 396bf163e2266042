import TurnLedger.Toml.Number

/-!
# Reading a TOML document

A document is a sequence of lines: blank ones, comments, key-value pairs (`key = value`, the key
possibly dotted) and table headers (`[a.b]` for a table, `[[a.b]]` for the next table of a
list), each value or header ending its line. A value is a string, number, boolean, date-time,
array (`[v, …]`, line ends and comments allowed between items, a trailing comma allowed) or
inline table (`{k = v, …}` on one line). Arrays and inline tables nest at most 79 deep, and a
dotted key has fewer than 80 parts.

The first character of a value decides how it is read; one that starts no value is reported as
a missing string. Failures name what was being read and what would have been accepted there.
-/

namespace TurnLedger.Toml

def tooDeepCause : String := "recursion limit exceeded"

def nestingLimit : Nat := 80

def simpleKey (b : ByteArray) (i : Nat) : Step Key :=
  let named : Step String :=
    match byteAt b i with
    | none => .error (soft i)
    | some 0x22 => basicString b i
    | some 0x27 => literalString b i
    | some _ =>
      let j := scanWhile isBareKeyByte b i
      if j == i then .error (soft i) else .ok (slice b i j, j)
  named.map fun (name, j) => ({ name, raw := slice b i j, span := ⟨i, j⟩ }, j)

def keyPart (b : ByteArray) (i : Nat) : Step Key :=
  (simpleKey b (blank b i)).map fun (k, j) => (k, blank b j)

def separatedRest (item : Nat → Step α) (sep : UInt8) (b : ByteArray) :
    Nat → Nat → List α → Step (List α)
  | 0, i, acc => .ok (acc.reverse, i)
  | fuel + 1, i, acc =>
    if byteAt b i != some sep then .ok (acc.reverse, i)
    else
      match item (i + 1) with
      | .ok (a, j) => separatedRest item sep b fuel j (a :: acc)
      | .error f => if f.cut then .error f else .ok (acc.reverse, i)

def separatedOne (item : Nat → Step α) (sep : UInt8) (b : ByteArray) (i : Nat) : Step (List α) :=
  match item i with
  | .error f => .error f
  | .ok (a, j) => separatedRest item sep b (b.size + 1) j [a]

def keyAt (b : ByteArray) (i : Nat) : Step (List Key) :=
  match Step.within (separatedOne (keyPart b) 0x2E b i) [.label "key"] with
  | .error f => .error f
  | .ok (ks, j) =>
    if nestingLimit ≤ ks.length then .error { offset := i, cause := some tooDeepCause }
    else .ok (ks, j)

/-- Walks a dotted path inside an inline table, creating implicit inline tables, and adds a
value at its end. -/
def placeInline (done : List String) (path : List Key) (key : Key) (v : Item)
    (members : List (Key × Item)) (dotted : Bool) : Except Breach (List (Key × Item)) :=
  match path with
  | [] =>
    if dotted == done.isEmpty then .error (.duplicateKey key.name none)
    else if (lookup members key.name).isSome then .error (.duplicateKey key.name none)
    else .ok (members ++ [(key, v)])
  | k :: rest =>
    let here := done ++ [k.name]
    match lookup members k.name with
    | none =>
      (placeInline here rest key v [] true).map fun ms =>
        members ++ [(k, .inlineTable ms { implicit := true, dotted := true } none)]
    | some (.inlineTable ms kind s) =>
      if !kind.implicit then .error (.duplicateKey k.name none)
      else
        (placeInline here rest key v ms kind.dotted).map fun ms' =>
          upsert members k (.inlineTable ms' kind s)
    | some other => .error (.extendsValue here other.typeName)

def inlineMembers (pairs : List (List Key × Key × Item)) : Except Breach (List (Key × Item)) :=
  pairs.foldlM (fun ms (path, key, v) => placeInline [] path key v ms false) []

/-- A key, `=` and a value given by `item`; after the key every failure is hard. -/
def pairWith (item : Nat → Step Item) (b : ByteArray) (i : Nat) :
    Step (List Key × Key × Item) :=
  match keyAt b i with
  | .error f => .error f
  | .ok (keys, j) =>
    if byteAt b j != some 0x3D then
      .error { offset := j, cut := true, contexts := [expectChar '.', expectChar '='] }
    else
      match Step.hard (item (blank b (j + 1))) with
      | .error f => .error f
      | .ok (v, k) =>
        match keys.getLast? with
        | some leaf => .ok ((keys.dropLast, leaf, v), k)
        | none => .error (soft i)

def arrayItem (item : Nat → Step Item) (b : ByteArray) (i : Nat) : Step Item :=
  match gap b (b.size + 1) i with
  | .error f => .error f
  | .ok (_, j) =>
    match item j with
    | .error f => .error f
    | .ok (v, k) =>
      match gap b (b.size + 1) k with
      | .error f => .error f
      | .ok (_, l) => .ok (v, l)

/-- The items of an array whose `[` is at `i`, and the offset after its `]`. -/
def arrayWith (item : Nat → Step Item) (b : ByteArray) (i : Nat) : Step (List Item) :=
  let body : Step (List Item) :=
    match Step.optional (separatedOne (arrayItem item b) 0x2C b (i + 1)) (i + 1) with
    | .error f => .error f
    | .ok (items, j) =>
      let items := items.getD []
      let j := if !items.isEmpty && byteAt b j == some 0x2C then j + 1 else j
      (gap b (b.size + 1) j).map fun (_, k) => (items, k)
  match Step.hard body with
  | .error f => .error f
  | .ok (items, j) =>
    if byteAt b j == some 0x5D then .ok (items, j + 1)
    else .error { offset := j, cut := true, contexts := [.label "array", expectChar ']'] }

/-- The members of an inline table whose `{` is at `i`, and the offset after its `}`. -/
def inlineTableWith (item : Nat → Step Item) (b : ByteArray) (i : Nat) :
    Step (List (Key × Item)) :=
  let pair := fun k => (pairWith item b k).map fun (p, l) => (p, blank b l)
  let pairs : Step (List (List Key × Key × Item)) :=
    match Step.optional (separatedOne pair 0x2C b (i + 1)) (i + 1) with
    | .error f => .error f
    | .ok (ps, j) => .ok (ps.getD [], blank b j)
  match Step.hard pairs with
  | .error f => .error f
  | .ok (ps, j) =>
    match inlineMembers ps with
    | .error e => .error (hardCause (i + 1) e.message)
    | .ok members =>
      if byteAt b j == some 0x7D then .ok (members, j + 1)
      else .error { offset := j, cut := true, contexts := [.label "inline table", expectChar '}'] }

def stringIntent : List Context := [.label "string", expectChar '"', expectChar '\'']

/-- A value at `i`; `room` is the nesting still allowed, counting this value. -/
def valueAt (b : ByteArray) : Nat → Nat → Step Item
  | 0, i => .error (hardCause i tooDeepCause)
  | room + 1, i =>
    let spanned := fun (make : Span → Item) (j : Nat) => (make ⟨i, j⟩, j)
    match byteAt b i with
    | none => .error (soft i)
    | some c =>
      if c == 0x22 || c == 0x27 then
        (anyString b i).map fun (s, j) => spanned (.string s) j
      else if c == 0x5B then
        if room == 0 then .error (hardCause i tooDeepCause)
        else (arrayWith (valueAt b room) b i).map fun (items, j) => spanned (.array items) j
      else if c == 0x7B then
        if room == 0 then .error (hardCause i tooDeepCause)
        else (inlineTableWith (valueAt b room) b i).map fun (ms, j) =>
          spanned (fun sp => .inlineTable ms {} (some sp)) j
      else if c == 0x2B || c == 0x2D || isDigitByte c then
        Step.orElse ((datetimeAt b i).map fun (d, j) => spanned (.datetime d) j) fun _ =>
          Step.orElse ((floatAt b i).map fun (x, j) => spanned (.float x) j) fun _ =>
            (integerAt b i).map fun (n, j) => spanned (.integer n) j
      else if c == 0x5F then
        Step.within ((integerAt b i).map fun (n, j) => spanned (.integer n) j)
          [expectWords "leading digit"]
      else if c == 0x2E then
        Step.within ((floatAt b i).map fun (x, j) => spanned (.float x) j)
          [expectWords "leading digit"]
      else if c == 0x74 || c == 0x66 then
        Step.within ((booleanAt b i).map fun (v, j) => spanned (.boolean v) j) stringIntent
      else if c == 0x69 || c == 0x6E then
        let word := if c == 0x69 then [0x69, 0x6E, 0x66] else [0x6E, 0x61, 0x6E]
        let x := if c == 0x69 then infinity else 0.0 / 0.0
        if startsWith b i word then .ok (spanned (.float x) (i + 3))
        else .error { offset := i, contexts := stringIntent }
      else .error { offset := i, contexts := stringIntent }

def pairLine (b : ByteArray) (i : Nat) : Step (List Key × Key × Item) :=
  match pairWith (valueAt b nestingLimit) b i with
  | .error f => .error f
  | .ok (p, j) =>
    match lineTrailing b j with
    | .ok (_, k) => .ok (p, k)
    | .error f => .error { f with cut := true, contexts := f.contexts ++ [expectChar '\n', expectChar '#'] }

def headerLine (b : ByteArray) (st : Building) (i : Nat) : Except Failure (Building × Nat) :=
  let inList := startsWith b i [0x5B, 0x5B]
  let opening := if inList then 2 else 1
  let closing : List UInt8 := if inList then [0x5D, 0x5D] else [0x5D]
  let close := if inList then "`]]`" else "`]`"
  let r : Except Failure (Building × Nat) :=
    if b.size < i + 2 then .error (soft i)
    else
      match Step.hard (keyAt b (i + opening)) with
      | .error f => .error f
      | .ok (keys, j) =>
        if !startsWith b j closing then
          .error { offset := j, cut := true, contexts := [expectChar '.', expectWords close] }
        else
          let k := j + closing.length
          match lineTrailing b k with
          | .error f =>
            .error { f with cut := true, contexts := f.contexts ++ [expectChar '\n', expectChar '#'] }
          | .ok (_, l) =>
            let opened := if inList then st.openListEntry keys ⟨i, k⟩ else st.openTable keys ⟨i, k⟩
            match opened with
            | .error e => .error (hardCause i e.message)
            | .ok st' => .ok (st', l)
  match r with
  | .error f => .error { f with cut := true, contexts := f.contexts ++ [.label "table header"] }
  | ok => ok

/-- The lines of a document from `i`, until the text ends or a line cannot start. -/
def documentLines (b : ByteArray) : Nat → Building → Nat → Except Failure (Building × Nat)
  | 0, st, i => .ok (st, i)
  | fuel + 1, st, i =>
    let next : Except Failure (Option (Building × Nat)) :=
      match byteAt b i with
      | none => .ok none
      | some 0x23 =>
        match lineEnding b ((comment b i).getD i) with
        | .ok (_, j) => .ok (some (st, j))
        | .error f => .error { f with cut := true }
      | some 0x5B => (headerLine b st i).map some
      | some 0x0A | some 0x0D =>
        match newline b i with
        | .ok (_, j) => .ok (some (st, j))
        | .error _ => .ok none
      | some _ =>
        match pairLine b i with
        | .error f => .error { f with cut := true }
        | .ok ((path, key, v), j) =>
          match st.addValue path key v with
          | .error e => .error (hardCause i e.message)
          | .ok st' => .ok (some (st', j))
    match next with
    | .error f => .error f
    | .ok none => .ok (st, i)
    | .ok (some (st', j)) => documentLines b fuel st' (blank b j)

def byteOrderMark : List UInt8 := [0xEF, 0xBB, 0xBF]

def parseDocument (text : String) : Except Error TableBody :=
  let b := text.toUTF8
  let start := blank b (if startsWith b 0 byteOrderMark then 3 else 0)
  match documentLines b (b.size + 1) {} start with
  | .error f => .error (Error.ofFailure f b)
  | .ok (st, i) =>
    if i < b.size then .error (Error.ofFailure (soft i) b)
    else
      match st.document with
      | .error e => .error { message := e.message, span := none }
      | .ok root => .ok root

end TurnLedger.Toml
