import TurnLedger.Toml.Error

/-!
# TOML documents

A document is a table. Every item knows the span of text it came from: a value its own text, a
table given by a header the header and the values under it, an inline table its braces. Tables
made only to hold a deeper table (implicit ones) and tables made by dotted keys have no span of
their own. Members keep the order in which they were first written.

Building the document follows the rules of the format: a table is defined once; a header may
define a table that an earlier header only implied; dotted keys may extend only tables that
dotted keys made; nothing extends a value. `descend` walks a key path, creating implicit tables
on the way, and reports the first rule broken.
-/

namespace TurnLedger.Toml

/-- A key: its name, its text as written (with quotes, if quoted) and the span of that text. -/
structure Key where
  name : String
  raw : String
  span : Span
  deriving Repr

inductive Offset where
  | utc
  | minutes (m : Int)
  deriving Repr

structure Datetime where
  date : Option (Nat × Nat × Nat)
  time : Option (Nat × Nat × Nat × Nat)
  offset : Option Offset
  deriving Repr

structure TableKind where
  implicit : Bool := false
  dotted : Bool := false
  deriving Repr

/-- A TOML item. Inline tables are values; a dotted key inside braces makes one with no span. -/
inductive Item where
  | string (s : String) (span : Span)
  | integer (n : Int) (span : Span)
  | float (x : Float) (span : Span)
  | boolean (b : Bool) (span : Span)
  | datetime (d : Datetime) (span : Span)
  | array (items : List Item) (span : Span)
  | inlineTable (members : List (Key × Item)) (kind : TableKind) (span : Option Span)
  | table (members : List (Key × Item)) (kind : TableKind) (span : Option Span)
  | tableArray (tables : List Item) (span : Option Span)
  deriving Repr

def Item.span? : Item → Option Span
  | .string _ s | .integer _ s | .float _ s | .boolean _ s | .datetime _ s => some s
  | .array _ s => some s
  | .inlineTable _ _ s | .table _ _ s | .tableArray _ s => s

def Item.typeName : Item → String
  | .string .. => "string"
  | .integer .. => "integer"
  | .float .. => "float"
  | .boolean .. => "boolean"
  | .datetime .. => "datetime"
  | .array .. => "array"
  | .inlineTable .. => "inline table"
  | .table .. => "table"
  | .tableArray .. => "array of tables"

inductive Breach where
  /-- A key defined twice; `table` is the path of the table it is in, when known. -/
  | duplicateKey (key : String) (table : Option (List String))
  | extendsValue (path : List String) (actual : String)
  deriving Repr

def Breach.message : Breach → String
  | .duplicateKey k none => "duplicate key `" ++ k ++ "`"
  | .duplicateKey k (some []) => "duplicate key `" ++ k ++ "` in document root"
  | .duplicateKey k (some t) => "duplicate key `" ++ k ++ "` in table `" ++ ".".intercalate t ++ "`"
  | .extendsValue p actual =>
    "dotted key `" ++ ".".intercalate p ++ "` attempted to extend non-table type (" ++ actual ++ ")"

structure TableBody where
  members : List (Key × Item) := []
  kind : TableKind := {}
  span : Option Span := none
  deriving Repr

def TableBody.toItem (t : TableBody) : Item := .table t.members t.kind t.span

def lookup (members : List (Key × Item)) (name : String) : Option Item :=
  (members.find? (·.1.name == name)).map (·.2)

/-- Replaces the item of the member with a name, keeping its key, or appends a member. -/
def upsert (members : List (Key × Item)) (k : Key) (v : Item) : List (Key × Item) :=
  if members.any (·.1.name == k.name) then
    members.map fun m => if m.1.name == k.name then (m.1, v) else m
  else members ++ [(k, v)]

def removeMember (members : List (Key × Item)) (name : String) : List (Key × Item) :=
  members.filter (·.1.name != name)

def lastTable (tables : List Item) : Option TableBody :=
  match tables.getLast? with
  | some (.table ms k s) => some ⟨ms, k, s⟩
  | _ => none

/-- Walks `path` down from a table and changes the table reached with `f`. A missing step is
created as an implicit table, marked dotted when `dotted`; a list of tables is entered at its
last table; a value stops the walk, and so, for a dotted walk, does a table already defined.
`done` is the part of the path walked before. -/
def descend (dotted : Bool) (done : List String) (path : List Key) (t : TableBody)
    (f : TableBody → Except Breach (TableBody × α)) : Except Breach (TableBody × α) :=
  match path with
  | [] => f t
  | k :: rest =>
    let here := done ++ [k.name]
    let child : Except Breach TableBody :=
      match lookup t.members k.name with
      | none => .ok { kind := { implicit := true, dotted := dotted } }
      | some (.table ms kind s) =>
        if dotted && !kind.implicit then .error (.duplicateKey k.name none)
        else .ok ⟨ms, kind, s⟩
      | some (.tableArray ts _) =>
        match lastTable ts with
        | some last => .ok last
        | none => .error (.extendsValue here "array of tables")
      | some v => .error (.extendsValue here v.typeName)
    match child with
    | .error e => .error e
    | .ok c =>
      match descend dotted here rest c f with
      | .error e => .error e
      | .ok (c', a) =>
        let item := match lookup t.members k.name with
          | some (.tableArray ts s) => Item.tableArray (ts.dropLast ++ [c'.toItem]) s
          | _ => c'.toItem
        .ok ({ t with members := upsert t.members k item }, a)

def headerClash (path : List Key) : Breach :=
  match path.getLast? with
  | some k => .duplicateKey k.raw (some (path.dropLast.map (·.name)))
  | none => .duplicateKey "" (some [])

/-- A document being built: the tables finished so far, and the table now receiving values
with its header path (empty for the root) and whether it is one of a list of tables. -/
structure Building where
  root : TableBody := {}
  current : TableBody := { span := some ⟨0, 0⟩ }
  path : List Key := []
  inList : Bool := false
  deriving Repr

/-- Adds a value under the current table at `path ++ [key]`. The current table's span grows to
the value's end. -/
def Building.addValue (st : Building) (path : List Key) (key : Key) (v : Item) :
    Except Breach Building :=
  let span := match st.current.span, v.span? with
    | some e, some s => some ⟨e.start, s.stop⟩
    | e, _ => e
  let current := { st.current with span }
  let pathNames := st.path.map (·.name)
  match descend true [] path current (fun target =>
      if target.kind.dotted == path.isEmpty then .error (.duplicateKey key.name none)
      else if (lookup target.members key.name).isSome then
        .error (.duplicateKey key.name (some pathNames))
      else .ok ({ target with members := target.members ++ [(key, v)] }, ())) with
  | .error e => .error e
  | .ok (c, ()) => .ok { st with current := c }

def Building.finish (st : Building) : Except Breach Building :=
  let t := st.current
  let fresh : Building := { st with current := {}, path := [] }
  match st.path.getLast? with
  | none => .ok { fresh with root := t }
  | some key =>
    let parentPath := st.path.dropLast
    let placed : Except Breach (TableBody × Unit) :=
      descend false [] parentPath st.root fun parent =>
        if st.inList then
          match lookup parent.members key.name with
          | none =>
            .ok ({ parent with members := parent.members ++ [(key, .tableArray [t.toItem] t.span)] }, ())
          | some (.tableArray ts _) =>
            let all := ts ++ [t.toItem]
            let span := match (all.head?.bind Item.span?), (all.getLast?.bind Item.span?) with
              | some a, some z => some ⟨a.start, z.stop⟩
              | _, _ => none
            .ok ({ parent with members := upsert parent.members key (.tableArray all span) }, ())
          | some _ => .error (headerClash st.path)
        else
          match lookup parent.members key.name with
          | none => .ok ({ parent with members := parent.members ++ [(key, t.toItem)] }, ())
          | some (.table _ kind _) =>
            if kind.implicit then .ok ({ parent with members := upsert parent.members key t.toItem }, ())
            else .error (headerClash st.path)
          | some _ => .error (headerClash st.path)
    match placed with
    | .error e => .error e
    | .ok (root, ()) => .ok { fresh with root }

/-- Starts the table of a `[path]` header spanning `span`. A table that earlier headers only
implied is taken over with its contents; any other existing item is a clash. -/
def Building.openTable (st : Building) (path : List Key) (span : Span) : Except Breach Building :=
  match st.finish with
  | .error e => .error e
  | .ok st =>
    match path.getLast? with
    | none => .ok st
    | some key =>
      let taken : Except Breach (TableBody × Option TableBody) :=
        descend false [] path.dropLast st.root fun parent =>
          match lookup parent.members key.name with
          | none => .ok (parent, none)
          | some (.table ms kind s) =>
            if kind.implicit && !kind.dotted then
              .ok ({ parent with members := removeMember parent.members key.name }, some ⟨ms, kind, s⟩)
            else .error (headerClash path)
          | some _ => .error (headerClash path)
      match taken with
      | .error e => .error e
      | .ok (root, prior) =>
        let base := prior.getD {}
        .ok { root, current := { base with kind := {}, span := some span }, path, inList := false }

/-- Starts a new table of the list named by a `[[path]]` header spanning `span`. -/
def Building.openListEntry (st : Building) (path : List Key) (span : Span) : Except Breach Building :=
  match st.finish with
  | .error e => .error e
  | .ok st =>
    match path.getLast? with
    | none => .ok st
    | some key =>
      let checked : Except Breach (TableBody × Unit) :=
        descend false [] path.dropLast st.root fun parent =>
          match lookup parent.members key.name with
          | none => .ok ({ parent with members := parent.members ++ [(key, .tableArray [] none)] }, ())
          | some (.tableArray ..) => .ok (parent, ())
          | some _ => .error (headerClash path)
      match checked with
      | .error e => .error e
      | .ok (root, ()) =>
        .ok { root, current := { span := some span }, path, inList := true }

def Building.document (st : Building) : Except Breach TableBody :=
  (st.finish).map (·.root)

end TurnLedger.Toml
