import TurnLedger.Files.Path

/-!
# A file system as a value

A volume maps paths to files and directories. A path names a node by its parts; every proper
start of an existing node's parts is a directory, and the root always exists. A relative path
starts at the working directory, `..` goes up through a directory, a named part followed by a
further part must be a directory, and the empty path names nothing. A path that ends in slashes
after a named part names a directory: it can be created as one, but not written as a file.
Operations fail
as a POSIX system does: a missing part is "not found", a file where a directory is needed is
"not a directory", reading or unlinking a directory is "is a directory", creating over an
existing node is "file exists", removing a non-empty directory is "directory not empty", and
text that is not UTF-8 cannot be read as a string.
-/

namespace TurnLedger.Files

inductive Node where
  | file (bytes : ByteArray)
  | directory

instance : DecidableEq Node
  | .file a, .file b =>
    match ByteArray.instDecidableEq a b with
    | isTrue h => isTrue (h ▸ rfl)
    | isFalse h => isFalse fun e => h (Node.file.inj e)
  | .file _, .directory => isFalse fun e => Node.noConfusion e
  | .directory, .file _ => isFalse fun e => Node.noConfusion e
  | .directory, .directory => isTrue rfl

inductive IoFailure where
  | notFound
  | isDirectory
  | notDirectory
  | alreadyExists
  | notEmpty
  | invalidUtf8
  deriving DecidableEq, Repr

def IoFailure.message : IoFailure → String
  | .notFound => "No such file or directory (os error 2)"
  | .isDirectory => "Is a directory (os error 21)"
  | .notDirectory => "Not a directory (os error 20)"
  | .alreadyExists => "File exists (os error 17)"
  | .notEmpty => "Directory not empty (os error 39)"
  | .invalidUtf8 => "stream did not contain valid UTF-8"

/-- Follows parts from the place `here`: empty and `.` parts stay where they are, `..` goes up
(the root is its own parent) and any other part goes down. The result is where the parts lead
and, in order, each place the system requires to be a directory on the way: a place left by a
`..`, and a place reached by a named part that a later part other than the empty one follows. -/
def traceParts (here : List String) (left : List (List String)) :
    List String → List String × List (List String)
  | [] => (here, left)
  | s :: rest =>
    if s.isEmpty || s == "." then traceParts here left rest
    else if s == ".." then traceParts here.dropLast (left ++ [here]) rest
    else
      let next := here ++ [s]
      traceParts next (if rest.any (!·.isEmpty) then left ++ [next] else left) rest

def trace (start : List String) (p : Path) : List String × List (List String) :=
  traceParts start [] (splitBy p '/')

/-- Whether a path ends in slashes after a named part, so that the node it names must be a
directory when looked up. -/
def endsInSlash (p : Path) : Bool :=
  let raw := splitBy p '/'
  raw.getLast? == some "" &&
    match (raw.filter (!·.isEmpty)).getLast? with
    | some last => last != "." && last != ".."
    | none => false

def steps (p : Path) : List String := (trace [] p).1

/-- Puts a name before the first of some sorted names that it does not exceed. -/
def insertName (n : String) : List String → List String
  | [] => [n]
  | m :: ms => if n ≤ m then n :: m :: ms else m :: insertName n ms

def sortNames : List String → List String
  | [] => []
  | n :: ns => insertName n (sortNames ns)

/-- A file system: the nodes other than the root, by their parts, and the working directory
against which relative paths are resolved. -/
structure Volume where
  nodes : List (List String × Node) := []
  cwd : List String := []
  deriving DecidableEq

namespace Volume

/-- The parts of the node a path names: an absolute path from the root, a relative one from the
working directory. -/
def locate (v : Volume) (p : Path) : List String :=
  (trace (if p.startsWith "/" then [] else v.cwd) p).1

def nodeAt (v : Volume) (ks : List String) : Option Node :=
  if ks.isEmpty then some .directory else (v.nodes.find? (·.1 == ks)).map (·.2)

def parentsOk (v : Volume) (ks : List String) : Except IoFailure Unit :=
  (List.range (ks.length - 1)).foldlM (fun _ n =>
    match v.nodeAt (ks.take (n + 1)) with
    | some .directory => .ok ()
    | some (.file _) => .error .notDirectory
    | none => .error .notFound) ()

def directoryOk (v : Volume) (ks : List String) : Except IoFailure Unit := do
  v.parentsOk ks
  match v.nodeAt ks with
  | some .directory => .ok ()
  | some (.file _) => .error .notDirectory
  | none => .error .notFound

/-- The parts of the node a path names, when the system can walk to its last part: the empty
path names nothing, and every place required on the way must be a directory. -/
def walk (v : Volume) (p : Path) : Except IoFailure (List String) := do
  if p.isEmpty then throw .notFound
  let (ks, left) := trace (if p.startsWith "/" then [] else v.cwd) p
  left.forM v.directoryOk
  v.parentsOk ks
  pure ks

/-- The parts of the node a path names, when the system can look it up: it can walk the path,
and a path ending in slashes after a named part names a directory. -/
def resolve (v : Volume) (p : Path) : Except IoFailure (List String) := do
  let ks ← v.walk p
  if endsInSlash p then v.directoryOk ks
  pure ks

/-- An absolute path leads to the same parts whatever the working directory. -/
theorem locate_absolute (v w : Volume) (p : Path) (h : p.startsWith "/" = true) :
    v.locate p = w.locate p := by
  simp [locate, h]

theorem resolve_empty (v : Volume) : v.resolve "" = .error .notFound := rfl

def node? (v : Volume) (p : Path) : Option Node :=
  match v.resolve p with
  | .ok ks => v.nodeAt ks
  | .error _ => none

def existsAt (v : Volume) (p : Path) : Bool := (v.node? p).isSome

def isDirectory (v : Volume) (p : Path) : Bool :=
  v.existsAt p && match v.node? p with
    | some .directory => true
    | _ => false

def isFile (v : Volume) (p : Path) : Bool :=
  v.existsAt p && match v.node? p with
    | some (.file _) => true
    | _ => false

def readBytes (v : Volume) (p : Path) : Except IoFailure ByteArray := do
  match v.nodeAt (← v.resolve p) with
  | none => .error .notFound
  | some .directory => .error .isDirectory
  | some (.file b) => .ok b

def readText (v : Volume) (p : Path) : Except IoFailure String := do
  match String.fromUTF8? (← v.readBytes p) with
  | some s => .ok s
  | none => .error .invalidUtf8

def put (v : Volume) (ks : List String) (n : Node) : Volume :=
  if v.nodes.any (·.1 == ks) then
    { v with nodes := v.nodes.map fun e => if e.1 == ks then (ks, n) else e }
  else { v with nodes := v.nodes ++ [(ks, n)] }

/-- Writes a file, creating or truncating it; a path ending in slashes after a named part cannot
name a file to create. -/
def writeBytes (v : Volume) (p : Path) (b : ByteArray) : Except IoFailure Volume := do
  let ks ← v.walk p
  if endsInSlash p then throw .isDirectory
  match v.nodeAt ks with
  | some .directory => .error .isDirectory
  | _ => .ok (v.put ks (.file b))

def writeText (v : Volume) (p : Path) (s : String) : Except IoFailure Volume := v.writeBytes p s.toUTF8

def appendText (v : Volume) (p : Path) (s : String) : Except IoFailure Volume := do
  let old ← v.readBytes p
  .ok (v.put (v.locate p) (.file (old ++ s.toUTF8)))

/-- Creates a directory whose parent exists; trailing slashes are allowed. -/
def createDir (v : Volume) (p : Path) : Except IoFailure Volume := do
  let ks ← v.walk p
  match v.nodeAt ks with
  | some _ => .error .alreadyExists
  | none => .ok (v.put ks .directory)

/-- Creates a directory and, when its parent is missing, the parent first, at most `fuel` levels
deep; a directory that is there in the end counts as created. -/
def createDirAllUpTo (fuel : Nat) (v : Volume) (p : Path) : Except IoFailure Volume :=
  if p.isEmpty then .ok v else
  match v.createDir p, fuel with
  | .ok w, _ => .ok w
  | .error .notFound, fuel + 1 =>
    match parent p with
    | none => .error .notFound
    | some q => do
      let w ← createDirAllUpTo fuel v q
      match w.createDir p with
      | .ok u => .ok u
      | .error e => if w.isDirectory p then .ok w else .error e
  | .error e, _ => if v.isDirectory p then .ok v else .error e

/-- Creates a directory and any missing parents; an existing directory, and the empty path,
are kept as they are. Each parent is shorter than its path, so the path's length bounds the
depth. -/
def createDirAll (v : Volume) (p : Path) : Except IoFailure Volume :=
  createDirAllUpTo p.length v p

def removeFile (v : Volume) (p : Path) : Except IoFailure Volume := do
  let ks ← v.walk p
  match v.nodeAt ks with
  | none => .error .notFound
  | some .directory => .error .isDirectory
  | some (.file _) =>
    if endsInSlash p then .error .notDirectory
    else .ok { v with nodes := v.nodes.filter (·.1 != ks) }

def removeDir (v : Volume) (p : Path) : Except IoFailure Volume := do
  let ks ← v.resolve p
  match v.nodeAt ks with
  | none => .error .notFound
  | some (.file _) => .error .notDirectory
  | some .directory =>
    if v.nodes.any fun e => e.1.length > ks.length && e.1.take ks.length == ks then .error .notEmpty
    else .ok { v with nodes := v.nodes.filter (·.1 != ks) }

def removeAll (v : Volume) (p : Path) : Except IoFailure Volume := do
  let ks ← v.resolve p
  match v.nodeAt ks with
  | none => .error .notFound
  | some _ => .ok { v with nodes := v.nodes.filter fun e => e.1.take ks.length != ks }

def rename (v : Volume) (source target : Path) : Except IoFailure Volume := do
  let ks ← v.resolve source
  let kt ← v.resolve target
  match v.nodeAt ks, v.nodeAt kt with
  | none, _ => .error .notFound
  | some (.file _), some .directory => .error .isDirectory
  | some (.file b), _ => .ok (({ v with nodes := v.nodes.filter (·.1 != ks) } : Volume).put kt (.file b))
  | some .directory, _ => .error .isDirectory

def listDir (v : Volume) (p : Path) : Except IoFailure (List String) := do
  let ks ← v.resolve p
  match v.nodeAt ks with
  | none => .error .notFound
  | some (.file _) => .error .notDirectory
  | some .directory =>
    let names := v.nodes.filterMap fun e =>
      if e.1.length == ks.length + 1 && e.1.take ks.length == ks then e.1.getLast? else none
    .ok (sortNames names)

/-- Everything below a directory, by the parts under it, sorted as texts with `/` between
parts; empty when no directory is at the path. -/
def below (v : Volume) (p : Path) : List (List String × Node) :=
  let ks := v.locate p
  if !v.isDirectory p then []
  else
    let found := v.nodes.filterMap fun e =>
      if e.1.length > ks.length && e.1.take ks.length == ks then some (e.1.drop ks.length, e.2)
      else none
    found.mergeSort fun a b => decide ("/".intercalate a.1 ≤ "/".intercalate b.1)

end Volume

end TurnLedger.Files
