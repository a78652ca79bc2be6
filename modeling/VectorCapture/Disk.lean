import Std.Data.HashMap
/-!
# A disk of directories and files

A disk is a map from paths to entries, each a file with its text or a directory; the root, the
empty path, is always a directory. A path is the list of names that leads to an entry from the
root.

A program names entries by texts, and a `Location` is such a text together with the directory
it is read from when it does not start with a slash. A text is taken apart at its slashes into
names, the empty ones dropped. The system looks a text up one name at a time: `.` stays where it
is, `..` goes up one directory (never above the root), and every other name before the last must
be a directory that is there: a missing one fails with "not found", and a file with "not a
directory". The last name is then looked up in the directory reached. A text that ends with a
slash must name a directory, so a file there fails with "not a directory".

The operations answer as the file system does, with the same kinds of failure:

* `read` and `listDir` read an entry of the right kind, and fail on the other kind;
* `mkdir` makes one directory, and fails with "exists" when the last name is there already, of
  whatever kind, or is `.` or `..`;
* `createDirAll` makes a directory and every missing one above it, the way the standard library
  does: it tries the directory itself, and when something above is missing it first makes the
  parent (the text less its last name, `.` names not counted) and tries once more; a failure is
  no failure when a directory is there after all;
* `createFresh` makes a new, empty file in a directory under the first unused name of a series;
* `write` puts a text in a file, and fails with "no space" when the device cannot hold it;
* `rename` moves a file over another name and replaces a file there, but fails on a directory.

A device may hold a bounded number of bytes of file text; a disk that never fills has no bound.

Every system has the null device `/dev/null`; it reads as empty and is not a directory, so it is
kept as an empty file.
-/

namespace VectorCapture

/-- The names that lead to an entry. -/
abbrev Path := List String

/-- The text of a path, from the root. -/
def Path.text (p : Path) : String :=
  "/" ++ String.intercalate "/" p

/-- What a disk holds at a path. -/
inductive Entry where
  /-- A file and its text. -/
  | file (content : String)
  /-- A directory. -/
  | dir
  deriving DecidableEq, Repr, Inhabited

/-- The bytes of text an entry holds: a directory holds none. -/
def Entry.size : Entry → Nat
  | .file content => content.utf8ByteSize
  | .dir => 0

/-- The ways a system call fails. -/
inductive OsError where
  /-- A name on the way, or the entry itself, is missing. -/
  | notFound
  /-- A name on the way is a file. -/
  | notADirectory
  /-- The entry is a directory where a file was wanted. -/
  | isADirectory
  /-- The entry to create is already there. -/
  | alreadyExists
  /-- The device has no room left for the text written. -/
  | noSpace
  /-- The system has no resources left for a new thread. -/
  | resourceUnavailable
  deriving DecidableEq, Repr

/-- The system's text for a failure, with its error number. -/
def OsError.message : OsError → String
  | .notFound => "No such file or directory (os error 2)"
  | .notADirectory => "Not a directory (os error 20)"
  | .isADirectory => "Is a directory (os error 21)"
  | .alreadyExists => "File exists (os error 17)"
  | .noSpace => "No space left on device (os error 28)"
  | .resourceUnavailable => "Resource temporarily unavailable (os error 11)"

/-- Whether a path text starts from the root. -/
def isAbsoluteText (text : String) : Bool := text.startsWith "/"

/-- The names of a path text: its parts between slashes, without the empty ones that doubled,
leading and trailing slashes leave. -/
def textNames (text : String) : List String :=
  (text.splitOn "/").filter (!·.isEmpty)

/-- The names of a path text as the standard library counts its components: a `.` is left out,
unless it begins a text that does not start from the root. -/
def componentNames (text : String) : List String :=
  match textNames text with
  | "." :: rest => (if isAbsoluteText text then [] else ["."]) ++ rest.filter (· != ".")
  | names => names.filter (· != ".")

/-- The text of a path inside a directory written as `dir`: the two joined by one slash, or the
name alone inside the empty text. -/
def joinText (dir name : String) : String :=
  if dir.isEmpty then name else if dir.endsWith "/" then dir ++ name else dir ++ "/" ++ name

/-- The path that the names of a text lead to from `base` when every name on the way is a
directory: empty names and `.` stay where they are, and `..` goes up one directory, though never
above the root. -/
def lexicalPath (base : Path) (text : String) : Path :=
  (text.splitOn "/").foldl (fun p n =>
    if n.isEmpty || n == "." then p else if n == ".." then p.dropLast else p ++ [n])
    (if isAbsoluteText text then [] else base)

/-- A path text, and the directory it is read from when it does not start from the root. -/
structure Location where
  /-- The text of the path, as messages show it. -/
  text : String
  /-- The directory a text that does not start from the root is read from. -/
  base : Path
  deriving DecidableEq, Repr, Inhabited

namespace Location

/-- The root directory. -/
def root : Location := ⟨"/", []⟩

/-- The directory the lookup of a location starts from. -/
def start (l : Location) : Path :=
  if isAbsoluteText l.text then [] else l.base

/-- The names of a location's text. -/
def names (l : Location) : List String :=
  textNames l.text

/-- Whether a location's text ends with a slash, so that it must name a directory. -/
def mustBeDir (l : Location) : Bool :=
  l.text.endsWith "/"

/-- The entry `name` inside a location. -/
def join (l : Location) (name : String) : Location :=
  ⟨joinText l.text name, l.base⟩

/-- A location written from the root: itself when its text already starts there, else its text
behind the text of the directory it is read from. -/
def fromRoot (l : Location) : Location :=
  if isAbsoluteText l.text then l else ⟨joinText l.base.text l.text, l.base⟩

/-- The location of the same kind (from the root or not, read from the same directory) whose
text is the names `ns`. -/
def withNames (l : Location) (ns : List String) : Location :=
  ⟨(if isAbsoluteText l.text then "/" else "") ++ String.intercalate "/" ns, l.base⟩

/-- The last name of a location, or its text when it has none. -/
def name (l : Location) : String :=
  l.names.getLast?.getD l.text

end Location

/-- What the lookup of a location comes to before its last name is looked at: a directory that
the text names by itself (the root, or a text ending in `.` or `..`), or a directory and the last
name inside it. -/
inductive Target where
  | dir (p : Path)
  | entry (parent : Path) (name : String)
  deriving DecidableEq, Repr

/-- Directories and files, by path. -/
structure Disk where
  /-- Every entry but the root. -/
  entries : Std.HashMap Path Entry := {}
  /-- How many bytes of file text the device holds at most; none for a device that never fills. -/
  capacity : Option Nat := none
  deriving Inhabited

namespace Disk

/-- The empty disk: the root directory alone. -/
def empty : Disk := {}

/-- The disk every system starts from: the directory `/dev` and the null device in it. -/
def standard : Disk :=
  { entries := (({} : Std.HashMap Path Entry).insert ["dev"] .dir).insert ["dev", "null"] (.file "") }

/-- The entry at a path. -/
def get? (d : Disk) (p : Path) : Option Entry :=
  if p.isEmpty then some .dir else d.entries[p]?

/-- Whether a path names a directory. -/
def isDir (d : Disk) (p : Path) : Bool :=
  d.get? p == some .dir

/-- Puts an entry at a path. -/
def put (d : Disk) (p : Path) (e : Entry) : Disk :=
  { d with entries := d.entries.insert p e }

/-- Takes the entry at a path away. -/
def erase (d : Disk) (p : Path) : Disk :=
  { d with entries := d.entries.erase p }

/-- The directory reached from the directory `cur` through `names`, every one of which must lead
to a directory: `.` stays, `..` goes up, and any other name must be a directory of the disk. -/
def enter (d : Disk) (cur : Path) : List String → Except OsError Path
  | [] => .ok cur
  | n :: rest =>
    if n == "." then enter d cur rest
    else if n == ".." then enter d cur.dropLast rest
    else
      match d.get? (cur ++ [n]) with
      | some .dir => enter d (cur ++ [n]) rest
      | some (.file _) => .error .notADirectory
      | none => .error .notFound

/-- Where the lookup of a location comes to before its last name: the empty text names nothing,
and a text of slashes alone names the root. -/
def target (d : Disk) (l : Location) : Except OsError Target :=
  match l.names.getLast? with
  | none => if isAbsoluteText l.text then .ok (.dir []) else .error .notFound
  | some last => do
    let parent ← d.enter l.start l.names.dropLast
    if last == "." then pure (.dir parent)
    else if last == ".." then pure (.dir parent.dropLast)
    else pure (.entry parent last)

/-- The path and the entry that a location names. -/
def lookup (d : Disk) (l : Location) : Except OsError (Path × Entry) := do
  match ← d.target l with
  | .dir p => pure (p, .dir)
  | .entry parent n =>
    match d.get? (parent ++ [n]) with
    | none => throw .notFound
    | some (.file content) =>
      if l.mustBeDir then throw .notADirectory else pure (parent ++ [n], .file content)
    | some .dir => pure (parent ++ [n], .dir)

/-- The entry a location names, or why there is none. -/
def stat (d : Disk) (l : Location) : Except OsError Entry :=
  (d.lookup l).map (·.2)

/-- Whether a location names a directory. -/
def isDirAt (d : Disk) (l : Location) : Bool :=
  match d.stat l with
  | .ok .dir => true
  | _ => false

/-- The text of the file a location names. -/
def read (d : Disk) (l : Location) : Except OsError String := do
  match ← d.stat l with
  | .file content => pure content
  | .dir => throw .isADirectory

/-- The names and entries directly inside the directory a location names, in no particular
order. -/
def listDir (d : Disk) (l : Location) : Except OsError (List (String × Entry)) := do
  let (p, e) ← d.lookup l
  if e != .dir then throw .notADirectory
  pure (d.entries.fold (fun acc q e =>
    match q.getLast? with
    | some n => if q.dropLast == p then (n, e) :: acc else acc
    | none => acc) [])

/-- Makes the directory a location names, whose parent must be there. -/
def mkdir (d : Disk) (l : Location) : Except OsError Disk := do
  match ← d.target l with
  | .dir _ => throw .alreadyExists
  | .entry parent n =>
    match d.get? (parent ++ [n]) with
    | some _ => throw .alreadyExists
    | none => pure (d.put (parent ++ [n]) .dir)

/-- Makes the directory `here`; when something above it is missing, `above` is run first and
the directory is tried once more. A failure is no failure when a directory is there. -/
def mkdirAfter (d : Disk) (here : Location) (above : Disk → Except OsError Disk) :
    Except OsError Disk :=
  match d.mkdir here with
  | .ok d' => .ok d'
  | .error .notFound =>
    match above d with
    | .error e => .error e
    | .ok d' =>
      match d'.mkdir here with
      | .ok d'' => .ok d''
      | .error e => if d'.isDirAt here then .ok d' else .error e
  | .error e => if d.isDirAt here then .ok d else .error e

/-- Makes the directory whose component names, last first, are `rev`, of the same kind as `l`,
and every missing directory above it. With no names left it is the empty text or the root, and
there is nothing to make. -/
def createAbove (l : Location) : List String → Disk → Except OsError Disk
  | [], d => .ok d
  | n :: rest, d => d.mkdirAfter (l.withNames (n :: rest).reverse) (createAbove l rest)

/-- Makes the directory a location names and every missing directory above it; the empty text
asks for nothing. -/
def createDirAll (d : Disk) (l : Location) : Except OsError Disk :=
  if l.text.isEmpty then .ok d
  else d.mkdirAfter l (createAbove l ((componentNames l.text).reverse.drop 1))

/-- Makes the directories of a path that are missing, from the root down; used to set a disk up,
where every name on the way is meant as a directory. -/
def makeDirs (d : Disk) (p : Path) : Disk :=
  (List.range p.length).foldl (fun d k =>
    let q := p.take (k + 1)
    if d.get? q == none then d.put q .dir else d) d

/-- The `k`-th name of a series: a prefix, six digits and a suffix. -/
def seriesName (pre suf : String) (k : Nat) : String :=
  let ds := toString k
  pre ++ String.ofList (List.replicate (6 - ds.length) '0') ++ ds ++ suf

/-- Makes a new, empty file in the directory a location names, under the first name of the series
that is not in use, and gives that name. -/
def createFresh (d : Disk) (dir : Location) (pre suf : String) : Except OsError (String × Disk) := do
  let p ← d.enter dir.start dir.names
  let used := d.entries.size + 1
  match (List.range (used + 1)).find? (fun k => d.get? (p ++ [seriesName pre suf k]) == none) with
  | some k =>
    let n := seriesName pre suf k
    pure (n, d.put (p ++ [n]) (.file ""))
  | none => throw .alreadyExists

/-- The bytes of text the files of a disk hold. -/
def used (d : Disk) : Nat :=
  (d.entries.toList.map fun entry => entry.2.size).foldr (· + ·) 0

/-- Whether the device can hold `n` bytes of file text. -/
def fits (d : Disk) (n : Nat) : Bool :=
  match d.capacity with
  | some cap => n ≤ cap
  | none => true

/-- Writes `content` over the text of the file a location names. The device must hold the new
text once the old one is gone; when it cannot, nothing is written. -/
def write (d : Disk) (l : Location) (content : String) : Except OsError Disk := do
  match ← d.lookup l with
  | (_, .dir) => throw .isADirectory
  | (p, .file old) =>
    if d.fits (d.used - old.utf8ByteSize + content.utf8ByteSize) then pure (d.put p (.file content))
    else throw .noSpace

/-- Moves the file a location names to the name `dst`, replacing a file there. -/
def rename (d : Disk) (src dst : Location) : Except OsError Disk := do
  let (srcPath, e) ← d.lookup src
  match ← d.target dst with
  | .dir _ => throw .isADirectory
  | .entry parent n =>
    match d.get? (parent ++ [n]) with
    | some .dir => throw .isADirectory
    | _ =>
      if dst.mustBeDir then throw .notADirectory
      else pure ((d.erase srcPath).put (parent ++ [n]) e)

/-- Takes away the file a location names, if it names one. -/
def removeFile (d : Disk) (l : Location) : Disk :=
  match d.lookup l with
  | .ok (p, .file _) => d.erase p
  | _ => d

/-- Every file below the directory `dir`, with its path from there written with slashes and its
content, in the order of those paths as texts. -/
def filesUnder (d : Disk) (dir : Path) : List (String × String) :=
  let found := d.entries.fold (fun acc p e =>
    match e with
    | .file content =>
      if dir.isPrefixOf p then (String.intercalate "/" (p.drop dir.length), content) :: acc else acc
    | .dir => acc) []
  found.mergeSort (fun a b => decide (a.1 ≤ b.1))

/-- Takes away the entry at a path and everything below it. -/
def removeAll (d : Disk) (p : Path) : Disk :=
  { d with entries := d.entries.filter (fun q _ => !(p.isPrefixOf q)) }

end Disk

end VectorCapture
