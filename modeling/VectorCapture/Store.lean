import VectorCapture.Disk
import VectorCapture.TestVector
/-!
# The vector store

A store is a directory that holds one file per kept run, named `vector` followed by the run's
index in at least eight digits and `.test`, so that the names sort in run order.

A vector is written in two steps so that a final name only ever holds a whole vector: it is
first *staged*, written in full to a fresh hidden file `.vector-NNNNNN.tmp` of the same
directory, named from the root, and then *committed*, moved over its final name in one step.
Staging makes the hidden file empty and then writes the text into it; when the write fails the
file is taken away again. A failed move takes the staged file away as well, and so does dropping
a staged vector.

Listing gives the files whose names have the final form, in order; loading reads a file back as
a vector.
-/

namespace VectorCapture

/-- A directory of vector files. -/
structure Store where
  /-- The directory. -/
  dir : Location
  /-- The directory written from the root, under which staging files are named. -/
  staging : Location := dir
  deriving Inhabited

/-- Why a store operation failed. -/
inductive StoreError where
  /-- The directory could not be made. -/
  | createDir (dir : Location) (e : OsError)
  /-- The directory's path holds a file. -/
  | notADirectory (dir : Location)
  /-- No staging file could be made in the directory. -/
  | createTemp (dir temp : Location) (e : OsError)
  /-- The text could not be written to the staging file; it is gone. -/
  | writeTemp (temp : Location) (e : OsError)
  /-- The staged file could not be moved to its final name; it is gone. -/
  | rename (temp final : Location) (e : OsError)
  /-- The directory could not be read. -/
  | readDir (dir : Location) (e : OsError)
  /-- A vector file could not be read. -/
  | readFile (file : Location) (e : OsError)
  /-- A vector file holds no vector. -/
  | malformed (file : Location) (e : TestVector.ParseError)
  deriving DecidableEq, Repr

/-- The three families of store errors. -/
inductive StoreError.Family where
  | directory | io | parse
  deriving DecidableEq, Repr

/-- The family of a store error. -/
def StoreError.family : StoreError → StoreError.Family
  | .createDir .. | .notADirectory _ => .directory
  | .malformed .. => .parse
  | _ => .io

/-- A location quoted as a path. -/
def Location.quoted (l : Location) : String :=
  Text.quote .text l.text

/-- The message of a store error. -/
def StoreError.message : StoreError → String
  | .createDir dir e =>
    "Vector directory error: Failed to create vector directory at " ++ dir.quoted ++ ": " ++
      e.message
  | .notADirectory dir =>
    "Vector directory error: Vector path " ++ dir.quoted ++ " exists but is not a directory"
  | .createTemp dir temp e =>
    "Vector I/O error: Failed to create temporary vector file in " ++ dir.quoted ++ ": " ++
      e.message ++ " at path " ++ temp.quoted
  | .writeTemp temp e =>
    "Vector I/O error: Failed to write temporary vector file " ++ temp.quoted ++ ": " ++ e.message
  | .rename temp final e =>
    "Vector I/O error: Failed to rename " ++ temp.quoted ++ " to " ++ final.quoted ++ ": " ++
      e.message
  | .readDir dir e => "Vector I/O error: Failed to read vector directory " ++ dir.quoted ++ ": " ++
      e.message
  | .readFile file e => "Vector I/O error: Failed to read vector file " ++ file.quoted ++ ": " ++
      e.message
  | .malformed file e => "Vector file " ++ file.quoted ++ " is malformed: " ++ e.message

/-- The message of the error behind a malformed file, if it has one. -/
def StoreError.cause? : StoreError → Option String
  | .malformed _ e => some e.message
  | _ => none

/-- A vector written in full under a hidden name, waiting for its final name. -/
structure Staged where
  /-- The hidden file. -/
  temp : Location
  /-- The name it is meant for. -/
  final : Location
  deriving Inhabited

namespace Store

/-- The first and last part of a staging file's name. -/
def tempPrefix : String := ".vector-"

/-- The end of a staging file's name. -/
def tempSuffix : String := ".tmp"

/-- The name of the staging file tried when none can be made. -/
def tempGuess : String := Disk.seriesName tempPrefix tempSuffix 0

/-- Opens a directory as a store, making it and the directories above it if it is not there. A
text that does not name an entry counts as not there, even when the entry it fails on is a file. -/
def openDir (d : Disk) (dir : Location) : Except StoreError (Store × Disk) :=
  let store : Store := ⟨dir, dir.fromRoot⟩
  match d.stat dir with
  | .ok .dir => .ok (store, d)
  | .ok (.file _) => .error (.notADirectory dir)
  | .error _ =>
    match d.createDirAll dir with
    | .ok d => .ok (store, d)
    | .error e => .error (.createDir dir e)

/-- The digits of an index, at least eight of them. -/
def indexDigits (index : Nat) : String :=
  let ds := toString index
  String.ofList (List.replicate (8 - ds.length) '0') ++ ds

/-- The file name of the vector of run `index`. -/
def fileName (index : Nat) : String :=
  "vector" ++ indexDigits index ++ ".test"

/-- The location of the vector of run `index`. -/
def pathFor (s : Store) (index : Nat) : Location :=
  s.dir.join (fileName index)

/-- Writes a record's text to a fresh staging file; a staging file whose write fails is taken away
again. -/
def stage (s : Store) (d : Disk) (r : Record) : Except StoreError Staged × Disk :=
  match d.createFresh s.staging tempPrefix tempSuffix with
  | .error e => (.error (.createTemp s.dir (s.staging.join tempGuess) e), d)
  | .ok (name, d) =>
    let temp := s.staging.join name
    match d.write temp r.render with
    | .error e => (.error (.writeTemp temp e), d.removeFile temp)
    | .ok d => (.ok ⟨temp, s.pathFor r.index⟩, d)

/-- Moves a staged vector over its final name; on failure the staging file is taken away. -/
def commit (st : Staged) (d : Disk) : Except StoreError (Location × Disk) × Disk :=
  match d.rename st.temp st.final with
  | .ok d => (.ok (st.final, d), d)
  | .error e => (.error (.rename st.temp st.final e), d.removeFile st.temp)

/-- Drops a staged vector: its staging file is taken away. -/
def discard (st : Staged) (d : Disk) : Disk :=
  d.removeFile st.temp

/-- Stages and commits a record; the answer is its final location. -/
def persist (s : Store) (d : Disk) (r : Record) : Except StoreError Location × Disk :=
  match s.stage d r with
  | (.error e, d) => (.error e, d)
  | (.ok st, d) =>
    match commit st d with
    | (.ok (l, _), d) => (.ok l, d)
    | (.error e, d) => (.error e, d)

/-- Whether a file name has the form of a vector's final name: `vector`, one or more digits,
`.test`. -/
def isVectorName (name : String) : Bool :=
  let cs := name.toList
  11 < cs.length && cs.take 6 == "vector".toList && cs.drop (cs.length - 5) == ".test".toList &&
    ((cs.drop 6).take (cs.length - 11)).all Char.isDigit

/-- The vector files of the store, in the order of their names. -/
def list (s : Store) (d : Disk) : Except StoreError (List Location) :=
  match d.listDir s.dir with
  | .error e => .error (.readDir s.dir e)
  | .ok entries =>
    let names := entries.filterMap fun
      | (n, .file _) => if isVectorName n then some n else none
      | _ => none
    .ok ((names.mergeSort (fun a b => decide (a ≤ b))).map s.dir.join)

/-- Reads a vector file back. -/
def load (d : Disk) (file : Location) : Except StoreError TestVector :=
  match d.read file with
  | .error e => .error (.readFile file e)
  | .ok text =>
    match TestVector.parse text with
    | .ok v => .ok v
    | .error e => .error (.malformed file e)

end Store

end VectorCapture
