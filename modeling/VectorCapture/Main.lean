import VectorCapture.Cli.Program
/-!
# The program on the real file system

The program itself works on a `Disk`. This outer layer fills a disk with the part of the file
system that the arguments can reach: the working directory, the configuration files, the vector
to replay, and the output directory with what is in it, each with the directories on the way
from the root. It runs the program, writes back every file and directory that is new or changed,
prints what the program printed, and exits with its code.
-/

namespace VectorCapture

/-- What is at a path of the file system: a file with its text, a directory with its names, or
nothing that can be read. -/
inductive Found where
  | file (content : String)
  | dir (names : List String)
  | missing

/-- Looks at a path of the file system. -/
def look (p : String) : IO Found := do
  try
    return .file (← IO.FS.readFile p)
  catch _ =>
    try
      let entries ← (← IO.FS.realPath p).readDir
      return .dir (entries.toList.map (·.fileName))
    catch _ =>
      return .missing

/-- Adds what the file system has at `p` to the disk, and answers what it found. With
`withChildren`, a directory's entries come too. -/
def gatherAt (d : Disk) (p : Path) (withChildren : Bool) : IO (Disk × Found) := do
  let found ← look p.text
  let mut d := d
  match found with
  | .file content => d := d.put p (.file content)
  | .dir names =>
    if !p.isEmpty then d := d.put p .dir
    if withChildren then
      for n in names do
        match ← look (p ++ [n]).text with
        | .file content => d := d.put (p ++ [n]) (.file content)
        | .dir _ => d := d.put (p ++ [n]) .dir
        | .missing => pure ()
  | .missing => pure ()
  return (d, found)

/-- Adds the entries that looking the names up from the directory `cur` passes to the disk: `.`
stays, `..` goes up, and the walk stops at the first name that is not a directory. The directory
the names reach comes with its own entries when `withChildren`. -/
def gather (d : Disk) (cur : Path) (names : List String) (withChildren : Bool) : IO Disk := do
  let mut d := d
  let mut cur := cur
  let mut rest := names
  for _ in names do
    match rest with
    | [] => pure ()
    | n :: more =>
      rest := more
      if n == "." then continue
      if n == ".." then
        cur := cur.dropLast
        continue
      let (d', found) ← gatherAt d (cur ++ [n]) false
      d := d'
      match found with
      | .dir _ => cur := cur ++ [n]
      | _ => return d
  if withChildren then
    let (d', _) ← gatherAt d cur true
    d := d'
  return d

/-- Adds the entries on the way to a location, and the entries inside what it names when
`withChildren`; the names are walked as lookups walk them, and once more with every `..` taken
back lexically, since making the directories of a text may make the names that a lookup found
missing. -/
def gatherLocation (d : Disk) (l : Location) (withChildren : Bool) : IO Disk := do
  let d ← gather d l.start l.names withChildren
  gather d [] (lexicalPath l.start l.text) withChildren

/-- Writes back what the run added or changed. -/
def writeBack (before after : Disk) : IO Unit := do
  for (p, e) in after.entries.toList.mergeSort (fun a b => decide (a.1.length ≤ b.1.length)) do
    if before.get? p != some e then
      match e with
      | .dir => IO.FS.createDirAll p.text
      | .file content => IO.FS.writeFile p.text content

end VectorCapture

open VectorCapture in
/-- Runs the program on the current directory. -/
def main (args : List String) : IO UInt32 := do
  let o := match Cli.parseArgs args with
    | .ok (.run o) => o
    | _ => {}
  let reached : List (String × Bool) :=
    [(o.configFile.getD Cli.defaultConfigFile, false)] ++
      (o.replay.toList.map fun r => (r, false)) ++ [(o.outputDir.getD "./vectors", true)]
  let cwd := lexicalPath [] (← IO.currentDir).toString
  let mut d ← gather Disk.empty [] cwd false
  for (p, withChildren) in reached do
    d ← gatherLocation d ⟨p, cwd⟩ withChildren
  -- a configuration file may name another output directory
  if o.outputDir.isNone then
    match Cli.effectiveConfig cwd o d with
    | .ok c => d ← gatherLocation d ⟨c.outputDir, cwd⟩ true
    | .error _ => pure ()
  let clock := (← IO.monoNanosNow).toUInt64
  let e := Cli.run args cwd d clock (Nat.pow 2 64)
  writeBack d e.disk
  IO.print e.stdout
  IO.eprint e.stderr
  return e.code.toUInt32
