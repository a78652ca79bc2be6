import VectorCapture.Cli.Similarity
/-!
# The command line

The program takes options only, each at most once: `-c`/`--config-file`, `-s`/`--seed`,
`--max-run-bytes`, `--max-accepted-runs`, `-o`/`--output-dir` and `--replay` with a value each,
and the flags `-h`/`--help` and `-V`/`--version`.

A value follows its option as the next argument, after `=`, or, for a short option, right after
its letter. An option's value is taken when the next option starts or the arguments end, so an
error in it is found only then; a flag, a misspelt option or a stray argument is met first. An
argument that starts with a dash is never a value, and after `--` every argument is a stray
one. Counts are decimal, with an optional `+`, and must fit in 64 bits; paths must not be empty.

Errors are shown with what went wrong, a hint for a misspelt long option when a known one is
like it, the usage line, and a pointer to `--help`. After an unknown option, the usage line
names the options met so far, each once and in the order they were met, the hinted one last; an
option given twice no longer counts as met. After a value given to a flag, it names the flags
met and, once a setting has been met, lists all settings as one group of alternatives.
-/

namespace VectorCapture.Cli

/-- An option of the command line. -/
inductive Opt where
  | configFile
  | seed
  | maxRunBytes
  | maxAcceptedRuns
  | outputDir
  | replay
  | help
  | version
  deriving DecidableEq, Repr, Inhabited

namespace Opt

/-- Every option, in the order that help lists them. -/
def all : List Opt :=
  [configFile, seed, maxRunBytes, maxAcceptedRuns, outputDir, replay, help, version]

/-- The long name of an option. -/
def long : Opt → String
  | configFile => "config-file"
  | seed => "seed"
  | maxRunBytes => "max-run-bytes"
  | maxAcceptedRuns => "max-accepted-runs"
  | outputDir => "output-dir"
  | replay => "replay"
  | help => "help"
  | version => "version"

/-- The letter of an option, if it has one. -/
def letter? : Opt → Option Char
  | configFile => some 'c'
  | seed => some 's'
  | outputDir => some 'o'
  | help => some 'h'
  | version => some 'V'
  | _ => none

/-- The name of an option's value, for the options that take one. -/
def valueName? : Opt → Option String
  | configFile => some "CONFIG_FILE"
  | seed => some "SEED"
  | maxRunBytes => some "MAX_RUN_BYTES"
  | maxAcceptedRuns => some "MAX_ACCEPTED_RUNS"
  | outputDir => some "OUTPUT_DIR"
  | replay => some "REPLAY"
  | _ => none

/-- What help says of an option. -/
def about : Opt → String
  | seed => "Fixed seed; omit to seed from the clock"
  | replay => "Re-run the target over a captured vector instead of capturing"
  | help => "Print help"
  | version => "Print version"
  | _ => ""

/-- Whether an option takes a value. -/
def takesValue (o : Opt) : Bool := o.valueName?.isSome

/-- An option as errors and usage lines show it: its long name and its value. -/
def shown (o : Opt) : String :=
  "--" ++ o.long ++ ((o.valueName?.map fun v => " <" ++ v ++ ">").getD "")

/-- The option with a long name. -/
def ofLong? (name : String) : Option Opt := all.find? (·.long == name)

/-- The option with a letter. -/
def ofLetter? (c : Char) : Option Opt := all.find? (·.letter? == some c)

end Opt

/-- What the command line sets. -/
structure Options where
  configFile : Option String := none
  seed : Option Nat := none
  maxRunBytes : Option Nat := none
  maxAcceptedRuns : Option Nat := none
  outputDir : Option String := none
  replay : Option String := none
  deriving Repr, Inhabited

/-- What the command line asks for. -/
inductive Request where
  /-- A run with these options. -/
  | run (o : Options)
  /-- The help text. -/
  | help
  /-- The version. -/
  | version
  deriving Repr, Inhabited

/-- Why a command line is refused. -/
inductive ArgError where
  /-- An argument that is no option; `similar` is a known option like it, and `used` the
  options that the usage line shows. -/
  | unknown (arg : String) (similar : Option Opt) (used : List Opt)
  /-- A value that does not read. -/
  | invalidValue (opt : Opt) (value reason : String)
  /-- An option with no value, or an empty path. -/
  | missingValue (opt : Opt)
  /-- An option given twice. -/
  | repeated (opt : Opt)
  /-- A value given to a flag. -/
  | unexpectedValue (opt : Opt) (value : String) (used : List Opt)
  deriving Repr

/-- The name the program goes by. -/
def programName : String := "vectrace_cli"

/-- The version of the program. -/
def programVersion : String := "0.1.0"

/-- The list without later repeats. -/
def dedup (os : List Opt) : List Opt :=
  os.foldl (fun acc o => if acc.contains o then acc else acc ++ [o]) []

/-- The options that set a field of a run, which usage lines show as one group. -/
def settingsGroup : List Opt := Opt.all.filter (·.takesValue)

/-- The usage line that names the options `used`, each once, in the order they were met; a
placeholder for all options when none was. -/
def usage (used : List Opt) : String :=
  if used.isEmpty then programName ++ " [OPTIONS]"
  else programName ++ String.join ((dedup used).map fun o => " " ++ o.shown)

/-- The usage line that names the flags among `used`, then, when a setting was used, the group
of all settings as alternatives; a placeholder for all options when none was used. -/
def groupedUsage (used : List Opt) : String :=
  if used.isEmpty then programName ++ " [OPTIONS]"
  else
    let flags := (dedup used).filter (!·.takesValue)
    let group :=
      if used.any (·.takesValue) then
        [" <" ++ String.intercalate "|" (settingsGroup.map (·.shown)) ++ ">"]
      else []
    programName ++ String.join (flags.map fun o => " " ++ o.shown) ++ String.join group

/-- The last lines of every error. -/
def tryHelp : String := "\n\nFor more information, try '--help'.\n"

/-- The text of a refused command line. -/
def ArgError.message : ArgError → String
  | .unknown arg similar used =>
    "error: unexpected argument '" ++ arg ++ "' found" ++
      ((similar.map fun o => "\n\n  tip: a similar argument exists: '--" ++ o.long ++ "'").getD "") ++
      "\n\nUsage: " ++ usage used ++ tryHelp
  | .invalidValue o v reason =>
    "error: invalid value '" ++ v ++ "' for '" ++ o.shown ++ "': " ++ reason ++ tryHelp
  | .missingValue o =>
    "error: a value is required for '" ++ o.shown ++ "' but none was supplied" ++ tryHelp
  | .repeated o =>
    "error: the argument '" ++ o.shown ++ "' cannot be used multiple times" ++
      "\n\nUsage: " ++ usage [] ++ tryHelp
  | .unexpectedValue o v used =>
    "error: unexpected value '" ++ v ++ "' for '" ++ o.shown ++ "' found; no more were expected" ++
      "\n\nUsage: " ++ groupedUsage used ++ tryHelp

/-- The help text. Since one description is too long to share a line with the longest option,
every description goes on the line after its option. -/
def helpText : String :=
  let line (o : Opt) : String :=
    let letter := match o.letter? with
      | some c => "-" ++ c.toString ++ ", "
      | none => "    "
    "  " ++ letter ++ o.shown ++ "\n" ++ String.ofList (List.replicate 10 ' ') ++ o.about ++ "\n"
  "Usage: " ++ usage [] ++ "\n\nOptions:\n" ++ String.join (Opt.all.map line)

/-- The text of the version. -/
def versionText : String := programName ++ " " ++ programVersion ++ "\n"

/-- A count of 64 bits: decimal digits after an optional `+`. The first fault wins: a
character that is no digit, or a value that grows past 64 bits. -/
def parseCount (s : String) : Except String Nat :=
  let invalid := "invalid digit found in string"
  match s.toList with
  | [] => .error "cannot parse integer from empty string"
  | ['+'] | ['-'] => .error invalid
  | cs =>
    let digits := if cs.head? == some '+' then cs.drop 1 else cs
    let step (acc : Except String Nat) (c : Char) : Except String Nat := do
      let n ← acc
      if !c.isDigit then throw invalid
      let n := n * 10 + (c.toNat - 48)
      if n ≥ Nat.pow 2 64 then throw "number too large to fit in target type"
      pure n
    digits.foldl step (.ok 0)

/-- Sets an option from its value. -/
def Options.set (o : Options) (opt : Opt) (v : String) : Except ArgError Options :=
  let count : Except ArgError Nat := (parseCount v).mapError (.invalidValue opt v)
  let path : Except ArgError String := if v.isEmpty then .error (.missingValue opt) else .ok v
  match opt with
  | .configFile => path.map fun p => { o with configFile := some p }
  | .seed => count.map fun n => { o with seed := some n }
  | .maxRunBytes => count.map fun n => { o with maxRunBytes := some n }
  | .maxAcceptedRuns => count.map fun n => { o with maxAcceptedRuns := some n }
  | .outputDir => path.map fun p => { o with outputDir := some p }
  | .replay => path.map fun p => { o with replay := some p }
  | _ => .ok o

/-- Where the reading of a command line stands. -/
structure Reading where
  /-- The options set so far. -/
  options : Options := {}
  /-- The options met so far, in order. -/
  seen : List Opt := []
  /-- The option whose value is still to be taken, with the value if it has come. -/
  pending : Option (Opt × List String) := none
  /-- Whether `--` has been met. -/
  trailing : Bool := false
  deriving Inhabited

namespace Reading

/-- Takes an option with its values. An option met before is refused and no longer counts as
met, and one whose value does not read still counts as met. -/
def accept (r : Reading) (o : Opt) (raw : List String) : Reading × Option ArgError :=
  match raw with
  | [] => (r, some (.missingValue o))
  | v :: _ =>
    if r.seen.contains o then ({ r with seen := r.seen.erase o }, some (.repeated o))
    else
      let r := { r with seen := r.seen ++ [o] }
      match r.options.set o v with
      | .ok options => ({ r with options }, none)
      | .error e => (r, some e)

/-- Takes the pending option, if there is one. -/
def resolve (r : Reading) : Reading × Option ArgError :=
  match r.pending with
  | none => (r, none)
  | some (o, raw) => accept { r with pending := none } o raw

/-- The pending option, when it waits for its value. -/
def awaiting? (r : Reading) : Option Opt :=
  match r.pending with
  | some (o, []) => some o
  | _ => none

/-- Takes the pending option, then `o` with a value, or marks `o` pending when it has none. -/
def withValue (r : Reading) (o : Opt) (value : Option String) : Except ArgError Reading :=
  match r.resolve with
  | (_, some e) => .error e
  | (r, none) =>
    match value with
    | some v =>
      match r.accept o [v] with
      | (_, some e) => .error e
      | (r, none) => .ok r
    | none => .ok { r with pending := some (o, []) }

/-- Takes the pending option, then answers a flag. -/
def flag (r : Reading) (o : Opt) : Except ArgError Request :=
  match r.resolve with
  | (_, some e) => .error e
  | _ => .ok (if o == .help then .help else .version)

end Reading

/-- What one argument does: the reading goes on, or it ends with a request or an error. -/
inductive Move where
  | next (r : Reading)
  | stop (result : Except ArgError Request)

/-- The move of a long option `--name` or `--name=value`. -/
def longMove (r : Reading) (body : String) : Move :=
  let (name, value) : String × Option String :=
    match body.splitOn "=" with
    | [] => (body, none)
    | [n] => (n, none)
    | n :: vs => (n, some (String.intercalate "=" vs))
  match Opt.ofLong? name with
  | some o =>
    if o.takesValue then
      match r.withValue o value with
      | .ok r => .next r
      | .error e => .stop (.error e)
    else
      match value with
      | some v => .stop (.error (.unexpectedValue o v (r.seen ++ [o])))
      | none => .stop (r.flag o)
  | none =>
    let (r, _) := r.resolve
    let similar := (mostLike name (Opt.all.map Opt.long)).bind Opt.ofLong?
    .stop (.error (.unknown ("--" ++ name) similar (r.seen ++ similar.toList)))

/-- The move of short options `-x…`: a letter with a value takes the rest of the argument as
its value. -/
def shortMove (r : Reading) : List Char → Move
  | [] => .next r
  | c :: more =>
    match Opt.ofLetter? c with
    | none =>
      .stop (.error (.unknown ("-" ++ c.toString) none []))
    | some o =>
      if o.takesValue then
        let rest := String.ofList more
        let value :=
          if rest.isEmpty then none
          else if rest.startsWith "=" then some (String.ofList (more.drop 1))
          else some rest
        match r.withValue o value with
        | .ok r => .next r
        | .error e => .stop (.error e)
      else .stop (r.flag o)

/-- The move of one argument. -/
def move (r : Reading) (arg : String) : Move :=
  let stray : Move := .stop (.error (.unknown arg none []))
  if r.trailing then stray
  else if arg == "--" then .next { r with trailing := true }
  else if arg.startsWith "--" then longMove r (String.ofList (arg.toList.drop 2))
  else if arg.startsWith "-" && arg != "-" then shortMove r (arg.toList.drop 1)
  else
    match r.awaiting? with
    | some o => .next { r with pending := some (o, [arg]) }
    | none => stray

/-- What a command line asks for, or why it is refused. -/
def parseArgs (args : List String) : Except ArgError Request :=
  go {} args
where
  /-- Reads the remaining arguments. -/
  go (r : Reading) : List String → Except ArgError Request
    | [] =>
      match r.resolve with
      | (_, some e) => .error e
      | (r, none) => .ok (.run r.options)
    | arg :: rest =>
      match move r arg with
      | .next r => go r rest
      | .stop result => result

end VectorCapture.Cli
