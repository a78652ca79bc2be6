import VectorCapture.Cli.Options
import VectorCapture.Cli.Demo
import VectorCapture.Config
import VectorCapture.Campaign
/-!
# The program

A run of the program reads its command line, then its configuration: the file named by
`--config-file`, else `vectrace.toml` when there is one, else the defaults. Options on the
command line override the file. Then it either replays one vector through the demo target and
prints how the run ended, or opens the output directory and captures vectors until the campaign
stops.

The program works on a `Disk`, from a working directory that relative paths start from, and
answers with its exit code, what it printed and the disk after it: 0 when all went well, 2 for
a refused command line, and 1 for any other error, which is printed with the errors behind it.
-/

namespace VectorCapture.Cli

/-- An error of the program, with the errors that caused it, innermost last. -/
structure Report where
  message : String
  causes : List String := []
  deriving Repr, Inhabited

/-- A text with every line after the first indented by `pad`. -/
def indentLines (pad text : String) : String :=
  String.intercalate ("\n" ++ pad) (text.splitOn "\n")

/-- How an error is printed: its message, then its causes, numbered when there are several. -/
def Report.text (r : Report) : String :=
  let causes :=
    match r.causes with
    | [] => ""
    | [c] => "\n\nCaused by:\n    " ++ indentLines "    " c
    | cs =>
      "\n\nCaused by:" ++ String.join (cs.zipIdx.map fun (c, n) =>
        let num := toString n
        "\n" ++ String.ofList (List.replicate (5 - num.length) ' ') ++ num ++ ": " ++
          indentLines "       " c)
  "Error: " ++ r.message ++ causes ++ "\n"

/-- The report of a store error. -/
def Report.ofStore (e : StoreError) : Report := ⟨e.message, e.cause?.toList⟩

/-- The report of a campaign error: a failure to keep a vector names the store error as its
cause, and a failure to start a run names the system's. -/
def Report.ofCampaign (e : CampaignError) : Report :=
  match e with
  | .persist se => ⟨e.message, se.message :: se.cause?.toList⟩
  | .checkpointArm oe => ⟨e.message, [oe.message]⟩
  | _ => ⟨e.message, []⟩

/-- How a status is printed after a replay. -/
def Status.describe : Status → String
  | .success => "Success"
  | .exit code => "Exit(" ++ toString code.toInt ++ ")"
  | .abort => "Abort"
  | .crash m => "Crash(" ++ Text.quote .text m ++ ")"
  | .overrun v =>
    "SizeBound(BoundViolation \x7b field: " ++ Text.quote .text v.field ++ ", requested: " ++
      toString v.requested ++ ", used: " ++ toString v.used ++ ", limit: " ++ toString v.limit ++
      " \x7d)"
  | .exhausted f => "ReplayExhausted \x7b field: " ++ Text.quote .text f ++ " \x7d"

/-- What a run of the program leaves. -/
structure Exit where
  /-- The exit code. -/
  code : Nat
  /-- What it printed on standard output. -/
  stdout : String := ""
  /-- What it printed on standard error. -/
  stderr : String := ""
  /-- The disk after it. -/
  disk : Disk
  /-- Whether the capture was still going when the bound on runs was reached. -/
  unfinished : Bool := false
  deriving Inhabited

/-- The exit of a failed run. -/
def Exit.failed (r : Report) (d : Disk) : Exit := { code := 1, stderr := r.text, disk := d }

/-- The file read when no configuration file is named. -/
def defaultConfigFile : String := "vectrace.toml"

/-- The configuration in a file. -/
def loadConfig (cwd : Path) (d : Disk) (file : String) : Except Report Config :=
  let loc : Location := ⟨file, cwd⟩
  match d.read loc with
  | .error e => .error ⟨"Failed to read config file at " ++ loc.quoted ++ ": " ++ e.message, []⟩
  | .ok text =>
    match Config.ofToml text with
    | .ok c => .ok c
    | .error e =>
      .error ⟨"Failed to parse TOML from config file " ++ loc.quoted ++ ": " ++ e.render text, []⟩

/-- The configuration a run uses: the named file, else the default file when it exists, else
the defaults; then the options of the command line over it. -/
def effectiveConfig (cwd : Path) (o : Options) (d : Disk) : Except Report Config := do
  let base ←
    match o.configFile with
    | some file => loadConfig cwd d file
    | none =>
      match d.stat ⟨defaultConfigFile, cwd⟩ with
      | .ok _ => loadConfig cwd d defaultConfigFile
      | .error _ => pure {}
  let h := base.harness
  let h := match o.seed with | some s => { h with seed := .fixed s.toUInt64 } | none => h
  let h := match o.maxRunBytes with | some n => { h with maxRunBytes := n } | none => h
  let h := match o.maxAcceptedRuns with | some n => { h with maxAcceptedRuns := n } | none => h
  pure { harness := h, outputDir := o.outputDir.getD base.outputDir }

/-- Replays the vector in a file through the demo target, and prints how the run ended. -/
def replayFile (cwd : Path) (c : Config) (file : String) (d : Disk) : Exit :=
  let loc : Location := ⟨file, cwd⟩
  match Store.load d loc with
  | .error e => .failed (.ofStore e) d
  | .ok v =>
    let o := demo.replay v c.harness.maxRunBytes
    let r := o.run.record
    { code := 0, disk := d,
      stdout := "Replayed " ++ loc.quoted ++ ": " ++ Status.describe o.status ++ " (" ++
        toString r.fields.size ++ " fields, " ++ toString r.byteCount ++ " bytes)\n" }

/-- Captures vectors of the demo target into the output directory, for at most `fuel` runs;
`clock` is the seed when none is fixed. -/
def capture (cwd : Path) (c : Config) (clock : UInt64) (fuel : Nat) (d : Disk) : Exit :=
  match Store.openDir d ⟨c.outputDir, cwd⟩ with
  | .error e => .failed (.ofStore e) d
  | .ok (store, d) =>
    let seed := match c.harness.seed with | .fixed s => s | .clock => clock
    match Campaign.new c.harness seed store with
    | .error e => .failed (.ofCampaign e) d
    | .ok campaign =>
      match campaign.run demo fuel d with
      | (.finished _, _, d, _) => { code := 0, disk := d }
      | (.failed e, _, d, _) => .failed (.ofCampaign e) d
      | (.unfinished, _, d, _) => { code := 0, disk := d, unfinished := true }

/-- A run of the program with arguments `args` on the disk `d`, working in `cwd`. `clock` stands
for the seed read from the clock, and `fuel` bounds the runs of a capture. -/
def run (args : List String) (cwd : Path) (d : Disk) (clock : UInt64) (fuel : Nat) : Exit :=
  match parseArgs args with
  | .error e => { code := 2, stderr := e.message, disk := d }
  | .ok .help => { code := 0, stdout := helpText, disk := d }
  | .ok .version => { code := 0, stdout := versionText, disk := d }
  | .ok (.run o) =>
    match effectiveConfig cwd o d with
    | .error r => .failed r d
    | .ok c =>
      match o.replay with
      | some file => replayFile cwd c file d
      | none => capture cwd c clock fuel d

end VectorCapture.Cli
