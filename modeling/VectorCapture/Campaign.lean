import VectorCapture.Run.Script
import VectorCapture.Settings
import VectorCapture.Store
/-!
# Capture campaigns

A campaign runs a target again and again on random bytes and keeps the runs that teach it
something. It owns the byte source, the coverage map and the store, lends them to one run at a
time, and moves through three phases: idle, running, and stopped for a reason.

One `step` runs the target once on a fresh record numbered by the next index to keep, on a thread
of its own; when the system cannot start that thread, the step fails before the run, with the
campaign running and nothing else changed. The run is kept when it succeeded, or when it did not overrun the byte bound and cleared a guard that was
still set; a kept run is written to the store under its index. A success stops the campaign, and
so does reaching the number of runs to keep. A stopped campaign refuses to step, and changes
nothing.

`run` steps until the campaign stops, and sums it up; it fails with the first step that fails.
-/

namespace VectorCapture

/-- Why a campaign stopped. -/
inductive StopReason where
  /-- A run of the target succeeded. -/
  | targetSucceeded
  /-- The campaign kept as many runs as it was allowed. -/
  | acceptedRunLimit
  deriving DecidableEq, Repr

/-- The words for a reason to stop. -/
def StopReason.text : StopReason → String
  | .targetSucceeded => "target succeeded"
  | .acceptedRunLimit => "accepted-run limit reached"

/-- The phase of a campaign. -/
inductive Phase where
  | idle
  | running
  | stopped (reason : StopReason)
  deriving DecidableEq, Repr

/-- Why a campaign call failed. -/
inductive CampaignError where
  /-- The settings are refused. -/
  | invalidSettings (problem : String)
  /-- A kept run could not be written. -/
  | persist (e : StoreError)
  /-- The thread of a run could not be started. -/
  | checkpointArm (e : OsError)
  /-- The campaign has stopped. -/
  | stopped (reason : StopReason)
  deriving DecidableEq, Repr

/-- The message of a campaign error. -/
def CampaignError.message : CampaignError → String
  | .invalidSettings p => "Invalid harness settings: " ++ p
  | .persist e => "Failed to persist vector: " ++ e.message
  | .checkpointArm e => "Failed to arm run checkpoint: " ++ e.message
  | .stopped r => "Harness has already terminated: " ++ r.text

/-- What one step did with its run. -/
inductive StepOutcome where
  /-- The run was kept, under this index and file. -/
  | accepted (index : Nat) (file : Location) (status : Status)
  /-- The run was dropped. -/
  | rejected (status : Status)

/-- A summary of a finished campaign. -/
structure Summary where
  seed : UInt64
  executions : Nat
  acceptedRuns : Nat
  discovered : Nat
  reason : StopReason

/-- A capture campaign between steps. -/
structure Campaign where
  /-- The byte bound of each run and the number of runs to keep. -/
  settings : Settings
  /-- The seed the source was made from. -/
  seed : UInt64
  /-- The byte source, shared by all runs. -/
  source : Source
  /-- The coverage map, shared by all runs. -/
  coverage : Coverage
  /-- Where kept runs go. -/
  store : Store
  /-- The phase. -/
  phase : Phase
  /-- The index the next kept run is filed under. -/
  runIndex : Nat
  /-- How many runs were kept. -/
  acceptedRuns : Nat
  /-- How many runs were made. -/
  executions : Nat

/-- Whether a run with this status and this record is kept. -/
def keeps (status : Status) (r : Record) : Bool :=
  match status with
  | .success => true
  | .overrun _ => false
  | _ => r.isNew

namespace Campaign

/-- A campaign with a checked set of settings, a source made from `seed`, and nothing run. -/
def new (settings : Settings) (seed : UInt64) (store : Store) : Except CampaignError Campaign :=
  match settings.problem? with
  | some p => .error (.invalidSettings p)
  | none => .ok {
      settings := settings, seed := seed, source := Source.ofSeed seed,
      coverage := Coverage.empty, store := store, phase := .idle, runIndex := 0,
      acceptedRuns := 0, executions := 0 }

/-- Gives the campaign's coverage map its number of locations, before or between runs. -/
def initCoverage (c : Campaign) (n : Nat) : Bool × Campaign :=
  let (b, cov) := c.coverage.init n
  (b, { c with coverage := cov })

/-- Reports a location to the campaign's coverage map, before or between runs. -/
def traceCoverage (c : Campaign) (l : Nat) : Bool × Campaign :=
  let (b, cov) := c.coverage.trace l
  (b, { c with coverage := cov })

/-- The summary of a campaign that stopped for `reason`. -/
def summary (c : Campaign) (reason : StopReason) : Summary :=
  ⟨c.seed, c.executions, c.acceptedRuns, c.coverage.discovered, reason⟩

/-- What a step gives back: its result, the campaign and disk after it, and the run's log. -/
structure Step (ν : Type) where
  result : Except CampaignError StepOutcome
  campaign : Campaign
  disk : Disk
  log : List ν

/-- Runs the target once and keeps or drops the run; `spawn` is the system's answer to starting
the run's thread. -/
def step {ν : Type} (c : Campaign) (target : Script ν) (d : Disk)
    (spawn : Except OsError Unit := .ok ()) : Step ν :=
  match c.phase, spawn with
  | .stopped reason, _ => ⟨.error (.stopped reason), c, d, []⟩
  | _, .error e => ⟨.error (.checkpointArm e), { c with phase := .running }, d, []⟩
  | _, .ok () =>
    let o := target.exec
      { record := Record.new c.runIndex, source := c.source, coverage := c.coverage,
        limit := c.settings.maxRunBytes }
    let c := { c with
      phase := .running, source := o.run.source, coverage := o.run.coverage,
      executions := c.executions + 1 }
    if keeps o.status o.run.record then
      match c.store.persist d o.run.record with
      | (.error e, d) => ⟨.error (.persist e), c, d, o.log⟩
      | (.ok file, d) =>
        let index := c.runIndex
        let accepted := c.acceptedRuns + 1
        let phase :=
          if o.status = .success then .stopped .targetSucceeded
          else if c.settings.maxAcceptedRuns ≤ accepted then .stopped .acceptedRunLimit
          else Phase.running
        ⟨.ok (.accepted index file o.status),
          { c with runIndex := index + 1, acceptedRuns := accepted, phase := phase }, d, o.log⟩
    else ⟨.ok (.rejected o.status), c, d, o.log⟩

/-- How a bounded run of steps ended. -/
inductive RunEnd where
  /-- The campaign stopped, with this summary. -/
  | finished (s : Summary)
  /-- A step failed. -/
  | failed (e : CampaignError)
  /-- The steps allowed ran out first. -/
  | unfinished

/-- Steps until the campaign stops, at most `fuel` times; `log` holds the entries so far,
latest first, and `spawn n` is the system's answer to starting a run's thread after `n` runs. -/
def runFrom {ν : Type} (target : Script ν) (spawn : Nat → Except OsError Unit) :
    Nat → Campaign → Disk → List ν → RunEnd × Campaign × Disk × List ν
  | fuel, c, d, log =>
    match c.phase, fuel with
    | .stopped reason, _ => (.finished (c.summary reason), c, d, log.reverse)
    | _, 0 => (.unfinished, c, d, log.reverse)
    | _, n + 1 =>
      let s := c.step target d (spawn c.executions)
      let log := s.log.reverse ++ log
      match s.result with
      | .error e => (.failed e, s.campaign, s.disk, log.reverse)
      | .ok _ => runFrom target spawn n s.campaign s.disk log

/-- Steps until the campaign stops, at most `fuel` times; `spawn n` is the system's answer to
starting a run's thread after `n` runs. -/
def run {ν : Type} (c : Campaign) (target : Script ν) (fuel : Nat) (d : Disk)
    (spawn : Nat → Except OsError Unit := fun _ => .ok ()) : RunEnd × Campaign × Disk × List ν :=
  runFrom target spawn fuel c d []

end Campaign

end VectorCapture
