import VectorCapture.Run.Value
import VectorCapture.TestVector
/-!
# Targets as scripts, and how a run ends

A target is modelled by what it does next: one call into its run, whose answer picks the rest of
the target, or a way of leaving the run. A `Script` is that tree of calls. Because the answers of
the run are all a script can see, two runs that give the same answers take the same path.

A script may also *note* an entry in a log of its own, which the run keeps in order and which
survives however the run ends.

`Script.exec` plays a script against a run. Whatever way the target leaves, the run ends in a
`Status`: returning or exiting with status 0 is success, any other status is an exit; an abort,
a panic (with its message, or "Unknown panic type" when it has none), a request over the bound
or a source that runs dry each have their own status. The effects of the calls before the end
are kept, and the request that ends a run records nothing.
-/

namespace VectorCapture

/-- What a target does next, with log entries of type `ν`. -/
inductive Script (ν : Type) where
  /-- Return from the target with a status. -/
  | finish (code : Int32)
  /-- Ask for bytes; a failure ends the run. -/
  | request (size : Nat) (name : String) (next : List UInt8 → Script ν)
  /-- Ask for bytes, and be told of a failure. -/
  | tryRequest (size : Nat) (name : String) (next : Except RequestError (List UInt8) → Script ν)
  /-- Ask how many bytes the run may still take. -/
  | remaining (next : Nat → Script ν)
  /-- Report that a location ran. -/
  | hit (loc : Nat) (next : Script ν)
  /-- Give the number of locations. -/
  | initCoverage (n : Nat) (next : Script ν)
  /-- Exit the run with a status. -/
  | exit (code : Int32)
  /-- Abort the run. -/
  | abort
  /-- Panic, with a message or with a payload that is no text. -/
  | panic (message : Option String)
  /-- Write an entry to the target's log. -/
  | note (entry : ν) (next : Script ν)

/-- How a run ended. -/
inductive Status where
  /-- The target returned, or exited, with status 0. -/
  | success
  /-- The target returned, or exited, with another status. -/
  | exit (code : Int32)
  /-- The target aborted. -/
  | abort
  /-- The target panicked. -/
  | crash (message : String)
  /-- A request did not fit under the bound. -/
  | overrun (v : Overrun)
  /-- The source ran dry while filling a field. -/
  | exhausted (field : String)
  deriving DecidableEq, Repr

namespace Status

/-- The status of a run that returned or exited with `code`. -/
def ofCode (code : Int32) : Status :=
  if code = 0 then .success else .exit code

/-- The status of a run that a termination ended. -/
def ofTermination : Termination → Status
  | .exit code => ofCode code
  | .abort => .abort
  | .overrun v => .overrun v
  | .exhausted f => .exhausted f

/-- The message of a panic whose payload is no text. -/
def unknownPanic : String := "Unknown panic type"

end Status

/-- The end of a run: its status, the run state after it, and the log in order. -/
structure Outcome (ν : Type) where
  /-- How the run ended. -/
  status : Status
  /-- The run state at its end. -/
  run : Run
  /-- The entries the target noted. -/
  log : List ν

namespace Script

/-- Plays a script against a run; `log` holds the entries noted so far, latest first. -/
def execFrom {ν : Type} : Script ν → Run → List ν → Outcome ν
  | .finish code, r, log => ⟨.ofCode code, r, log.reverse⟩
  | .request size name next, r, log =>
    match r.request size name with
    | (.ok bs, r) => execFrom (next bs) r log
    | (.error t, r) => ⟨.ofTermination t, r, log.reverse⟩
  | .tryRequest size name next, r, log =>
    let (res, r) := r.tryRequest size name
    execFrom (next res) r log
  | .remaining next, r, log => execFrom (next r.remaining) r log
  | .hit loc next, r, log => execFrom next (r.hit loc) log
  | .initCoverage n next, r, log => execFrom next (r.initCoverage n) log
  | .exit code, r, log => ⟨.ofCode code, r, log.reverse⟩
  | .abort, r, log => ⟨.abort, r, log.reverse⟩
  | .panic message, r, log => ⟨.crash (message.getD Status.unknownPanic), r, log.reverse⟩
  | .note entry next, r, log => execFrom next r (entry :: log)

/-- Plays a script against a run. -/
def exec {ν : Type} (s : Script ν) (r : Run) : Outcome ν :=
  execFrom s r []

/-- Plays a script over the bytes of a vector, with a coverage map of its own and a fresh
record. -/
def replay {ν : Type} (s : Script ν) (v : TestVector) (limit : Nat) : Outcome ν :=
  s.exec { record := Record.new 0, source := v.replaySource, coverage := Coverage.empty, limit }

end Script

end VectorCapture
