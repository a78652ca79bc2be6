import VectorCapture.Target.Program
import VectorCapture.Proofs.CaptureReplay

/-! # How a run of a program ends

    A target program is run as a script: each instruction becomes a call into the run whose
    answer picks the rest, and the run ends at a leaf. This file reads the same program in
    direct style, one instruction after another over the run state, the way its instructions
    are described: a request hands over its bytes or ends the run, `exit`, `abort`, a panic or
    `ret` end it, a block runs its instructions in turn until one of them ends the run, and a
    loop runs its body the given number of times. What ends the run is an `Ending`, and the
    status of the run is read off it by one table (`Ending.status`).

    The main theorem, `Program.exec_checkpoint`: running the script of a program ends with the
    status of the first event that ends the direct run, with the run state that the calls before
    that event left, and with the log they wrote. A request that ends the run records nothing;
    only a request that found the source dry changes the run, by leaving the source dry. No
    event but a panic ends in a crash. The route:

    * `Instr.perform` and `Instr.performBlock`, the direct reading, and `Progress.resume`, which
      carries a direct result on to the rest of a script;
    * a failed request is the run before it, the source left dry if it ran dry
      (`Run.tryRequest_of_error`);
    * by induction on the instructions, the script of a block followed by `k` runs as the block
      in direct style, then `k` (`Instr.execFrom_blockScript`). -/

namespace VectorCapture

/-- The event that ends a run of a target program. -/
inductive Ending where
  /-- The program returned `code`, by `ret` or by falling off its end. -/
  | returned (code : Int32)
  /-- The program called `exit` with `code`. -/
  | exited (code : Int32)
  /-- The program called `abort`. -/
  | aborted
  /-- A request that ends the run on failure failed. -/
  | refused (e : RequestError)
  /-- The program panicked, with a text payload or with one that is no text. -/
  | panicked (payload : Option String)
  deriving DecidableEq

namespace Ending

/-- The status of a run that an event ended: a return or an exit with status 0 is success, any
other status an exit; an abort, a refused request and a panic each have their own, and a panic
with no text is reported as of unknown type. -/
def status : Ending → Status
  | .returned c | .exited c => if c = 0 then .success else .exit c
  | .aborted => .abort
  | .refused (.overrun v) => .overrun v
  | .refused (.exhausted f) => .exhausted f
  | .panicked (some m) => .crash m
  | .panicked none => .crash "Unknown panic type"

/-- What the ending event does to the run state: a request that found the source dry leaves it
dry, and nothing else changes it. -/
def after : Ending → Run → Run
  | .refused (.exhausted _), r => { r with source := .replay [] }
  | _, r => r

@[simp] theorem record_after (e : Ending) (r : Run) : (e.after r).record = r.record := by
  cases e with
  | refused err => cases err <;> rfl
  | _ => rfl

@[simp] theorem coverage_after (e : Ending) (r : Run) : (e.after r).coverage = r.coverage := by
  cases e with
  | refused err => cases err <;> rfl
  | _ => rfl

/-- Only a panic ends a run in a crash, with its text or as of unknown type. -/
theorem status_eq_crash_iff (e : Ending) (m : String) :
    e.status = .crash m ↔ ∃ payload, e = .panicked payload ∧ m = payload.getD Status.unknownPanic := by
  cases e with
  | refused err => cases err <;> simp [status]
  | panicked payload =>
      cases payload with
      | none => simp [status, Status.unknownPanic, eq_comm]
      | some text => simp [status, eq_comm]
  | returned c | exited c =>
      simp only [status]
      split <;> simp
  | aborted => simp [status]

end Ending

/-- How a stretch of a program came out: it went on past its last instruction with the register,
or an event ended the run. -/
inductive Flow where
  | next (reg : Nat)
  | stop (e : Ending)

/-- Where a stretch of a program leaves things: how it came out, the run state, and the log,
latest entry first. When an event ended the run, the run state is the one the calls before it
left. -/
structure Progress where
  flow : Flow
  run : Run
  log : List Note

/-- Goes on from a direct result with the rest of a script `k`; when the run ended, the outcome
is read off the ending event. -/
def Progress.resume (k : Nat → Script Note) : Progress → Outcome Note
  | ⟨.next reg, r, log⟩ => (k reg).execFrom r log
  | ⟨.stop e, r, log⟩ => ⟨e.status, e.after r, log.reverse⟩

/-- Runs `body` `count` times in direct style, threading the register, until an event ends the
run. -/
def repeatDirect (count : Nat) (body : Nat → Run → List Note → Progress) (reg : Nat) (r : Run)
    (log : List Note) : Progress :=
  match count with
  | 0 => ⟨.next reg, r, log⟩
  | n + 1 =>
    match body reg r log with
    | ⟨.next reg', r', log'⟩ => repeatDirect n body reg' r' log'
    | stopped => stopped

mutual

/-- One instruction in direct style, with register `reg`, on the run `r` with log `log`. -/
def Instr.perform : Instr → Nat → Run → List Note → Progress
  | .bytes size name, _, r, log =>
    match r.tryRequest size name with
    | (.ok bs, r') => ⟨.next (loadBytes bs), r', .bytes bs :: log⟩
    | (.error e, _) => ⟨.stop (.refused e), r, log⟩
  | .tryBytes size name, reg, r, log =>
    match r.tryRequest size name with
    | (.ok bs, r') => ⟨.next (loadBytes bs), r', .bytes bs :: log⟩
    | (.error e, r') => ⟨.next reg, r', .failed e :: log⟩
  | .nondet kind name, _, r, log =>
    match r.tryRequest kind.size name with
    | (.ok bs, r') =>
      ⟨.next ((kind.decode bs).bits kind), r', .value kind (kind.decode bs) :: log⟩
    | (.error e, _) => ⟨.stop (.refused e), r, log⟩
  | .hit loc, reg, r, log => ⟨.next reg, r.hit loc, log⟩
  | .hitReg base modulus, reg, r, log =>
    ⟨.next reg, r.hit (base + if modulus = 0 then 0 else reg % modulus), log⟩
  | .init n, reg, r, log => ⟨.next reg, r.initCoverage n, log⟩
  | .exit code, _, r, log => ⟨.stop (.exited code), r, log⟩
  | .abort, _, r, log => ⟨.stop .aborted, r, log⟩
  | .panic message, _, r, log => ⟨.stop (.panicked (some message)), r, log⟩
  | .panicStatic, _, r, log => ⟨.stop (.panicked (some "static panic message")), r, log⟩
  | .panicAny, _, r, log => ⟨.stop (.panicked none), r, log⟩
  | .ret code, _, r, log => ⟨.stop (.returned code), r, log⟩
  | .remaining, reg, r, log => ⟨.next reg, r, .remaining r.remaining :: log⟩
  | .branch cmp value modulus yes no, reg, r, log =>
    let x := if modulus > 0 then reg % modulus else reg
    if cmp.holds x value then Instr.performBlock yes reg r log else Instr.performBlock no reg r log
  | .loop count body, reg, r, log => repeatDirect count (Instr.performBlock body) reg r log

/-- A block in direct style: its instructions in turn, until an event ends the run. -/
def Instr.performBlock : List Instr → Nat → Run → List Note → Progress
  | [], reg, r, log => ⟨.next reg, r, log⟩
  | i :: rest, reg, r, log =>
    match i.perform reg r log with
    | ⟨.next reg', r', log'⟩ => Instr.performBlock rest reg' r' log'
    | stopped => stopped

end

/-- A program in direct style: the event that ended its run, where falling off the end returns
the default status; the run state the calls before that event left; and the log in order. -/
def Program.perform (p : Program) (r : Run) : Ending × Run × List Note :=
  match Instr.performBlock p.body 0 r [] with
  | ⟨.next _, r', log⟩ => (.returned p.ret, r', log.reverse)
  | ⟨.stop e, r', log⟩ => (e, r', log.reverse)

/-! ## A failed request -/

namespace Run

/-- A request that fails leaves the run as it was before it, except that a source that ran dry
stays dry. -/
theorem tryRequest_of_error {r r' : Run} {size : Nat} {name : String} {e : RequestError}
    (h : r.tryRequest size name = (.error e, r')) : r' = (Ending.refused e).after r := by
  rcases tryRequest_cases r size name with
    ⟨-, heq⟩ | ⟨bs, src, -, -, heq⟩ | ⟨src, -, htake, heq⟩ <;> rw [heq] at h
  · obtain ⟨he, rfl⟩ := Prod.mk.inj h
    obtain rfl := Except.error.inj he
    rfl
  · cases h
  · obtain ⟨he, rfl⟩ := Prod.mk.inj h
    obtain rfl := Except.error.inj he
    rw [(Source.take_of_none htake).1]
    rfl

end Run

/-- A request's failure, turned into the end of a run, has the status of the refused request. -/
theorem Status.ofTermination_ofRequestError (e : RequestError) :
    Status.ofTermination (.ofRequestError e) = (Ending.refused e).status := by
  cases e <;> rfl

/-! ## Scripts and the direct reading -/

/-- A request that ends the run on failure, followed by `next`, runs as the direct request: the
bytes go on to `next`, and a failure ends the run where the request was made. -/
theorem execFrom_request_resume (size : Nat) (name : String) (next : List UInt8 → Script Note)
    (r : Run) (log : List Note) :
    (Script.request size name next).execFrom r log =
      match r.tryRequest size name with
      | (.ok bs, r') => (next bs).execFrom r' log
      | (.error e, _) => Progress.resume (fun _ => .finish 0) ⟨.stop (.refused e), r, log⟩ := by
  rw [Script.execFrom_request]
  cases h : r.tryRequest size name with
  | mk res r' =>
      cases res with
      | ok bs => rfl
      | error e =>
          dsimp only
          rw [Progress.resume, Status.ofTermination_ofRequestError, ← Run.tryRequest_of_error h]

/-- Running a loop's script is running the loop in direct style, as long as one pass of the
body's script is one pass in direct style. -/
theorem execFrom_repeatScript (body : Nat → (Nat → Script Note) → Script Note)
    (direct : Nat → Run → List Note → Progress)
    (hbody : ∀ reg k r log, (body reg k).execFrom r log = (direct reg r log).resume k) :
    ∀ count reg k r log,
      (repeatScript count body reg k).execFrom r log = (repeatDirect count direct reg r log).resume k
  | 0, _, _, _, _ => rfl
  | n + 1, reg, k, r, log => by
      rw [repeatScript, repeatDirect, hbody]
      rcases h : direct reg r log with ⟨_ | e, r', log'⟩
      · exact execFrom_repeatScript body direct hbody n _ k r' log'
      · rfl

mutual

/-- The script of an instruction followed by `k` runs as the instruction in direct style, then
`k`. -/
theorem Instr.execFrom_script : ∀ (i : Instr) (reg : Nat) (k : Nat → Script Note) (r : Run)
    (log : List Note), (i.script reg k).execFrom r log = (i.perform reg r log).resume k
  | .bytes size name, _, k, r, log => by
      rw [Instr.script, execFrom_request_resume, Instr.perform]
      rcases r.tryRequest size name with ⟨_ | _, r'⟩ <;> rfl
  | .tryBytes size name, reg, k, r, log => by
      rw [Instr.script, Script.execFrom_tryRequest, Instr.perform]
      rcases r.tryRequest size name with ⟨_ | _, r'⟩ <;> rfl
  | .nondet kind name, _, k, r, log => by
      rw [Instr.script, execFrom_request_resume, Instr.perform]
      rcases r.tryRequest kind.size name with ⟨_ | _, r'⟩ <;> rfl
  | .hit _, _, _, _, _ => rfl
  | .hitReg _ _, _, _, _, _ => rfl
  | .init _, _, _, _, _ => rfl
  | .exit _, _, _, _, _ => rfl
  | .abort, _, _, _, _ => rfl
  | .panic _, _, _, _, _ => rfl
  | .panicStatic, _, _, _, _ => rfl
  | .panicAny, _, _, _, _ => rfl
  | .ret _, _, _, _, _ => rfl
  | .remaining, _, _, _, _ => rfl
  | .branch cmp value modulus yes no, reg, k, r, log => by
      rw [Instr.script, Instr.perform]
      -- both readings take the same block
      by_cases hc : cmp.holds (if modulus > 0 then reg % modulus else reg) value = true
      · rw [if_pos hc, if_pos hc]
        exact Instr.execFrom_blockScript yes reg k r log
      · rw [if_neg hc, if_neg hc]
        exact Instr.execFrom_blockScript no reg k r log
  | .loop count body, reg, k, r, log => by
      rw [Instr.script, Instr.perform]
      exact execFrom_repeatScript _ _ (Instr.execFrom_blockScript body) count reg k r log

/-- The script of a block followed by `k` runs as the block in direct style, then `k`: the
instructions in turn, until the first event that ends the run. -/
theorem Instr.execFrom_blockScript : ∀ (is : List Instr) (reg : Nat) (k : Nat → Script Note)
    (r : Run) (log : List Note),
    (Instr.blockScript is reg k).execFrom r log = (Instr.performBlock is reg r log).resume k
  | [], _, _, _, _ => rfl
  | i :: rest, reg, k, r, log => by
      rw [Instr.blockScript, Instr.execFrom_script, Instr.performBlock]
      rcases i.perform reg r log with ⟨_ | e, r', log'⟩
      · exact Instr.execFrom_blockScript rest _ k r' log'
      · rfl

end

/-- **How a run ends.** Running a program, from any record, source, coverage map and bound, ends
with the status of the first event that ends its direct run, read off `Ending.status`: a return,
falling off the end or an exit with status 0 is success and any other status an exit; an abort is
an abort; a refused request is an overrun with its numbers or a dry source with its field; a panic
is a crash with its text, or of unknown type. The run state is the one the calls before that
event left, record and coverage map included: nothing is rolled back, and the event itself
records nothing. The log is the one those calls wrote. Only a panic ends a run in a crash. -/
theorem Program.exec_checkpoint (p : Program) (r : Run) :
    (p.script.exec r).status = (p.perform r).1.status ∧
    (p.script.exec r).run = (p.perform r).1.after (p.perform r).2.1 ∧
    (p.script.exec r).log = (p.perform r).2.2 ∧
    (p.script.exec r).run.record = (p.perform r).2.1.record ∧
    (p.script.exec r).run.coverage = (p.perform r).2.1.coverage ∧
    ∀ m, (p.script.exec r).status = .crash m ↔
      ∃ payload, (p.perform r).1 = .panicked payload ∧ m = payload.getD Status.unknownPanic := by
  have hexec : p.script.exec r =
      ⟨(p.perform r).1.status, (p.perform r).1.after (p.perform r).2.1, (p.perform r).2.2⟩ := by
    rw [Program.script, Script.exec, Instr.execFrom_blockScript, Program.perform]
    rcases Instr.performBlock p.body 0 r [] with ⟨_ | e, r', log⟩ <;> rfl
  rw [hexec]
  exact ⟨rfl, rfl, rfl, Ending.record_after _ _, Ending.coverage_after _ _,
    Ending.status_eq_crash_iff _⟩

/-- The second of two requests of four bytes under a bound of six is refused, with four bytes
used, and the run keeps the first field. -/
example :
    (Program.perform ⟨[.bytes 4 "a", .bytes 4 "b", .ret 0], 1⟩
      ⟨Record.new 0, .replay [1, 2, 3, 4, 5, 6, 7, 8], Coverage.empty, 6⟩).1 =
      .refused (.overrun ⟨"b", 4, 4, 6⟩) := by
  decide

end VectorCapture
