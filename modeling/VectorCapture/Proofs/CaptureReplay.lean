import VectorCapture.Proofs.VectorText
import VectorCapture.Run.Script

/-! # Replaying a captured run

    A script sees its run only through the answers to its calls. Capture a run, write its
    record down as a vector, and play the script again over that vector: every call gets the
    answer it got the first time, so the script takes the same path, ends the same way, notes
    the same log and records the same fields. The route:

    * a run only appends to its record, and once its source has run dry every field it still
      records is empty (`Script.fields_execFrom`);
    * `Run.Replays N r₁ r₂`: `r₂` has the bound and the byte count of `r₁`, and its source holds
      exactly the bytes of the fields `N` that `r₁` will still record. A request then gets the
      same answer from both runs, and the relation holds again after it
      (`Run.tryRequest_replays`);
    * by induction on the script, a run that replays another answers every call as it does
      (`Script.execFrom_replays`), and so a fresh replay of a captured vector replays its
      capture (`Script.replay_capture`). -/

namespace VectorCapture

/-- One call a script made into its run, with the answer it got. -/
inductive Exchange where
  /-- A request that ends the run on failure. -/
  | request (size : Nat) (name : String) (answer : Except Termination (List UInt8))
  /-- A request that hands its failure back. -/
  | tryRequest (size : Nat) (name : String) (answer : Except RequestError (List UInt8))
  /-- A question for the bytes left. -/
  | remaining (answer : Nat)
  /-- A location reported. -/
  | hit (loc : Nat)
  /-- The number of locations given. -/
  | initCoverage (n : Nat)

namespace Script

/-- The calls a script makes into a run, in order, each with the answer the run gave. -/
def transcript {ν : Type} : Script ν → Run → List Exchange
  | .request size name next, r =>
    match r.request size name with
    | (.ok bs, r) => .request size name (.ok bs) :: transcript (next bs) r
    | (.error t, _) => [.request size name (.error t)]
  | .tryRequest size name next, r =>
    let (res, r) := r.tryRequest size name
    .tryRequest size name res :: transcript (next res) r
  | .remaining next, r => .remaining r.remaining :: transcript (next r.remaining) r
  | .hit loc next, r => .hit loc :: transcript next (r.hit loc)
  | .initCoverage n next, r => .initCoverage n :: transcript next (r.initCoverage n)
  | .note _ next, r => transcript next r
  | .finish _, _ | .exit _, _ | .abort, _ | .panic _, _ => []

variable {ν : Type}

/-! ## A request, as a script sees it -/

theorem execFrom_request (size : Nat) (name : String) (next : List UInt8 → Script ν) (r : Run)
    (log : List ν) :
    (Script.request size name next).execFrom r log =
      match (r.tryRequest size name).1 with
      | .ok bs => (next bs).execFrom (r.tryRequest size name).2 log
      | .error e => ⟨.ofTermination (.ofRequestError e), (r.tryRequest size name).2, log.reverse⟩ := by
  rw [execFrom, Run.request_eq]
  cases (r.tryRequest size name).1 <;> rfl

theorem execFrom_tryRequest (size : Nat) (name : String)
    (next : Except RequestError (List UInt8) → Script ν) (r : Run) (log : List ν) :
    (Script.tryRequest size name next).execFrom r log =
      (next (r.tryRequest size name).1).execFrom (r.tryRequest size name).2 log := rfl

theorem transcript_request (size : Nat) (name : String) (next : List UInt8 → Script ν)
    (r : Run) :
    (Script.request size name next).transcript r =
      match (r.tryRequest size name).1 with
      | .ok bs => .request size name (.ok bs) :: (next bs).transcript (r.tryRequest size name).2
      | .error e => [.request size name (.error (.ofRequestError e))] := by
  rw [transcript, Run.request_eq]
  cases (r.tryRequest size name).1 <;> rfl

theorem transcript_tryRequest (size : Nat) (name : String)
    (next : Except RequestError (List UInt8) → Script ν) (r : Run) :
    (Script.tryRequest size name next).transcript r =
      .tryRequest size name (r.tryRequest size name).1 ::
        (next (r.tryRequest size name).1).transcript (r.tryRequest size name).2 := rfl

end Script

/-! ## What a run records -/

namespace Run

/-- A request appends at most one field, and a run whose source is dry appends an empty one and
stays dry. -/
theorem tryRequest_appends (r : Run) (size : Nat) (name : String) :
    ∃ new, (r.tryRequest size name).2.record.fields.toList = r.record.fields.toList ++ new ∧
      (r.source = .replay [] →
        new.flatMap (·.bytes) = [] ∧ (r.tryRequest size name).2.source = .replay []) := by
  rcases tryRequest_cases r size name with
    ⟨-, heq⟩ | ⟨bs, src, -, htake, heq⟩ | ⟨src, -, htake, heq⟩
  · rw [heq]
    exact ⟨[], by simp, fun hdry => ⟨rfl, hdry⟩⟩
  · rw [heq]
    refine ⟨[⟨name, bs⟩], by simp, fun hdry => ?_⟩
    -- a dry source only gives the empty draw
    rw [hdry, Source.take_replay] at htake
    split at htake
    · obtain ⟨hbs, hsrc⟩ := Prod.mk.inj htake
      simp only [List.take_nil, Option.some.injEq, List.drop_nil] at hbs hsrc
      simp [← hbs, ← hsrc]
    · cases htake
  · rw [heq]
    exact ⟨[], by simp, fun _ => ⟨rfl, (Source.take_of_none htake).1⟩⟩

end Run

namespace Script

variable {ν : Type}

/-- A run only appends to its record; once its source is dry, every field it still records is
empty. -/
theorem fields_execFrom (s : Script ν) (r : Run) (log : List ν) :
    ∃ N, (s.execFrom r log).run.record.fields.toList = r.record.fields.toList ++ N ∧
      (r.source = .replay [] → N.flatMap (·.bytes) = []) := by
  induction s generalizing r log with
  | finish code => exact ⟨[], by simp [execFrom], fun _ => rfl⟩
  | request size name next ih =>
      obtain ⟨new, hnew, hdry⟩ := Run.tryRequest_appends r size name
      rw [execFrom_request]
      cases (r.tryRequest size name).1 with
      | error e => exact ⟨new, hnew, fun hsrc => (hdry hsrc).1⟩
      | ok bs =>
          obtain ⟨N, hN, hNdry⟩ := ih bs (r.tryRequest size name).2 log
          refine ⟨new ++ N, by rw [hN, hnew, List.append_assoc], fun hsrc => ?_⟩
          obtain ⟨hempty, hstill⟩ := hdry hsrc
          rw [List.flatMap_append, hempty, hNdry hstill]
          rfl
  | tryRequest size name next ih =>
      obtain ⟨new, hnew, hdry⟩ := Run.tryRequest_appends r size name
      obtain ⟨N, hN, hNdry⟩ := ih (r.tryRequest size name).1 (r.tryRequest size name).2 log
      rw [execFrom_tryRequest]
      refine ⟨new ++ N, by rw [hN, hnew, List.append_assoc], fun hsrc => ?_⟩
      obtain ⟨hempty, hstill⟩ := hdry hsrc
      rw [List.flatMap_append, hempty, hNdry hstill]
      rfl
  | remaining next ih => exact ih r.remaining r log
  | hit loc next ih =>
      obtain ⟨N, hN, hdry⟩ := ih (r.hit loc) log
      refine ⟨N, ?_, fun hsrc => hdry (by simpa using hsrc)⟩
      rw [execFrom, hN, Run.fields_hit]
  | initCoverage n next ih =>
      obtain ⟨N, hN, hdry⟩ := ih (r.initCoverage n) log
      refine ⟨N, ?_, fun hsrc => hdry (by simpa using hsrc)⟩
      rw [execFrom, hN, Run.record_initCoverage]
  | exit code => exact ⟨[], by simp [execFrom], fun _ => rfl⟩
  | abort => exact ⟨[], by simp [execFrom], fun _ => rfl⟩
  | panic message => exact ⟨[], by simp [execFrom], fun _ => rfl⟩
  | note entry next ih => exact ih r (entry :: log)

end Script

/-! ## One run replaying another -/

namespace Run

/-- `r₂` replays `r₁` with the fields `N` still to come: the two runs have the same bound and
byte count, and the source of `r₂` holds exactly the bytes of `N`, in order. -/
structure Replays (N : List Field) (r₁ r₂ : Run) : Prop where
  limit_eq : r₂.limit = r₁.limit
  byteCount_eq : r₂.record.byteCount = r₁.record.byteCount
  source_eq : r₂.source = .replay (N.flatMap (·.bytes))

variable {N N' : List Field} {r₁ r₂ : Run}

theorem Replays.remaining_eq (h : Replays N r₁ r₂) : r₂.remaining = r₁.remaining := by
  rw [remaining, remaining, h.limit_eq, h.byteCount_eq]

theorem Replays.hit (h : Replays N r₁ r₂) (l₁ l₂ : Nat) : Replays N (r₁.hit l₁) (r₂.hit l₂) :=
  ⟨by simpa using h.limit_eq, by simpa using h.byteCount_eq, by simpa using h.source_eq⟩

theorem Replays.initCoverage (h : Replays N r₁ r₂) (n₁ n₂ : Nat) :
    Replays N (r₁.initCoverage n₁) (r₂.initCoverage n₂) :=
  ⟨h.limit_eq, h.byteCount_eq, h.source_eq⟩

/-- **A request replayed.** Let `N'` be the fields still to come after the request, so that the
request itself recorded what `N` has before `N'`. Then the replaying run answers the request as
the captured one did, records the same, and replays it on with `N'`. -/
theorem tryRequest_replays (h : Replays N r₁ r₂) {size : Nat} {name : String}
    (hN : (r₁.tryRequest size name).2.record.fields.toList ++ N' = r₁.record.fields.toList ++ N)
    (hdry : (r₁.tryRequest size name).2.source = .replay [] → N'.flatMap (·.bytes) = []) :
    (r₂.tryRequest size name).1 = (r₁.tryRequest size name).1 ∧
      Replays N' (r₁.tryRequest size name).2 (r₂.tryRequest size name).2 ∧
      (r₂.tryRequest size name).2.record.fields.toList ++ N' =
        r₂.record.fields.toList ++ N := by
  rcases tryRequest_cases r₁ size name with
    ⟨hover, heq⟩ | ⟨bs, src, hfit, htake, heq⟩ | ⟨src, hfit, htake, heq⟩
  · -- refused: neither run changes, and both refuse with the same numbers
    rw [heq] at hN ⊢
    obtain rfl : N' = N := List.append_cancel_left hN
    rw [tryRequest_of_lt (h.remaining_eq ▸ hover), h.byteCount_eq, h.limit_eq]
    exact ⟨rfl, h, rfl⟩
  · -- recorded: the replayed source starts with the same bytes
    rw [heq] at hN ⊢
    obtain rfl : N = ⟨name, bs⟩ :: N' := by simpa using hN.symm
    have hlen : bs.length = size := Source.length_of_take htake
    have htake₂ : r₂.source.take size = (some bs, .replay (N'.flatMap (·.bytes))) := by
      rw [h.source_eq, Source.take_replay, ← hlen]
      simp
    rw [tryRequest_of_le (h.remaining_eq ▸ hfit), htake₂]
    refine ⟨rfl, ⟨h.limit_eq, ?_, rfl⟩, by simp⟩
    simp [h.byteCount_eq]
  · -- the source ran dry: nothing with bytes is still to come, so the replay's is dry too
    rw [heq] at hN hdry ⊢
    obtain rfl : N' = N := List.append_cancel_left hN
    obtain ⟨rfl, hpos⟩ := Source.take_of_none htake
    have hempty : N'.flatMap (·.bytes) = [] := hdry rfl
    have htake₂ : r₂.source.take size = (none, .replay []) := by
      rw [h.source_eq, hempty, Source.take_replay, if_neg (by simp; omega)]
    rw [tryRequest_of_le (h.remaining_eq ▸ hfit), htake₂]
    exact ⟨rfl, ⟨h.limit_eq, h.byteCount_eq, hempty ▸ rfl⟩, rfl⟩

end Run

/-! ## The whole run -/

namespace Script

variable {ν : Type}

/-- **A script replayed.** A run that replays another, with the fields that run will still
record, answers every call of a script as that run does: the script makes the same calls, ends
with the same status, notes the same log, and records the same fields. -/
theorem execFrom_replays (s : Script ν) {N : List Field} {r₁ r₂ : Run} (log : List ν)
    (h : Run.Replays N r₁ r₂)
    (hN : (s.execFrom r₁ log).run.record.fields.toList = r₁.record.fields.toList ++ N) :
    (s.execFrom r₂ log).status = (s.execFrom r₁ log).status ∧
      (s.execFrom r₂ log).log = (s.execFrom r₁ log).log ∧
      (s.execFrom r₂ log).run.record.fields.toList = r₂.record.fields.toList ++ N ∧
      s.transcript r₂ = s.transcript r₁ := by
  induction s generalizing N r₁ r₂ log with
  | finish code =>
      -- a run that ends here records nothing more
      obtain rfl : N = [] := by simpa [execFrom] using hN
      simp [execFrom, transcript]
  | request size name next ih =>
      rw [execFrom_request] at hN
      -- the fields still to come once the request is answered, whatever the answer
      obtain ⟨N', hN', hdry⟩ : ∃ N', (r₁.tryRequest size name).2.record.fields.toList ++ N' =
          r₁.record.fields.toList ++ N ∧
          ((r₁.tryRequest size name).2.source = .replay [] → N'.flatMap (·.bytes) = []) := by
        cases hres : (r₁.tryRequest size name).1 with
        | ok bs =>
            rw [hres] at hN
            obtain ⟨N', hfin, hdry⟩ := fields_execFrom (next bs) (r₁.tryRequest size name).2 log
            exact ⟨N', by rw [← hfin, hN], hdry⟩
        | error e =>
            rw [hres] at hN
            exact ⟨[], by simpa using hN, fun _ => rfl⟩
      obtain ⟨hans, hrel, hfields⟩ := Run.tryRequest_replays h hN' hdry
      rw [execFrom_request, execFrom_request, transcript_request, transcript_request, hans]
      cases hres : (r₁.tryRequest size name).1 with
      | ok bs =>
          rw [hres] at hN
          dsimp only at hN ⊢
          obtain ⟨hst, hlog, hfs, htr⟩ := ih bs log hrel (hN.trans hN'.symm)
          exact ⟨hst, hlog, hfs.trans hfields, by rw [htr]⟩
      | error e =>
          rw [hres] at hN
          dsimp only at hN ⊢
          -- the run ends at the request, so nothing is still to come after it
          obtain rfl : N' = [] := List.append_cancel_left (hN'.trans (by simpa using hN.symm))
          exact ⟨rfl, rfl, by simpa using hfields, rfl⟩
  | tryRequest size name next ih =>
      rw [execFrom_tryRequest] at hN
      obtain ⟨N', hfin, hdry⟩ :=
        fields_execFrom (next (r₁.tryRequest size name).1) (r₁.tryRequest size name).2 log
      obtain ⟨hans, hrel, hfields⟩ := Run.tryRequest_replays h (by rw [← hfin, hN]) hdry
      obtain ⟨hst, hlog, hfs, htr⟩ := ih (r₁.tryRequest size name).1 log hrel hfin
      rw [execFrom_tryRequest, execFrom_tryRequest, transcript_tryRequest, transcript_tryRequest,
        hans]
      exact ⟨hst, hlog, hfs.trans hfields, by rw [htr]⟩
  | remaining next ih =>
      rw [execFrom] at hN
      obtain ⟨hst, hlog, hfs, htr⟩ := ih r₁.remaining log h hN
      rw [execFrom, execFrom, transcript, transcript, h.remaining_eq]
      exact ⟨hst, hlog, hfs, by rw [htr]⟩
  | hit loc next ih =>
      rw [execFrom] at hN
      obtain ⟨hst, hlog, hfs, htr⟩ := ih log (h.hit loc loc) (by rw [hN, Run.fields_hit])
      rw [execFrom, execFrom, transcript, transcript]
      exact ⟨hst, hlog, by rw [hfs, Run.fields_hit], by rw [htr]⟩
  | initCoverage n next ih =>
      rw [execFrom] at hN
      obtain ⟨hst, hlog, hfs, htr⟩ := ih log (h.initCoverage n n) hN
      rw [execFrom, execFrom, transcript, transcript]
      exact ⟨hst, hlog, hfs, by rw [htr]⟩
  | exit code =>
      obtain rfl : N = [] := by simpa [execFrom] using hN
      simp [execFrom, transcript]
  | abort =>
      obtain rfl : N = [] := by simpa [execFrom] using hN
      simp [execFrom, transcript]
  | panic message =>
      obtain rfl : N = [] := by simpa [execFrom] using hN
      simp [execFrom, transcript]
  | note entry next ih =>
      rw [execFrom] at hN
      obtain ⟨hst, hlog, hfs, htr⟩ := ih (entry :: log) h hN
      rw [execFrom, execFrom, transcript, transcript]
      exact ⟨hst, hlog, hfs, htr⟩

/-- **Capture and replay.** Run a script on a fresh record, over any source and under any bound,
and write down what it recorded. If every name in it is plain, the text reads back as exactly
those fields, and replaying the script over them under the same bound makes the same calls with
the same answers, ends with the same status, notes the same log and records the same fields. -/
theorem replay_capture (s : Script ν) (index limit : Nat) (source : Source)
    (coverage : Coverage) :
    let capture := s.exec ⟨Record.new index, source, coverage, limit⟩
    let vector : TestVector := ⟨capture.run.record.fields.toList⟩
    (∀ f ∈ vector.fields, TestVector.isPlainName f.name = true) →
    TestVector.parse capture.run.record.render = .ok vector ∧
      (s.replay vector limit).status = capture.status ∧
      (s.replay vector limit).run.record.fields = capture.run.record.fields ∧
      (s.replay vector limit).log = capture.log ∧
      s.transcript ⟨Record.new 0, vector.replaySource, Coverage.empty, limit⟩ =
        s.transcript ⟨Record.new index, source, coverage, limit⟩ := by
  intro capture vector plain
  -- the capture records `N` on its empty record, and the replay's source holds their bytes
  obtain ⟨N, hN, -⟩ := fields_execFrom s ⟨Record.new index, source, coverage, limit⟩ []
  have hcaptured : capture.run.record.fields.toList = N := hN.trans (List.nil_append N)
  have hrel : Run.Replays N ⟨Record.new index, source, coverage, limit⟩
      ⟨Record.new 0, vector.replaySource, Coverage.empty, limit⟩ :=
    ⟨rfl, rfl, by rw [← hcaptured]; rfl⟩
  obtain ⟨hst, hlog, hfs, htr⟩ := execFrom_replays s [] hrel hN
  refine ⟨TestVector.parse_renderFields _ plain, hst, ?_, hlog, htr⟩
  apply Array.toList_inj.mp
  rw [replay, exec, hfs, hcaptured]
  rfl

/-- A capture whose source runs dry in the middle of a request, and then ends on another one:
the replay ends on the same field. -/
theorem replay_capture_through_dry_source :
    let s : Script Unit := .request 2 "a:b" fun _ => .tryRequest 5 "t" fun
      | .ok _ => .finish 1
      | .error _ => .request 3 "x" fun _ => .finish 0
    let capture := s.exec ⟨Record.new 4, .replay [1, 2, 3], Coverage.empty, 8⟩
    capture.status = .exhausted "x" ∧
      (s.replay ⟨capture.run.record.fields.toList⟩ 8).status = .exhausted "x" ∧
      (s.replay ⟨capture.run.record.fields.toList⟩ 8).run.record.fields =
        capture.run.record.fields := by
  intro s capture
  have hplain : ∀ f ∈ capture.run.record.fields.toList, TestVector.isPlainName f.name = true := by
    decide
  have hcapture : capture.status = .exhausted "x" := by decide
  obtain ⟨-, hst, hfs, -, -⟩ := replay_capture s 4 8 (.replay [1, 2, 3]) Coverage.empty hplain
  exact ⟨hcapture, hst.trans hcapture, hfs⟩

end Script

end VectorCapture
