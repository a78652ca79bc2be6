import VectorCapture.Proofs.CampaignPhases
import VectorCapture.Proofs.CoverageLaw

/-! # Kept runs follow coverage

    A step keeps its run when the run succeeded, or when it did not overrun the byte bound and
    cleared a guard that was still set; it drops it otherwise (`keeps_iff`,
    `Campaign.step_accepted`, `Campaign.step_rejected`). Since a guard is cleared once for the
    life of the map, only a run that discovered a location can be kept, bar the one successful
    run that stops the campaign:

    * `Campaign.Covered` is the invariant: the map is sound, and the runs kept number at most
      the locations discovered, plus one once a run succeeded;
    * each move of a campaign keeps it (`Campaign.Covered.step`, and the reports to its map made
      between steps), so every reachable campaign has it (`Campaign.Reachable.covered`).

    As a map never discovers more locations than it has, no campaign writes more vectors than
    its map has locations, plus one (`Campaign.acceptance_follows_coverage`). -/

namespace VectorCapture

/-- A run is kept exactly when it succeeded, or when it did not overrun the bound and cleared a
guard. -/
theorem keeps_iff (status : Status) (r : Record) :
    keeps status r = true ↔ status = .success ∨ ((∀ v, status ≠ .overrun v) ∧ r.isNew = true) := by
  cases status with
  | success => simp [keeps]
  | overrun v => simp [keeps]
  | exit code => simp [keeps]
  | abort => simp [keeps]
  | crash message => simp [keeps]
  | exhausted field => simp [keeps]

namespace Campaign

variable {ν : Type}

/-! ## The decision of a step -/

/-- A step that keeps its run made it, and the run passed the test. -/
theorem step_accepted {c : Campaign} {t : Script ν} {d : Disk} {i : Nat} {f : Location}
    {st : Status} (h : (c.step t d).result = .ok (.accepted i f st)) :
    st = (c.attempt t).status ∧ keeps (c.attempt t).status (c.attempt t).run.record = true := by
  rcases step_cases c t d (.ok ()) with ⟨r, -, heq⟩ | ⟨-, e, hspawn, -⟩ | ⟨-, -, -, heq⟩ |
    ⟨-, -, -, e, d', -, heq⟩ | ⟨-, -, hkeep, file, d', -, heq⟩
  · rw [heq] at h
    cases h
  · cases hspawn
  · rw [heq] at h
    cases h
  · rw [heq] at h
    cases h
  · rw [heq] at h
    cases h
    exact ⟨rfl, hkeep⟩

/-- A step that drops its run made it, and the run failed the test. -/
theorem step_rejected {c : Campaign} {t : Script ν} {d : Disk} {st : Status}
    (h : (c.step t d).result = .ok (.rejected st)) :
    st = (c.attempt t).status ∧ keeps (c.attempt t).status (c.attempt t).run.record = false := by
  rcases step_cases c t d (.ok ()) with ⟨r, -, heq⟩ | ⟨-, e, hspawn, -⟩ | ⟨-, -, hkeep, heq⟩ |
    ⟨-, -, -, e, d', -, heq⟩ | ⟨-, -, -, file, d', -, heq⟩
  · rw [heq] at h
    cases h
  · cases hspawn
  · rw [heq] at h
    cases h
    exact ⟨rfl, hkeep⟩
  · rw [heq] at h
    cases h
  · rw [heq] at h
    cases h

/-- The run a step makes starts on a record that is not new, over the campaign's map: it is new
exactly when it discovered a location, and it never discovers less. -/
theorem attempt_discovered (c : Campaign) (t : Script ν) :
    c.coverage.discovered ≤ (c.attempt t).run.coverage.discovered ∧
      ((c.attempt t).run.record.isNew = true ↔
        c.coverage.discovered < (c.attempt t).run.coverage.discovered) :=
  Script.discovered_exec t
    (r := ⟨Record.new c.runIndex, c.source, c.coverage, c.settings.maxRunBytes⟩) rfl

/-! ## The invariant -/

/-- The coverage account of a campaign: its map is sound, and it kept at most as many runs as
its map discovered locations, plus one once a run succeeded. -/
structure Covered (c : Campaign) : Prop where
  sound : c.coverage.Sound
  accepted_le : c.acceptedRuns ≤
    c.coverage.discovered + if c.phase = .stopped .targetSucceeded then 1 else 0

theorem covered_new {settings : Settings} {seed : UInt64} {store : Store} {c : Campaign}
    (h : Campaign.new settings seed store = .ok c) : c.Covered := by
  unfold Campaign.new at h
  split at h
  · cases h
  · cases h
    exact ⟨Coverage.sound_empty, Nat.zero_le _⟩

/-- A move that leaves a campaign that had not stopped running, with the runs kept as they were
and a sound map that discovered at least as much, keeps the coverage account. -/
theorem Covered.running {c c' : Campaign} (hc : c.Covered) (hnot : ∀ r, c.phase ≠ .stopped r)
    (hphase : c'.phase = .running) (haccepted : c'.acceptedRuns = c.acceptedRuns)
    (hsound : c'.coverage.Sound) (hle : c.coverage.discovered ≤ c'.coverage.discovered) :
    c'.Covered := by
  have hacc := hc.accepted_le
  rw [if_neg (hnot _)] at hacc
  refine ⟨hsound, ?_⟩
  rw [hphase, if_neg Phase.noConfusion, haccepted]
  omega

/-- A step that runs the target and keeps nothing leaves a running campaign whose map has
discovered at least as much. -/
theorem Covered.afterRun {c : Campaign} (hc : c.Covered) (hnot : ∀ r, c.phase ≠ .stopped r)
    (t : Script ν) : (c.afterRun (c.attempt t)).Covered :=
  hc.running hnot (by rfl) (by rfl) (Script.sound_exec t hc.sound) (attempt_discovered c t).1

/-- A step that cannot start its run leaves the map alone and the campaign running. -/
theorem Covered.resume {c : Campaign} (hc : c.Covered) (hnot : ∀ r, c.phase ≠ .stopped r) :
    ({ c with phase := .running } : Campaign).Covered :=
  hc.running hnot (by rfl) (by rfl) hc.sound (Nat.le_refl _)

/-- A kept run either succeeded, and stops the campaign for that, or discovered a location. -/
theorem Covered.keep {c : Campaign} (hc : c.Covered) (hnot : ∀ r, c.phase ≠ .stopped r)
    (t : Script ν) (hkeep : keeps (c.attempt t).status (c.attempt t).run.record = true) :
    ({ c.afterRun (c.attempt t) with
        runIndex := c.runIndex + 1, acceptedRuns := c.acceptedRuns + 1,
        phase := phaseAfterKeeping c.settings (c.attempt t).status (c.acceptedRuns + 1) } :
      Campaign).Covered := by
  obtain ⟨hle, hnew⟩ := attempt_discovered c t
  have hacc := hc.accepted_le
  rw [if_neg (hnot _)] at hacc
  refine ⟨Script.sound_exec t hc.sound, ?_⟩
  show c.acceptedRuns + 1 ≤ (c.attempt t).run.coverage.discovered +
    if phaseAfterKeeping c.settings (c.attempt t).status (c.acceptedRuns + 1) =
      .stopped .targetSucceeded then 1 else 0
  simp only [phaseAfterKeeping_eq_succeeded]
  split
  · omega
  · next hfail =>
      -- a kept run that did not succeed cleared a guard
      have hfresh : (c.attempt t).run.record.isNew = true :=
        (((keeps_iff _ _).mp hkeep).resolve_left hfail).2
      have := hnew.mp hfresh
      omega

/-- Every step keeps the coverage account. -/
theorem Covered.step {c : Campaign} (hc : c.Covered) (t : Script ν) (d : Disk)
    (spawn : Except OsError Unit) : (c.step t d spawn).campaign.Covered := by
  rcases step_cases c t d spawn with ⟨r, -, heq⟩ | ⟨hnot, e, -, heq⟩ | ⟨hnot, -, -, heq⟩ |
    ⟨hnot, -, -, e, d', -, heq⟩ | ⟨hnot, -, hkeep, file, d', -, heq⟩
  · rw [heq]
    exact hc
  · rw [heq]
    exact hc.resume hnot
  · rw [heq]
    exact hc.afterRun hnot t
  · rw [heq]
    exact hc.afterRun hnot t
  · rw [heq]
    exact hc.keep hnot t hkeep

theorem Covered.initCoverage {c : Campaign} (hc : c.Covered) (n : Nat) :
    (c.initCoverage n).2.Covered := by
  refine ⟨hc.sound.init n, ?_⟩
  show c.acceptedRuns ≤ (c.coverage.init n).2.discovered +
    if c.phase = .stopped .targetSucceeded then 1 else 0
  rw [Coverage.discovered_init]
  exact hc.accepted_le

theorem Covered.traceCoverage {c : Campaign} (hc : c.Covered) (l : Nat) :
    (c.traceCoverage l).2.Covered := by
  refine ⟨hc.sound.trace l, ?_⟩
  have hle := Coverage.discovered_le_trace c.coverage l
  have hacc := hc.accepted_le
  show c.acceptedRuns ≤ (c.coverage.trace l).2.discovered +
    if c.phase = .stopped .targetSucceeded then 1 else 0
  omega

/-- Every reachable campaign keeps the coverage account. -/
theorem Reachable.covered {c : Campaign} {h : List (Except CampaignError StepOutcome)}
    (hreach : c.Reachable h) : c.Covered := by
  induction hreach with
  | new hnew => exact covered_new hnew
  | step t d spawn _ ih => exact ih.step t d spawn
  | initCoverage n _ ih => exact ih.initCoverage n
  | traceCoverage l _ ih => exact ih.traceCoverage l

/-! ## Acceptance follows coverage -/

/-- **Acceptance follows coverage.** A step that does not fail keeps its run, under the run's
own status, exactly when the run succeeded, or did not overrun the byte bound and is new; it
drops it otherwise. A run is new exactly when it discovered a location. So every reachable
campaign has kept at most as many runs as its map discovered locations, plus one once a run
succeeded, which is at most the number of locations plus one: whatever the seed, the vectors
written are bounded by the locations. -/
theorem acceptance_follows_coverage :
    (∀ (ν : Type) (c : Campaign) (t : Script ν) (d : Disk),
      (∀ i f st, (c.step t d).result = .ok (.accepted i f st) →
        st = (c.attempt t).status ∧
          ((c.attempt t).status = .success ∨
            ((∀ v, (c.attempt t).status ≠ .overrun v) ∧ (c.attempt t).run.record.isNew = true))) ∧
      (∀ st, (c.step t d).result = .ok (.rejected st) →
        st = (c.attempt t).status ∧
          ¬ ((c.attempt t).status = .success ∨
            ((∀ v, (c.attempt t).status ≠ .overrun v) ∧ (c.attempt t).run.record.isNew = true))) ∧
      ((c.attempt t).run.record.isNew = true ↔
        c.coverage.discovered < (c.attempt t).run.coverage.discovered)) ∧
    (∀ (c : Campaign) (h : List (Except CampaignError StepOutcome)), c.Reachable h →
      c.acceptedRuns ≤
          c.coverage.discovered + (if c.phase = .stopped .targetSucceeded then 1 else 0) ∧
        c.coverage.discovered + (if c.phase = .stopped .targetSucceeded then 1 else 0) ≤
          c.coverage.size + 1) := by
  refine ⟨fun ν c t d => ⟨fun i f st h => ?_, fun st h => ?_, (attempt_discovered c t).2⟩,
    fun c h hreach => ?_⟩
  · obtain ⟨hst, hkeep⟩ := step_accepted h
    exact ⟨hst, (keeps_iff _ _).mp hkeep⟩
  · obtain ⟨hst, hkeep⟩ := step_rejected h
    refine ⟨hst, fun hpass => ?_⟩
    rw [← keeps_iff, hkeep] at hpass
    cases hpass
  · have hc := hreach.covered
    have hsize := hc.sound.discovered_le_size
    refine ⟨hc.accepted_le, ?_⟩
    split <;> omega

/-- A fresh campaign after one step of a target that succeeds at once has kept at most one run
more than its map discovered. -/
theorem acceptance_after_success :
    ∃ c : Campaign, Campaign.new { maxRunBytes := 4, maxAcceptedRuns := 1 } 7 default = .ok c ∧
      (c.step (.finish 0 : Script Unit) default).campaign.acceptedRuns ≤
        (c.step (.finish 0 : Script Unit) default).campaign.coverage.discovered +
          if (c.step (.finish 0 : Script Unit) default).campaign.phase =
            .stopped .targetSucceeded then 1 else 0 := by
  refine ⟨_, rfl, ?_⟩
  have hreach := (@Reachable.new { maxRunBytes := 4, maxAcceptedRuns := 1 } 7 default _ rfl).step
    (.finish 0 : Script Unit) default (.ok ())
  exact (acceptance_follows_coverage.2 _ _ hreach).1

end Campaign

end VectorCapture
