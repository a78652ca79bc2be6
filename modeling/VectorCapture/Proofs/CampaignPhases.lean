import VectorCapture.Campaign

/-! # The phases and counters of a campaign

    A campaign starts idle, runs, and stops for a reason; once stopped it stays stopped and
    refuses to step. Its counters move together: the index the next kept run is filed under is
    the number of runs kept, which never passes the number allowed nor the number made.

    * `Campaign.step_cases` says once everything a step can do: refuse because the campaign
      stopped, fail to start the run's thread, drop its run, fail to write a kept run, or keep
      it;
    * `Campaign.Reachable` is every campaign a fresh one can come to, by steps with any target
      over any disk, whatever the system answers when a run's thread is started, and by reports
      to its coverage map, with the results of the steps on the way;
    * `Campaign.Sound` is the invariant, kept by every move (`Campaign.Reachable.sound`): the
      counters, and each reason to stop tied to the step result that gave it;
    * the phase only moves forward (`Phase.LeadsTo`), under a step and under a whole `run`.

    The last section states all of it at once (`Campaign.Reachable.phases_and_counters`). -/

namespace VectorCapture

/-! ## Moves of the phase -/

/-- The moves the phase of a campaign may make: from idle to anything, from running to running
or to a stop, and a stop stays as it is. -/
def Phase.LeadsTo : Phase → Phase → Prop
  | .idle, _ => True
  | .running, p => p ≠ .idle
  | .stopped r, p => p = .stopped r

namespace Phase

theorem LeadsTo.refl (p : Phase) : p.LeadsTo p := by
  cases p with
  | idle => trivial
  | running => exact Phase.noConfusion
  | stopped r => rfl

theorem LeadsTo.trans {p q u : Phase} (hpq : p.LeadsTo q) (hqu : q.LeadsTo u) : p.LeadsTo u := by
  cases p with
  | idle => trivial
  | running =>
      cases q with
      | idle => exact absurd rfl hpq
      | running => exact hqu
      | stopped r =>
          show u ≠ .idle
          rw [show u = .stopped r from hqu]
          exact Phase.noConfusion
  | stopped r =>
      obtain rfl : q = .stopped r := hpq
      exact hqu

/-- Every phase but `idle` leads from anywhere but a stop that differs from it. -/
theorem LeadsTo.of_ne_idle {p q : Phase} (hp : ∀ r, p ≠ .stopped r) (hq : q ≠ .idle) :
    p.LeadsTo q := by
  cases p with
  | idle => trivial
  | running => exact hq
  | stopped r => exact absurd rfl (hp r)

end Phase

namespace Campaign

/-! ## One step -/

/-- The run a step makes: the target on a fresh record numbered by the next index to keep, over
the campaign's source and coverage map, under its byte bound. -/
def attempt {ν : Type} (c : Campaign) (target : Script ν) : Outcome ν :=
  target.exec
    { record := Record.new c.runIndex, source := c.source, coverage := c.coverage,
      limit := c.settings.maxRunBytes }

/-- The campaign after a step's run, before the run is kept or dropped: running, with the
source and coverage the run left, and one execution more. -/
def afterRun {ν : Type} (c : Campaign) (o : Outcome ν) : Campaign :=
  { c with
    phase := .running, source := o.run.source, coverage := o.run.coverage,
    executions := c.executions + 1 }

/-- The phase after keeping a run with status `status` as the `accepted`-th one. -/
def phaseAfterKeeping (settings : Settings) (status : Status) (accepted : Nat) : Phase :=
  if status = .success then .stopped .targetSucceeded
  else if settings.maxAcceptedRuns ≤ accepted then .stopped .acceptedRunLimit
  else .running

variable {ν : Type}

/-- **What a step does.** A stopped campaign refuses and changes nothing. Otherwise, when the
system cannot start the run's thread, the step fails before the run and only the phase moves to
running; when it can, the step runs the target once and then drops the run, fails to write it,
or keeps it under the next index. -/
theorem step_cases (c : Campaign) (t : Script ν) (d : Disk) (spawn : Except OsError Unit) :
    (∃ r, c.phase = .stopped r ∧ c.step t d spawn = ⟨.error (.stopped r), c, d, []⟩) ∨
    ((∀ r, c.phase ≠ .stopped r) ∧ ∃ e, spawn = .error e ∧
      c.step t d spawn = ⟨.error (.checkpointArm e), { c with phase := .running }, d, []⟩) ∨
    ((∀ r, c.phase ≠ .stopped r) ∧ spawn = .ok () ∧
      keeps (c.attempt t).status (c.attempt t).run.record = false ∧
      c.step t d spawn =
        ⟨.ok (.rejected (c.attempt t).status), c.afterRun (c.attempt t), d, (c.attempt t).log⟩) ∨
    ((∀ r, c.phase ≠ .stopped r) ∧ spawn = .ok () ∧
      keeps (c.attempt t).status (c.attempt t).run.record = true ∧
      ∃ e d', c.store.persist d (c.attempt t).run.record = (.error e, d') ∧
        c.step t d spawn =
          ⟨.error (.persist e), c.afterRun (c.attempt t), d', (c.attempt t).log⟩) ∨
    ((∀ r, c.phase ≠ .stopped r) ∧ spawn = .ok () ∧
      keeps (c.attempt t).status (c.attempt t).run.record = true ∧
      ∃ file d', c.store.persist d (c.attempt t).run.record = (.ok file, d') ∧
        c.step t d spawn =
          ⟨.ok (.accepted c.runIndex file (c.attempt t).status),
            { c.afterRun (c.attempt t) with
              runIndex := c.runIndex + 1, acceptedRuns := c.acceptedRuns + 1,
              phase := phaseAfterKeeping c.settings (c.attempt t).status (c.acceptedRuns + 1) },
            d', (c.attempt t).log⟩) := by
  unfold step
  split
  · next _ _ r hstop => exact .inl ⟨r, hstop, rfl⟩
  · next _ _ e hrun => exact .inr (.inl ⟨hrun, e, rfl, rfl⟩)
  · next _ _ hrun =>
      dsimp only
      split
      · next hkeep =>
          split
          · next e d' hpersist =>
              exact .inr (.inr (.inr (.inl ⟨hrun, rfl, hkeep, e, d', hpersist, rfl⟩)))
          · next file d' hpersist =>
              exact .inr (.inr (.inr (.inr ⟨hrun, rfl, hkeep, file, d', hpersist, rfl⟩)))
      · next hkeep => exact .inr (.inr (.inl ⟨hrun, rfl, eq_false_of_ne_true hkeep, rfl⟩))

/-- A stopped campaign refuses to step: it runs nothing and changes nothing. -/
theorem step_of_stopped {c : Campaign} {r : StopReason} (hstop : c.phase = .stopped r)
    (t : Script ν) (d : Disk) (spawn : Except OsError Unit) :
    c.step t d spawn = ⟨.error (.stopped r), c, d, []⟩ := by
  unfold step
  rw [hstop]

/-- A campaign that has not stopped, whose run's thread cannot be started, fails with the
system's error before running the target: it is running, and nothing else changed. -/
theorem step_of_spawn_error {c : Campaign} (hnot : ∀ r, c.phase ≠ .stopped r) (t : Script ν)
    (d : Disk) (e : OsError) :
    c.step t d (.error e) = ⟨.error (.checkpointArm e), { c with phase := .running }, d, []⟩ := by
  rcases step_cases c t d (.error e) with
    ⟨r, hstop, -⟩ | ⟨-, e', he, heq⟩ | ⟨-, hok, -⟩ | ⟨-, hok, -⟩ | ⟨-, hok, -⟩
  · exact absurd hstop (hnot r)
  · cases he
    exact heq
  all_goals cases hok

/-- A step moves the phase forward, and a stopped campaign stays as it is. -/
theorem leadsTo_step (c : Campaign) (t : Script ν) (d : Disk) (spawn : Except OsError Unit) :
    c.phase.LeadsTo (c.step t d spawn).campaign.phase := by
  rcases step_cases c t d spawn with ⟨r, hstop, heq⟩ | ⟨hnot, e, -, heq⟩ | ⟨hnot, -, -, heq⟩ |
    ⟨hnot, -, -, e, d', -, heq⟩ | ⟨hnot, -, -, file, d', -, heq⟩
  · rw [heq]
    exact Phase.LeadsTo.refl _
  · rw [heq]
    exact Phase.LeadsTo.of_ne_idle hnot Phase.noConfusion
  · rw [heq]
    exact Phase.LeadsTo.of_ne_idle hnot Phase.noConfusion
  · rw [heq]
    exact Phase.LeadsTo.of_ne_idle hnot Phase.noConfusion
  · rw [heq]
    refine Phase.LeadsTo.of_ne_idle hnot ?_
    show phaseAfterKeeping _ _ _ ≠ _
    unfold phaseAfterKeeping
    split
    · exact Phase.noConfusion
    · split <;> exact Phase.noConfusion

/-- A step whose kept run could not be written counts the execution and keeps the run's effects
on the source and the coverage map, but keeps no run and leaves the campaign running. -/
theorem step_of_persist_error {c : Campaign} {t : Script ν} {d : Disk}
    {spawn : Except OsError Unit} {e : StoreError}
    (h : (c.step t d spawn).result = .error (.persist e)) :
    (c.step t d spawn).campaign = c.afterRun (c.attempt t) := by
  rcases step_cases c t d spawn with ⟨r, -, heq⟩ | ⟨-, e', -, heq⟩ | ⟨-, -, -, heq⟩ |
    ⟨-, -, -, e', d', -, heq⟩ | ⟨-, -, -, file, d', -, heq⟩
  · rw [heq] at h
    cases h
  · rw [heq] at h
    cases h
  · rw [heq] at h
    cases h
  · rw [heq]
  · rw [heq] at h
    cases h

/-! ## Whole runs -/

section Runs

variable (spawn : Nat → Except OsError Unit)

/-- A stopped campaign sums itself up at once, whatever the fuel, and changes nothing. -/
theorem runFrom_of_stopped {c : Campaign} {r : StopReason} (hstop : c.phase = .stopped r)
    (t : Script ν) (fuel : Nat) (d : Disk) (log : List ν) :
    runFrom t spawn fuel c d log = (.finished (c.summary r), c, d, log.reverse) := by
  unfold runFrom
  split
  · next r' _ hphase =>
      rw [hstop] at hphase
      cases hphase
      rfl
  · next hphase => exact absurd hstop (hphase r)
  · next hphase => exact absurd hstop (hphase r)

/-- A campaign that has not stopped and has no fuel left stays as it is. -/
theorem runFrom_zero {c : Campaign} (hnot : ∀ r, c.phase ≠ .stopped r) (t : Script ν) (d : Disk)
    (log : List ν) : runFrom t spawn 0 c d log = (.unfinished, c, d, log.reverse) := by
  unfold runFrom
  split
  · next _ _ r hphase => exact absurd hphase (hnot r)
  · rfl
  · next _ _ _ hsucc _ => cases hsucc

/-- A campaign that has not stopped takes one step, with the system's answer for the runs made so
far, and goes on from it unless it failed. -/
theorem runFrom_succ {c : Campaign} (hnot : ∀ r, c.phase ≠ .stopped r) (t : Script ν) (n : Nat)
    (d : Disk) (log : List ν) :
    runFrom t spawn (n + 1) c d log =
      match (c.step t d (spawn c.executions)).result with
      | .error e =>
        (.failed e, (c.step t d (spawn c.executions)).campaign,
          (c.step t d (spawn c.executions)).disk,
          ((c.step t d (spawn c.executions)).log.reverse ++ log).reverse)
      | .ok _ =>
        runFrom t spawn n (c.step t d (spawn c.executions)).campaign
          (c.step t d (spawn c.executions)).disk
          ((c.step t d (spawn c.executions)).log.reverse ++ log) := by
  conv => lhs; unfold runFrom
  split
  · next _ _ r hphase => exact absurd hphase (hnot r)
  · next _ _ hzero _ => cases hzero
  · next _ _ m hsucc _ =>
      obtain rfl : n = m := Nat.succ.inj hsucc
      rfl

/-- A whole run moves the phase forward, as each of its steps does. -/
theorem leadsTo_runFrom (t : Script ν) (fuel : Nat) (c : Campaign) (d : Disk) (log : List ν) :
    c.phase.LeadsTo (runFrom t spawn fuel c d log).2.1.phase := by
  induction fuel generalizing c d log with
  | zero =>
      by_cases hstop : ∃ r, c.phase = .stopped r
      · obtain ⟨r, hr⟩ := hstop
        rw [runFrom_of_stopped spawn hr]
        exact Phase.LeadsTo.refl _
      · rw [runFrom_zero spawn (fun r hr => hstop ⟨r, hr⟩)]
        exact Phase.LeadsTo.refl _
  | succ n ih =>
      by_cases hstop : ∃ r, c.phase = .stopped r
      · obtain ⟨r, hr⟩ := hstop
        rw [runFrom_of_stopped spawn hr]
        exact Phase.LeadsTo.refl _
      · rw [runFrom_succ spawn (fun r hr => hstop ⟨r, hr⟩)]
        split
        · exact leadsTo_step c t d _
        · exact (leadsTo_step c t d _).trans (ih _ _ _)

end Runs

/-! ## Reachable campaigns -/

/-- The campaigns a fresh one can come to, with the results of the steps taken on the way, in
order. A step may run any target over any disk, since a target keeps its own state from run to
run and the disk may change under the campaign, and the system may or may not start the run's
thread; between steps the coverage map may be sized or told of locations. -/
inductive Reachable : Campaign → List (Except CampaignError StepOutcome) → Prop where
  | new {settings : Settings} {seed : UInt64} {store : Store} {c : Campaign} :
      Campaign.new settings seed store = .ok c → Reachable c []
  | step {c : Campaign} {h : List (Except CampaignError StepOutcome)} {ν : Type}
      (t : Script ν) (d : Disk) (spawn : Except OsError Unit) :
      Reachable c h → Reachable (c.step t d spawn).campaign (h ++ [(c.step t d spawn).result])
  | initCoverage {c : Campaign} {h : List (Except CampaignError StepOutcome)} (n : Nat) :
      Reachable c h → Reachable (c.initCoverage n).2 h
  | traceCoverage {c : Campaign} {h : List (Except CampaignError StepOutcome)} (l : Nat) :
      Reachable c h → Reachable (c.traceCoverage l).2 h

/-- A whole run is a sequence of steps: the campaign it ends with is reachable, with the results
of its steps after the ones before. -/
theorem Reachable.runFrom {c : Campaign} {h : List (Except CampaignError StepOutcome)}
    (hreach : c.Reachable h) (t : Script ν) (spawn : Nat → Except OsError Unit) (fuel : Nat)
    (d : Disk) (log : List ν) :
    ∃ h', (Campaign.runFrom t spawn fuel c d log).2.1.Reachable (h ++ h') := by
  induction fuel generalizing c h d log with
  | zero =>
      by_cases hstop : ∃ r, c.phase = .stopped r
      · obtain ⟨r, hr⟩ := hstop
        rw [runFrom_of_stopped spawn hr]
        exact ⟨[], by rw [List.append_nil]; exact hreach⟩
      · rw [runFrom_zero spawn (fun r hr => hstop ⟨r, hr⟩)]
        exact ⟨[], by rw [List.append_nil]; exact hreach⟩
  | succ n ih =>
      by_cases hstop : ∃ r, c.phase = .stopped r
      · obtain ⟨r, hr⟩ := hstop
        rw [runFrom_of_stopped spawn hr]
        exact ⟨[], by rw [List.append_nil]; exact hreach⟩
      · rw [runFrom_succ spawn (fun r hr => hstop ⟨r, hr⟩)]
        have hnext := hreach.step t d (spawn c.executions)
        split
        · exact ⟨_, hnext⟩
        · obtain ⟨h', hrest⟩ := ih hnext _ _
          exact ⟨(c.step t d (spawn c.executions)).result :: h', by simpa using hrest⟩

/-! ## The invariant -/

/-- What every reachable campaign satisfies, where `h` holds the results of the steps taken:
the next kept run is filed under the number of runs kept, which passes neither the number
allowed (and stays below it while the campaign goes on) nor the number of runs made; and each
reason to stop is tied to the step that gave it. -/
structure Sound (c : Campaign) (h : List (Except CampaignError StepOutcome)) : Prop where
  runIndex_eq : c.runIndex = c.acceptedRuns
  accepted_le_max : c.acceptedRuns ≤ c.settings.maxAcceptedRuns
  accepted_le_executions : c.acceptedRuns ≤ c.executions
  accepted_lt_max : (∀ r, c.phase ≠ .stopped r) → c.acceptedRuns < c.settings.maxAcceptedRuns
  succeeded_iff : c.phase = .stopped .targetSucceeded ↔
    ∃ i f st, .ok (.accepted i f st) ∈ h ∧ st = .success
  limit_iff : c.phase = .stopped .acceptedRunLimit ↔
    ∃ i f st, .ok (.accepted i f st) ∈ h ∧ st ≠ .success ∧ i + 1 = c.settings.maxAcceptedRuns

/-- A result that keeps no run adds nothing to what the results kept. -/
theorem exists_kept_append_of_not {P : Nat → Location → Status → Prop}
    {h : List (Except CampaignError StepOutcome)} {x : Except CampaignError StepOutcome}
    (hx : ∀ i f st, x ≠ .ok (.accepted i f st)) :
    (∃ i f st, .ok (.accepted i f st) ∈ h ++ [x] ∧ P i f st) ↔
      ∃ i f st, .ok (.accepted i f st) ∈ h ∧ P i f st := by
  simp only [List.mem_append, List.mem_singleton]
  constructor
  · rintro ⟨i, f, st, hm | hm, hp⟩
    · exact ⟨i, f, st, hm, hp⟩
    · exact absurd hm.symm (hx i f st)
  · rintro ⟨i, f, st, hm, hp⟩
    exact ⟨i, f, st, .inl hm, hp⟩

/-- A result that keeps a run adds that run to what the results kept. -/
theorem exists_kept_append_accepted {P : Nat → Location → Status → Prop}
    {h : List (Except CampaignError StepOutcome)} {j : Nat} {file : Location} {status : Status} :
    (∃ i f st, .ok (.accepted i f st) ∈ h ++ [.ok (.accepted j file status)] ∧ P i f st) ↔
      (∃ i f st, .ok (.accepted i f st) ∈ h ∧ P i f st) ∨ P j file status := by
  simp only [List.mem_append, List.mem_singleton, Except.ok.injEq, StepOutcome.accepted.injEq]
  constructor
  · rintro ⟨i, f, st, hm | ⟨rfl, rfl, rfl⟩, hp⟩
    · exact .inl ⟨i, f, st, hm, hp⟩
    · exact .inr hp
  · rintro (⟨i, f, st, hm, hp⟩ | hp)
    · exact ⟨i, f, st, .inl hm, hp⟩
    · exact ⟨j, file, status, .inr ⟨rfl, rfl, rfl⟩, hp⟩

theorem sound_new {settings : Settings} {seed : UInt64} {store : Store} {c : Campaign}
    (h : Campaign.new settings seed store = .ok c) : c.Sound [] := by
  unfold Campaign.new at h
  split at h
  · cases h
  · next hvalid =>
      cases h
      -- valid settings allow at least one kept run
      have hmax : settings.maxAcceptedRuns ≠ 0 := by
        intro hzero
        simp only [Settings.problem?, hzero, if_true] at hvalid
        split at hvalid <;> cases hvalid
      refine ⟨rfl, Nat.zero_le _, Nat.le_refl 0, fun _ => Nat.pos_of_ne_zero hmax, ?_, ?_⟩
      · simp
      · simp

/-- A result that keeps no run leaves the invariant of a campaign that does not change. -/
theorem Sound.append_of_not_kept {c : Campaign} {h : List (Except CampaignError StepOutcome)}
    (hs : c.Sound h) {x : Except CampaignError StepOutcome}
    (hx : ∀ i f st, x ≠ .ok (.accepted i f st)) : c.Sound (h ++ [x]) :=
  ⟨hs.runIndex_eq, hs.accepted_le_max, hs.accepted_le_executions, hs.accepted_lt_max,
    hs.succeeded_iff.trans (exists_kept_append_of_not hx).symm,
    hs.limit_iff.trans (exists_kept_append_of_not hx).symm⟩

/-- A move of a campaign that has not stopped, which keeps no run and leaves it running, with the
settings and the runs kept as they were and no fewer runs made, keeps the invariant: a step that
cannot start its run, and one that runs the target and keeps nothing. -/
theorem Sound.resume {c c' : Campaign} {h : List (Except CampaignError StepOutcome)}
    (hs : c.Sound h) (hnot : ∀ r, c.phase ≠ .stopped r) (hphase : c'.phase = .running)
    (hsettings : c'.settings = c.settings) (hindex : c'.runIndex = c.runIndex)
    (haccepted : c'.acceptedRuns = c.acceptedRuns) (hexecutions : c.executions ≤ c'.executions)
    {x : Except CampaignError StepOutcome} (hx : ∀ i f st, x ≠ .ok (.accepted i f st)) :
    c'.Sound (h ++ [x]) := by
  -- no run was kept before, or the campaign would have stopped
  have hsucc : ¬ ∃ i f st, .ok (.accepted i f st) ∈ h ∧ st = .success :=
    fun hk => hnot _ (hs.succeeded_iff.mpr hk)
  have hlimit : ¬ ∃ i f st, .ok (.accepted i f st) ∈ h ∧ st ≠ .success ∧
      i + 1 = c.settings.maxAcceptedRuns :=
    fun hk => hnot _ (hs.limit_iff.mpr hk)
  refine ⟨?_, ?_, ?_, fun _ => ?_, ?_, ?_⟩
  · rw [hindex, haccepted]
    exact hs.runIndex_eq
  · rw [haccepted, hsettings]
    exact hs.accepted_le_max
  · rw [haccepted]
    exact Nat.le_trans hs.accepted_le_executions hexecutions
  · rw [haccepted, hsettings]
    exact hs.accepted_lt_max hnot
  · rw [exists_kept_append_of_not hx, hphase]
    exact ⟨fun hrun => Phase.noConfusion hrun, fun hk => absurd hk hsucc⟩
  · rw [exists_kept_append_of_not hx, hphase, hsettings]
    exact ⟨fun hrun => Phase.noConfusion hrun, fun hk => absurd hk hlimit⟩

theorem phaseAfterKeeping_eq_succeeded (settings : Settings) (status : Status) (accepted : Nat) :
    phaseAfterKeeping settings status accepted = .stopped .targetSucceeded ↔ status = .success := by
  unfold phaseAfterKeeping
  split
  · exact ⟨fun _ => ‹_›, fun _ => rfl⟩
  · next hne =>
      refine ⟨fun hphase => ?_, fun hst => absurd hst hne⟩
      split at hphase
      · cases hphase
      · cases hphase

theorem phaseAfterKeeping_eq_limit (settings : Settings) (status : Status) (accepted : Nat) :
    phaseAfterKeeping settings status accepted = .stopped .acceptedRunLimit ↔
      status ≠ .success ∧ settings.maxAcceptedRuns ≤ accepted := by
  unfold phaseAfterKeeping
  split
  · next hst => exact ⟨fun hphase => (by cases hphase), fun hk => absurd hst hk.1⟩
  · next hne =>
      split
      · next hle => exact ⟨fun _ => ⟨hne, hle⟩, fun _ => rfl⟩
      · next hlt => exact ⟨fun hphase => (by cases hphase), fun hk => absurd hk.2 hlt⟩

/-- A kept run moves the counters together, and the phase it leads to is tied to it. -/
theorem Sound.keep {c : Campaign} {h : List (Except CampaignError StepOutcome)}
    (hs : c.Sound h) (hnot : ∀ r, c.phase ≠ .stopped r) (o : Outcome ν) (file : Location) :
    ({ c.afterRun o with
        runIndex := c.runIndex + 1, acceptedRuns := c.acceptedRuns + 1,
        phase := phaseAfterKeeping c.settings o.status (c.acceptedRuns + 1) } : Campaign).Sound
      (h ++ [.ok (.accepted c.runIndex file o.status)]) := by
  have hlt := hs.accepted_lt_max hnot
  have hsucc : ¬ ∃ i f st, .ok (.accepted i f st) ∈ h ∧ st = .success :=
    fun hk => hnot _ (hs.succeeded_iff.mpr hk)
  have hlimit : ¬ ∃ i f st, .ok (.accepted i f st) ∈ h ∧ st ≠ .success ∧
      i + 1 = c.settings.maxAcceptedRuns :=
    fun hk => hnot _ (hs.limit_iff.mpr hk)
  refine ⟨by simp [hs.runIndex_eq], hlt, ?_, fun hnot' => ?_, ?_, ?_⟩
  · show c.acceptedRuns + 1 ≤ c.executions + 1
    exact Nat.succ_le_succ hs.accepted_le_executions
  · -- still running: the run kept was not the last one allowed
    show c.acceptedRuns + 1 < c.settings.maxAcceptedRuns
    have hne : phaseAfterKeeping c.settings o.status (c.acceptedRuns + 1) ≠
        .stopped .acceptedRunLimit := hnot' _
    have hne' : o.status ≠ .success := fun hst =>
      hnot' .targetSucceeded ((phaseAfterKeeping_eq_succeeded _ _ _).mpr hst)
    rw [Ne, phaseAfterKeeping_eq_limit] at hne
    have hnle : ¬ c.settings.maxAcceptedRuns ≤ c.acceptedRuns + 1 := fun hle => hne ⟨hne', hle⟩
    omega
  · show phaseAfterKeeping c.settings o.status (c.acceptedRuns + 1) = .stopped .targetSucceeded ↔
      ∃ i f st, .ok (.accepted i f st) ∈ h ++ [.ok (.accepted c.runIndex file o.status)] ∧
        st = .success
    rw [phaseAfterKeeping_eq_succeeded, exists_kept_append_accepted]
    exact ⟨fun hst => .inr hst, fun hk => hk.resolve_left hsucc⟩
  · show phaseAfterKeeping c.settings o.status (c.acceptedRuns + 1) = .stopped .acceptedRunLimit ↔
      ∃ i f st, .ok (.accepted i f st) ∈ h ++ [.ok (.accepted c.runIndex file o.status)] ∧
        st ≠ .success ∧ i + 1 = c.settings.maxAcceptedRuns
    rw [phaseAfterKeeping_eq_limit, exists_kept_append_accepted, hs.runIndex_eq]
    -- the run kept is the last one allowed exactly when the count reaches the limit
    constructor
    · rintro ⟨hne, hle⟩
      exact .inr ⟨hne, by omega⟩
    · rintro (hk | ⟨hne, heq⟩)
      · exact absurd hk hlimit
      · exact ⟨hne, by omega⟩

/-- Every step keeps the invariant. -/
theorem Sound.step {c : Campaign} {h : List (Except CampaignError StepOutcome)}
    (hs : c.Sound h) (t : Script ν) (d : Disk) (spawn : Except OsError Unit) :
    (c.step t d spawn).campaign.Sound (h ++ [(c.step t d spawn).result]) := by
  rcases step_cases c t d spawn with ⟨r, -, heq⟩ | ⟨hnot, e, -, heq⟩ | ⟨hnot, -, -, heq⟩ |
    ⟨hnot, -, -, e, d', -, heq⟩ | ⟨hnot, -, -, file, d', -, heq⟩
  · rw [heq]
    exact hs.append_of_not_kept (fun _ _ _ hx => by cases hx)
  · -- the run never started: no run was made
    rw [heq]
    exact hs.resume hnot (by rfl) (by rfl) (by rfl) (by rfl) (by exact Nat.le_refl _)
      (fun _ _ _ hx => by cases hx)
  · rw [heq]
    exact hs.resume hnot (by rfl) (by rfl) (by rfl) (by rfl) (by exact Nat.le_succ _)
      (fun _ _ _ hx => by cases hx)
  · rw [heq]
    exact hs.resume hnot (by rfl) (by rfl) (by rfl) (by rfl) (by exact Nat.le_succ _)
      (fun _ _ _ hx => by cases hx)
  · rw [heq]
    exact hs.keep hnot _ file

/-- The invariant reads only the phase, the counters and the settings. -/
theorem Sound.of_same {c c' : Campaign} {h : List (Except CampaignError StepOutcome)}
    (hs : c.Sound h) (hphase : c'.phase = c.phase) (hsettings : c'.settings = c.settings)
    (hindex : c'.runIndex = c.runIndex) (haccepted : c'.acceptedRuns = c.acceptedRuns)
    (hexecutions : c'.executions = c.executions) : c'.Sound h := by
  obtain ⟨h₁, h₂, h₃, h₄, h₅, h₆⟩ := hs
  refine ⟨?_, ?_, ?_, ?_, ?_, ?_⟩ <;>
    simp only [hphase, hsettings, hindex, haccepted, hexecutions] <;> assumption

/-- Every reachable campaign keeps the invariant. -/
theorem Reachable.sound {c : Campaign} {h : List (Except CampaignError StepOutcome)}
    (hreach : c.Reachable h) : c.Sound h := by
  induction hreach with
  | new hnew => exact sound_new hnew
  | step t d spawn _ ih => exact ih.step t d spawn
  | initCoverage n _ ih => exact ih.of_same rfl rfl rfl rfl rfl
  | traceCoverage l _ ih => exact ih.of_same rfl rfl rfl rfl rfl

/-! ## Phases and counters -/

/-- **Phases and counters of a campaign.** A campaign reachable from a fresh one files its next
kept run under the number of runs kept, which passes neither the number allowed nor the number
of runs made. It has stopped because a run succeeded exactly when some step kept a successful
run, and because it reached its limit exactly when some step kept a run that did not succeed as
the last one allowed. A step, a whole run and a report to the coverage map move its phase only
forward, whatever the system answers when a run's thread is started, and a whole run ends in a
reachable campaign. Once stopped, it refuses to step and sums itself up at once, running nothing
and changing nothing. A step whose kept run cannot be written counts the execution and keeps the
run's effects on the source and the coverage map, but keeps no run, and the campaign goes on
running. A step whose run's thread cannot be started fails with the system's error before the
target runs: the campaign is running, and its counters, map, source and store, the disk and the
log are as they were. -/
theorem Reachable.phases_and_counters {c : Campaign}
    {h : List (Except CampaignError StepOutcome)} (hreach : c.Reachable h) :
    c.runIndex = c.acceptedRuns ∧ c.acceptedRuns ≤ c.settings.maxAcceptedRuns ∧
      c.acceptedRuns ≤ c.executions ∧
    (c.phase = .stopped .targetSucceeded ↔
      ∃ i f st, .ok (.accepted i f st) ∈ h ∧ st = .success) ∧
    (c.phase = .stopped .acceptedRunLimit ↔
      ∃ i f st, .ok (.accepted i f st) ∈ h ∧ st ≠ .success ∧
        i + 1 = c.settings.maxAcceptedRuns) ∧
    (∀ (ν : Type) (t : Script ν) (d : Disk) (spawn : Except OsError Unit) (fuel : Nat)
        (spawns : Nat → Except OsError Unit),
      c.phase.LeadsTo (c.step t d spawn).campaign.phase ∧
        c.phase.LeadsTo (c.run t fuel d spawns).2.1.phase ∧
        ∃ h', (c.run t fuel d spawns).2.1.Reachable (h ++ h')) ∧
    (∀ n l, (c.initCoverage n).2.phase = c.phase ∧ (c.traceCoverage l).2.phase = c.phase) ∧
    (∀ r, c.phase = .stopped r → ∀ (ν : Type) (t : Script ν) (d : Disk)
        (spawn : Except OsError Unit) (fuel : Nat) (spawns : Nat → Except OsError Unit),
      c.step t d spawn = ⟨.error (.stopped r), c, d, []⟩ ∧
        c.run t fuel d spawns = (.finished (c.summary r), c, d, [])) ∧
    (∀ (ν : Type) (t : Script ν) (d : Disk) (spawn : Except OsError Unit) (e : StoreError),
      (c.step t d spawn).result = .error (.persist e) →
        (c.step t d spawn).campaign =
          { c with
            phase := .running, source := (c.attempt t).run.source,
            coverage := (c.attempt t).run.coverage, executions := c.executions + 1 }) ∧
    (∀ (ν : Type) (t : Script ν) (d : Disk) (e : OsError), (∀ r, c.phase ≠ .stopped r) →
      c.step t d (.error e) =
        ⟨.error (.checkpointArm e), { c with phase := .running }, d, []⟩) := by
  have hs := hreach.sound
  refine ⟨hs.runIndex_eq, hs.accepted_le_max, hs.accepted_le_executions, hs.succeeded_iff,
    hs.limit_iff, fun ν t d spawn fuel spawns => ?_, fun n l => ⟨rfl, rfl⟩,
    fun r hstop ν t d spawn fuel spawns => ?_,
    fun ν t d spawn e hpersist => step_of_persist_error hpersist,
    fun ν t d e hnot => step_of_spawn_error hnot t d e⟩
  · exact ⟨leadsTo_step c t d spawn, leadsTo_runFrom spawns t fuel c d [],
      hreach.runFrom t spawns fuel d []⟩
  · exact ⟨step_of_stopped hstop t d spawn, runFrom_of_stopped spawns hstop t fuel d []⟩

/-- A step of a target that panics at once drops its run, unless the campaign has stopped. -/
theorem step_panic {c : Campaign} (hnot : ∀ r, c.phase ≠ .stopped r) (d : Disk) :
    (c.step (.panic none : Script ν) d).result = .ok (.rejected (.crash Status.unknownPanic)) := by
  rcases step_cases c (.panic none : Script ν) d (.ok ()) with
    ⟨r, hstop, -⟩ | ⟨-, e, hspawn, -⟩ | ⟨-, -, -, heq⟩ | ⟨-, -, hkeep, -⟩ | ⟨-, -, hkeep, -⟩
  · exact absurd hstop (hnot r)
  · cases hspawn
  · rw [heq]
    rfl
  · cases hkeep
  · cases hkeep

/-- A fresh campaign after one step of a target that panics at once: the counters agree, and the
campaign has not stopped for a success. -/
theorem phases_and_counters_after_panic :
    ∃ c : Campaign, Campaign.new { maxRunBytes := 4, maxAcceptedRuns := 1 } 7 default = .ok c ∧
      (c.step (.panic none : Script Unit) default).campaign.runIndex =
        (c.step (.panic none : Script Unit) default).campaign.acceptedRuns ∧
      (c.step (.panic none : Script Unit) default).campaign.phase ≠ .stopped .targetSucceeded := by
  refine ⟨_, rfl, ?_⟩
  have hreach := (@Reachable.new { maxRunBytes := 4, maxAcceptedRuns := 1 } 7 default _ rfl).step
    (.panic none : Script Unit) default (.ok ())
  obtain ⟨hindex, -, -, hsucc, -⟩ := hreach.phases_and_counters
  refine ⟨hindex, fun hstop => ?_⟩
  obtain ⟨i, f, st, hmem, -⟩ := hsucc.mp hstop
  -- the one step taken dropped its run
  rw [List.nil_append, List.mem_singleton, step_panic (fun _ => Phase.noConfusion)] at hmem
  cases hmem

end Campaign

end VectorCapture
