import VectorCapture.Proofs.StoreFiles
import VectorCapture.Proofs.Accounting
import VectorCapture.Proofs.CampaignPhases

/-! # What a campaign leaves in its store

    Take a campaign over a disk that nothing else writes to, with a store whose directory starts
    with no vector files. The `k`-th run kept is filed under index `k`, at the final location of
    `k`. After every step the store lists exactly the final locations of the indices used, each
    holding the text of the record kept under it, and every other path of the disk holds what it
    held at the start: no staging file is left behind, and no dropped or failed run is written
    anywhere. The route:

    * a run keeps the index of the record it starts on (`Script.index_exec`), so the record a
      step files is numbered by the campaign's next index;
    * `Campaign.Session` is every campaign and disk a fresh campaign comes to over one disk, with
      the results of the steps taken and the records they filed;
    * `Campaign.Files` is the invariant: kept by a step that files nothing
      (`Campaign.Files.of_unfiled`) and by one that keeps its run (`Campaign.Files.keep`), from
      the frame lemmas of `persist`, so by every session (`Campaign.Session.files`).

    The last section states it all (`Campaign.Session.persisted_vectors`). -/

namespace VectorCapture

/-! ## The index of a run's record -/

@[simp] theorem Record.index_push (r : Record) (f : Field) : (r.push f).index = r.index := rfl

@[simp] theorem Record.index_markNew (r : Record) : r.markNew.index = r.index := rfl

namespace Run

theorem index_tryRequest (r : Run) (size : Nat) (name : String) :
    (r.tryRequest size name).2.record.index = r.record.index := by
  rcases tryRequest_cases r size name with
    ⟨-, heq⟩ | ⟨bs, src, -, -, heq⟩ | ⟨src, -, -, heq⟩ <;> simp [heq]

theorem index_hit (r : Run) (l : Nat) : (r.hit l).record.index = r.record.index := by
  rw [hit_eq]
  split <;> rfl

/-- No call renumbers the run's record. -/
theorem index_call (r : Run) (c : Call) : (r.call c).2.record.index = r.record.index := by
  cases c with
  | request size name => exact index_tryRequest r size name
  | tryRequest size name => exact index_tryRequest r size name
  | nondet k name => exact index_tryRequest r k.size name
  | hit l => exact index_hit r l
  | initCoverage n => rfl
  | remaining => rfl
  | exit code => rfl
  | abort => rfl

theorem index_play (r : Run) (cs : List Call) : (r.play cs).2.record.index = r.record.index := by
  induction cs generalizing r with
  | nil => rfl
  | cons c cs ih => exact (ih (r.call c).2).trans (index_call r c)

end Run

/-- A run keeps the index of the record it starts on. -/
theorem Script.index_exec {ν : Type} (s : Script ν) (r : Run) :
    (s.exec r).run.record.index = r.record.index := by
  obtain ⟨cs, hcs⟩ := Script.execFrom_eq_play s r []
  rw [Script.exec, hcs]
  exact Run.index_play r cs

namespace Campaign

variable {ν : Type}

/-! ## What one step files -/

/-- The index and location of a step result that kept a run. -/
def keptAt? : Except CampaignError StepOutcome → Option (Nat × Location)
  | .ok (.accepted i f _) => some (i, f)
  | _ => none

/-- The record a step filed in the store: the record of its run, when the step kept it. -/
def filed (c : Campaign) (t : Script ν) (d : Disk) (spawn : Except OsError Unit := .ok ()) :
    List Record :=
  match (c.step t d spawn).result with
  | .ok (.accepted ..) => [(c.attempt t).run.record]
  | _ => []

/-- The run a step makes is numbered by the campaign's next index. -/
theorem index_attempt (c : Campaign) (t : Script ν) :
    (c.attempt t).run.record.index = c.runIndex :=
  Script.index_exec t _

theorem store_step (c : Campaign) (t : Script ν) (d : Disk) (spawn : Except OsError Unit) :
    (c.step t d spawn).campaign.store = c.store := by
  rcases step_cases c t d spawn with
    ⟨r, -, heq⟩ | ⟨-, e, -, heq⟩ | ⟨-, -, -, heq⟩ | ⟨-, -, -, e, d', -, heq⟩ |
      ⟨-, -, -, file, d', -, heq⟩ <;>
    rw [heq] <;> rfl

/-! ## Sessions over one disk -/

/-- The campaigns a fresh one comes to over the disk `d₀`, which nothing else writes to, with
the disk after them, the results of the steps taken on the way and the records those steps
filed, in order. A step may run any target, and its thread may fail to start; between steps the
coverage map may be sized or told of locations. -/
inductive Session (d₀ : Disk) :
    Campaign → Disk → List (Except CampaignError StepOutcome) → List Record → Prop where
  | new {settings : Settings} {seed : UInt64} {store : Store} {c : Campaign} :
      Campaign.new settings seed store = .ok c → Session d₀ c d₀ [] []
  | step {c : Campaign} {d : Disk} {h : List (Except CampaignError StepOutcome)}
      {ks : List Record} {ν : Type} (t : Script ν) (spawn : Except OsError Unit) :
      Session d₀ c d h ks →
      Session d₀ (c.step t d spawn).campaign (c.step t d spawn).disk
        (h ++ [(c.step t d spawn).result]) (ks ++ c.filed t d spawn)
  | initCoverage {c : Campaign} {d : Disk} {h : List (Except CampaignError StepOutcome)}
      {ks : List Record} (n : Nat) :
      Session d₀ c d h ks → Session d₀ (c.initCoverage n).2 d h ks
  | traceCoverage {c : Campaign} {d : Disk} {h : List (Except CampaignError StepOutcome)}
      {ks : List Record} (l : Nat) :
      Session d₀ c d h ks → Session d₀ (c.traceCoverage l).2 d h ks

/-! ## The invariant -/

/-- What the disk of a session holds, when the store's directory is `p`: the runs kept were
filed under the indices `0, 1, …` in order, at their final locations; one record was filed for
each, numbered by its index, and its text is under its final name in `p`; every other path holds
what it held at the start, and every directory is still there. -/
structure Files (d₀ : Disk) (p : Path) (c : Campaign) (d : Disk)
    (h : List (Except CampaignError StepOutcome)) (ks : List Record) : Prop where
  kept : h.filterMap keptAt? = (List.range c.runIndex).map fun k => (k, c.store.pathFor k)
  count : ks.length = c.runIndex
  index : ∀ k (hk : k < ks.length), ks[k].index = k
  written : ∀ k (hk : k < ks.length),
    d.get? (p ++ [Store.fileName k]) = some (.file ks[k].render)
  frame : ∀ x, (∀ k < c.runIndex, x ≠ p ++ [Store.fileName k]) → d.get? x = d₀.get? x
  dirs : ∀ x, d₀.get? x = some .dir → d.get? x = some .dir

section Invariant

variable {d₀ : Disk} {p : Path} {c : Campaign} {d : Disk}
  {h : List (Except CampaignError StepOutcome)} {ks : List Record}

theorem files_new {settings : Settings} {seed : UInt64} {store : Store}
    (hnew : Campaign.new settings seed store = .ok c) : Files d₀ p c d₀ [] [] := by
  unfold Campaign.new at hnew
  split at hnew
  · cases hnew
  · cases hnew
    -- nothing is kept yet, so nothing is written and the disk is the one the session started on
    exact ⟨rfl, rfl, fun k hk => absurd hk (Nat.not_lt_zero k),
      fun k hk => absurd hk (Nat.not_lt_zero k), fun _ _ => rfl, fun _ hx => hx⟩

/-- A move that files nothing, keeps the counters and the store, and changes no path of the disk
keeps the invariant. -/
theorem Files.of_unfiled (hf : Files d₀ p c d h ks) {c' : Campaign} {d' : Disk}
    {h' : List (Except CampaignError StepOutcome)} (hindex : c'.runIndex = c.runIndex)
    (hstore : c'.store = c.store) (hdisk : ∀ x, d'.get? x = d.get? x)
    (hkept : h'.filterMap keptAt? = h.filterMap keptAt?) : Files d₀ p c' d' h' ks := by
  refine ⟨?_, hindex ▸ hf.count, hf.index, fun k hk => (hdisk _).trans (hf.written k hk),
    fun x hx => (hdisk x).trans (hf.frame x (hindex ▸ hx)),
    fun x hx => (hdisk x).trans (hf.dirs x hx)⟩
  rw [hkept, hf.kept, hindex, hstore]

/-- A result that keeps no run adds nothing to the runs kept. -/
theorem filterMap_keptAt_of_not {x : Except CampaignError StepOutcome}
    (hx : ∀ i f st, x ≠ .ok (.accepted i f st)) :
    (h ++ [x]).filterMap keptAt? = h.filterMap keptAt? := by
  have hnone : keptAt? x = none := by
    cases x with
    | error e => rfl
    | ok o =>
        cases o with
        | accepted i f st => exact absurd rfl (hx i f st)
        | rejected st => rfl
  simp [List.filterMap_append, hnone]

/-- A step that keeps its run files its record under the next index: the invariant holds with
one index more, one result kept more and the record at the end. -/
theorem Files.keep (hf : Files d₀ p c d h ks)
    (henter : d.enter c.store.dir.start c.store.dir.names = .ok p) {r : Record}
    (hr : r.index = c.runIndex) {file : Location} {d' : Disk}
    (hpersist : c.store.persist d r = (.ok file, d')) {c' : Campaign}
    (hindex : c'.runIndex = c.runIndex + 1) (hstore : c'.store = c.store) (st : Status) :
    Files d₀ p c' d' (h ++ [.ok (.accepted c.runIndex file st)]) (ks ++ [r]) := by
  obtain ⟨rfl, hnotdir, hwrite, hother⟩ := Store.persist_ok_get? henter hpersist
  rw [hr] at hnotdir hwrite hother
  have hlen := hf.count
  -- a final name of an earlier index is not the one written now
  have hearlier : ∀ k < c.runIndex, p ++ [Store.fileName k] ≠ p ++ [Store.fileName c.runIndex] :=
    fun k hk he => Nat.ne_of_lt hk (Store.fileName_injective (by simpa using he))
  refine ⟨?_, ?_, fun k hk => ?_, fun k hk => ?_, fun x hx => ?_, fun x hx => ?_⟩
  · rw [List.filterMap_append, hf.kept, hindex, hstore, hr, List.range_succ, List.map_append]
    rfl
  · rw [List.length_append, hf.count, hindex]
    rfl
  · rw [List.length_append, List.length_singleton] at hk
    rcases Nat.lt_succ_iff_lt_or_eq.mp hk with hk | rfl
    · rw [List.getElem_append_left hk]
      exact hf.index k hk
    · rw [List.getElem_concat_length rfl]
      omega
  · rw [List.length_append, List.length_singleton] at hk
    rcases Nat.lt_succ_iff_lt_or_eq.mp hk with hk | rfl
    · rw [List.getElem_append_left hk, hother _ (hearlier k (hlen ▸ hk))]
      exact hf.written k hk
    · rw [List.getElem_concat_length rfl, hlen]
      exact hwrite
  · rw [hindex] at hx
    rw [hother x (hx c.runIndex (Nat.lt_succ_self _))]
    exact hf.frame x (fun k hk => hx k (Nat.lt_succ_of_lt hk))
  · have hdir := hf.dirs x hx
    -- the final name written was no directory, so every directory is kept
    have hne : x ≠ p ++ [Store.fileName c.runIndex] := fun he => hnotdir (he ▸ hdir)
    rw [hother x hne]
    exact hdir

/-- A step that keeps no run, with the next index and the store as they were and no path of the
disk changed, keeps the invariant. -/
theorem Files.step_of_unfiled (hf : Files d₀ p c d h ks) {t : Script ν} {spawn : Except OsError Unit}
    {res : Except CampaignError StepOutcome} {c' : Campaign} {d' : Disk} {log : List ν}
    (heq : c.step t d spawn = ⟨res, c', d', log⟩) (hres : ∀ i f st, res ≠ .ok (.accepted i f st))
    (hindex : c'.runIndex = c.runIndex) (hstore : c'.store = c.store)
    (hdisk : ∀ x, d'.get? x = d.get? x) :
    Files d₀ p (c.step t d spawn).campaign (c.step t d spawn).disk
      (h ++ [(c.step t d spawn).result]) (ks ++ c.filed t d spawn) := by
  have hfiled : c.filed t d spawn = [] := by
    unfold filed
    rw [heq]
    split
    · next i f st hacc => exact absurd hacc (hres i f st)
    · rfl
  rw [hfiled, List.append_nil, heq]
  exact hf.of_unfiled hindex hstore hdisk (filterMap_keptAt_of_not hres)

/-- Every step keeps the invariant. -/
theorem Files.step (hf : Files d₀ p c d h ks)
    (hp : d₀.enter c.store.dir.start c.store.dir.names = .ok p) (t : Script ν)
    (spawn : Except OsError Unit) :
    Files d₀ p (c.step t d spawn).campaign (c.step t d spawn).disk
      (h ++ [(c.step t d spawn).result]) (ks ++ c.filed t d spawn) := by
  rcases step_cases c t d spawn with
    ⟨r, -, heq⟩ | ⟨-, e, -, heq⟩ | ⟨-, -, -, heq⟩ | ⟨-, -, -, e, d', hpersist, heq⟩ |
      ⟨-, -, -, file, d', hpersist, heq⟩
  · exact hf.step_of_unfiled heq (fun _ _ _ hx => by cases hx) rfl rfl (fun _ => rfl)
  · -- no thread, no run: only the phase moved
    exact hf.step_of_unfiled heq (fun _ _ _ hx => by cases hx) rfl rfl (fun _ => rfl)
  · exact hf.step_of_unfiled heq (fun _ _ _ hx => by cases hx) rfl rfl (fun _ => rfl)
  · -- a run that could not be written leaves no trace on the disk
    exact hf.step_of_unfiled heq (fun _ _ _ hx => by cases hx) rfl rfl
      (Store.persist_error_get? hpersist)
  · have hfiled : c.filed t d spawn = [(c.attempt t).run.record] := by simp only [filed, heq]
    rw [hfiled, heq]
    refine hf.keep (Disk.enter_of_dirs hf.dirs hp) (index_attempt c t) hpersist ?_ ?_ _
    · rfl
    · rfl

/-- Every session keeps the invariant, for the directory its store's text walks to on the disk
it started from. -/
theorem Session.files (hs : Session d₀ c d h ks)
    (hp : d₀.enter c.store.dir.start c.store.dir.names = .ok p) : Files d₀ p c d h ks := by
  induction hs with
  | new hnew => exact files_new hnew
  | step t spawn _ ih =>
      rw [store_step] at hp
      exact (ih hp).step hp t spawn
  | initCoverage n _ ih => exact (ih hp).of_unfiled rfl rfl (fun _ => rfl) rfl
  | traceCoverage l _ ih => exact (ih hp).of_unfiled rfl rfl (fun _ => rfl) rfl

/-- Each final location of an index used reads back as the text of the record filed under it. -/
theorem Files.read (hf : Files d₀ p c d h ks)
    (henter : d.enter c.store.dir.start c.store.dir.names = .ok p) (k : Nat) (hk : k < ks.length) :
    d.read (c.store.pathFor k) = .ok ks[k].render := by
  obtain ⟨hne, hslash, hdot, hdotdot⟩ := Store.fileName_facts k
  obtain ⟨htarget, hmust⟩ := Disk.target_join henter hne hslash hdot hdotdot
  exact (Disk.read_of_target htarget (hf.written k hk) hmust).2

/-- A store whose directory started with no vector files lists exactly the final locations of
the indices used. -/
theorem Files.list (hf : Files d₀ p c d h ks) (hlookup : d₀.lookup c.store.dir = .ok (p, .dir))
    (hempty : c.store.list d₀ = .ok []) :
    ∃ ls, c.store.list d = .ok ls ∧ ∀ l, l ∈ ls ↔ ∃ k < c.runIndex, l = c.store.pathFor k := by
  obtain ⟨ls, hls, hmem⟩ := Store.mem_list (Disk.lookup_of_dirs hf.dirs hlookup)
  obtain ⟨ls₀, hls₀, hmem₀⟩ := Store.mem_list hlookup
  rw [hempty] at hls₀
  cases hls₀
  refine ⟨ls, hls, fun l => (hmem l).trans ⟨?_, ?_⟩⟩
  · rintro ⟨n, content, hget, hname, rfl⟩
    by_cases hused : ∃ k < c.runIndex, n = Store.fileName k
    · obtain ⟨k, hk, rfl⟩ := hused
      exact ⟨k, hk, rfl⟩
    · -- any other vector file was there at the start, and there were none
      have hframe := hf.frame (p ++ [n]) fun k hk he =>
        hused ⟨k, hk, by simpa using he⟩
      rw [hframe] at hget
      exact absurd ((hmem₀ _).mpr ⟨n, content, hget, hname, rfl⟩) List.not_mem_nil
  · rintro ⟨k, hk, rfl⟩
    exact ⟨Store.fileName k, _, hf.written k (hf.count ▸ hk), Store.isVectorName_fileName k, rfl⟩

end Invariant

/-! ## What a campaign persists -/

/-- **What a campaign persists.** Take a campaign over a disk that nothing else writes to, with
a store whose directory starts with no vector files, through any steps of any targets. The
`k`-th run kept is filed under index `k`, at the final location of `k`, and one record was
filed for each, numbered by its index. After every step the store lists exactly the final
locations of the indices used; each reads back as the text of the record kept under it; and no
staging file is left behind: every path whose last name is of the staging series holds what it
held at the start. -/
theorem Session.persisted_vectors {d₀ d : Disk} {c : Campaign}
    {h : List (Except CampaignError StepOutcome)} {ks : List Record}
    (hs : Session d₀ c d h ks) (hempty : c.store.list d₀ = .ok []) :
    h.filterMap keptAt? = (List.range c.runIndex).map (fun k => (k, c.store.pathFor k)) ∧
    ks.length = c.runIndex ∧ (∀ k (hk : k < ks.length), ks[k].index = k) ∧
    (∃ ls, c.store.list d = .ok ls ∧ ∀ l, l ∈ ls ↔ ∃ k < c.runIndex, l = c.store.pathFor k) ∧
    (∀ k (hk : k < ks.length), d.read (c.store.pathFor k) = .ok ks[k].render) ∧
    (∀ q k, d.get? (q ++ [Disk.seriesName Store.tempPrefix Store.tempSuffix k]) =
      d₀.get? (q ++ [Disk.seriesName Store.tempPrefix Store.tempSuffix k])) := by
  obtain ⟨p, hlookup⟩ := Store.lookup_of_list hempty
  have hp := Disk.enter_of_lookup hlookup
  have hf := hs.files hp
  refine ⟨hf.kept, hf.count, hf.index, hf.list hlookup hempty,
    hf.read (Disk.enter_of_dirs hf.dirs hp), fun q k => ?_⟩
  -- a staging name is no final name
  exact hf.frame _ fun k' _ => Store.concat_ne_concat (Store.fileName_ne_tempName k' k).symm

/-- A fresh campaign whose store is the root of an empty disk, after one step of a target that
succeeds at once: its store lists exactly the final locations of the indices it used. -/
theorem persisted_vectors_after_one_step :
    ∃ c : Campaign,
      Campaign.new { maxRunBytes := 4, maxAcceptedRuns := 1 } 7 { dir := Location.root } = .ok c ∧
      (c.step (.finish 0 : Script Unit) Disk.empty).campaign.store.list Disk.empty = .ok [] ∧
      ∃ ls, (c.step (.finish 0 : Script Unit) Disk.empty).campaign.store.list
          (c.step (.finish 0 : Script Unit) Disk.empty).disk = .ok ls ∧
        ∀ l, l ∈ ls ↔ ∃ k < (c.step (.finish 0 : Script Unit) Disk.empty).campaign.runIndex,
          l = (c.step (.finish 0 : Script Unit) Disk.empty).campaign.store.pathFor k := by
  -- the root of the empty disk holds nothing
  have hempty : ({ dir := Location.root } : Store).list Disk.empty = .ok [] := by
    obtain ⟨ls, hls, hmem⟩ := Store.mem_list (s := { dir := Location.root })
      (Disk.lookup_root Disk.empty)
    have hnil : ls = [] := List.eq_nil_iff_forall_not_mem.mpr fun l hl => by
      obtain ⟨n, content, hget, -⟩ := (hmem l).mp hl
      simp [Disk.get?, Disk.empty] at hget
    rw [hls, hnil]
  have hs := (@Session.new Disk.empty { maxRunBytes := 4, maxAcceptedRuns := 1 } 7
    { dir := Location.root } _ rfl).step (.finish 0 : Script Unit) (.ok ())
  refine ⟨_, rfl, ?_, ?_⟩
  · rw [store_step]
    exact hempty
  · refine (hs.persisted_vectors ?_).2.2.2.1
    rw [store_step]
    exact hempty

end Campaign

end VectorCapture
