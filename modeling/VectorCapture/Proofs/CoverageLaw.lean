import VectorCapture.Proofs.Accounting

/-! # The lifetime of a coverage map

    A coverage map is sized once, and from then on its guards are only cleared. Every answer it
    gives is decided by the calls made on it before:

    * one call at a time: `Coverage.init_cases` and `Coverage.trace_cases` say everything a
      call can do, and a call answered no changes nothing (`Coverage.apply_of_false`);
    * `Coverage.Sound`: the cleared locations are locations of the map whose guard started set,
      and `discovered` counts them, so it never passes the size
      (`Coverage.Sound.discovered_le_size`);
    * over any calls on a fresh map, the size is that of the first sizing call answered yes,
      each answer is decided by the calls before it, and no location is answered yes twice
      (`Coverage.Agrees.transcript`);
    * in a run, the target's coverage hooks make exactly such calls, after those made on the map
      before, and the run is new exactly when one of its reports was answered yes
      (`Run.coverage_play`, `Script.exec_after`);
    * `Coverage.transcript_law` puts the two together: across runs sharing a map, each location
      makes at most one run new.

    The guard of a location is its number plus one, cut to 32 bits, so the location `2^32 - 1`
    of a map with `2^32` locations starts with a zero guard and is never answered yes
    (`Coverage.first_report_of_wrapped_guard`). -/

namespace VectorCapture

namespace Coverage

/-! ## One call -/

/-- A call on a coverage map: sizing it, or reporting a location. -/
inductive Op where
  | init (n : Nat)
  | trace (loc : Nat)
  deriving DecidableEq, Repr

/-- Whether a call reports a location. -/
def Op.isTrace : Op → Bool
  | .init _ => false
  | .trace _ => true

/-- Makes one call: its answer and the map after it. -/
def apply (t : Coverage) : Op → Bool × Coverage
  | .init n => t.init n
  | .trace l => t.trace l

/-- Whether a call, with its answer, is a report that cleared a guard. -/
def newReport (p : Op × Bool) : Bool :=
  p.1.isTrace && p.2

theorem newReport_eq_true_iff (p : Op × Bool) : newReport p = true ↔ ∃ l, p = (.trace l, true) := by
  obtain ⟨op, b⟩ := p
  cases op <;> cases b <;> simp [newReport, Op.isTrace]

variable {t : Coverage}

theorem isArmed_iff (t : Coverage) (l : Nat) :
    t.isArmed l = true ↔ l < t.size ∧ startsSet l = true ∧ l ∉ t.cleared := by
  simp [isArmed, and_assoc]

/-- A sizing call is answered yes, and sizes the map, exactly when the map has no size yet and
the count is positive; otherwise it changes nothing. -/
theorem init_cases (t : Coverage) (n : Nat) :
    (t.size = 0 ∧ 0 < n ∧ t.init n = (true, { t with size := n })) ∨
    (¬ (t.size = 0 ∧ 0 < n) ∧ t.init n = (false, t)) := by
  by_cases h : t.size = 0 ∧ 0 < n
  · refine .inl ⟨h.1, h.2, ?_⟩
    simp [init, h.1, Nat.pos_iff_ne_zero.mp h.2]
  · refine .inr ⟨h, ?_⟩
    have h' : t.size ≠ 0 ∨ n = 0 := by omega
    rcases h' with hs | hn
    · simp [init, hs]
    · simp [init, hn]

/-- A report is answered yes, and clears the guard, exactly when the guard is still set;
otherwise it changes nothing. -/
theorem trace_cases (t : Coverage) (l : Nat) :
    (t.isArmed l = true ∧
      t.trace l = (true, { t with cleared := t.cleared.insert l, discovered := t.discovered + 1 })) ∨
    (t.isArmed l = false ∧ t.trace l = (false, t)) := by
  cases h : t.isArmed l with
  | true => exact .inl ⟨rfl, by simp [trace, h]⟩
  | false => exact .inr ⟨rfl, by simp [trace, h]⟩

/-- A call answered no changes nothing. -/
theorem apply_of_false {op : Op} (h : (t.apply op).1 = false) : (t.apply op).2 = t := by
  cases op with
  | init n =>
      rcases init_cases t n with ⟨-, -, heq⟩ | ⟨-, heq⟩
      · simp [apply, heq] at h
      · simp [apply, heq]
  | trace l =>
      rcases trace_cases t l with ⟨-, heq⟩ | ⟨-, heq⟩
      · simp [apply, heq] at h
      · simp [apply, heq]

/-- A location whose guard wraps to zero is never answered yes, and its report changes
nothing. -/
theorem trace_of_wrapped {l : Nat} (h : startsSet l = false) (t : Coverage) :
    t.trace l = (false, t) := by
  rcases trace_cases t l with ⟨harmed, -⟩ | ⟨-, heq⟩
  · rw [isArmed_iff, h] at harmed
    exact absurd harmed.2.1 Bool.false_ne_true
  · exact heq

/-- Sizing never moves the count of discoveries. -/
@[simp] theorem discovered_init (t : Coverage) (n : Nat) : (t.init n).2.discovered = t.discovered := by
  rcases init_cases t n with ⟨-, -, heq⟩ | ⟨-, heq⟩ <;> rw [heq]

/-- Reporting never moves the size. -/
@[simp] theorem size_trace (t : Coverage) (l : Nat) : (t.trace l).2.size = t.size := by
  rcases trace_cases t l with ⟨-, heq⟩ | ⟨-, heq⟩ <;> rw [heq]

/-- A call adds one discovery when it is a report answered yes, and none otherwise. -/
theorem discovered_apply (t : Coverage) (op : Op) :
    (t.apply op).2.discovered = t.discovered + if newReport (op, (t.apply op).1) then 1 else 0 := by
  cases op with
  | init n => simp [apply, newReport, Op.isTrace]
  | trace l =>
      rcases trace_cases t l with ⟨-, heq⟩ | ⟨-, heq⟩ <;> simp [apply, newReport, Op.isTrace, heq]

/-- A report never lowers the count of discoveries. -/
theorem discovered_le_trace (t : Coverage) (l : Nat) : t.discovered ≤ (t.trace l).2.discovered := by
  rcases trace_cases t l with ⟨-, heq⟩ | ⟨-, heq⟩
  · rw [heq]
    exact Nat.le_succ _
  · rw [heq]

/-! ## What every map satisfies -/

/-- The cleared locations are locations of the map whose guard started set, and `discovered`
counts them. -/
structure Sound (t : Coverage) : Prop where
  armed_of_cleared : ∀ l ∈ t.cleared, l < t.size ∧ startsSet l = true
  discovered_eq : t.discovered = t.cleared.size

theorem sound_empty : empty.Sound :=
  ⟨fun _ h => absurd h Std.HashSet.not_mem_empty, Std.HashSet.size_empty.symm⟩

theorem Sound.init (h : t.Sound) (n : Nat) : (t.init n).2.Sound := by
  rcases init_cases t n with ⟨hsize, -, heq⟩ | ⟨-, heq⟩
  · rw [heq]
    -- a map with no size has cleared nothing
    refine ⟨fun l hl => ?_, h.discovered_eq⟩
    have := (h.armed_of_cleared l hl).1
    omega
  · rw [heq]
    exact h

theorem Sound.trace (h : t.Sound) (l : Nat) : (t.trace l).2.Sound := by
  rcases trace_cases t l with ⟨harmed, heq⟩ | ⟨-, heq⟩
  · rw [heq]
    obtain ⟨hlt, hset, hnot⟩ := (isArmed_iff t l).mp harmed
    refine ⟨fun l' hl' => ?_, ?_⟩
    · rcases Std.HashSet.mem_insert.mp hl' with heq' | hmem
      · obtain rfl : l = l' := by simpa using heq'
        exact ⟨hlt, hset⟩
      · exact h.armed_of_cleared l' hmem
    · show t.discovered + 1 = (t.cleared.insert l).size
      rw [Std.HashSet.size_insert, if_neg hnot, h.discovered_eq]
  · rw [heq]
    exact h

theorem Sound.apply (h : t.Sound) (op : Op) : (t.apply op).2.Sound := by
  cases op with
  | init n => exact h.init n
  | trace l => exact h.trace l

/-- A map never discovers more locations than it has: the cleared locations are distinct
locations below the size. -/
theorem Sound.discovered_le_size (h : t.Sound) : t.discovered ≤ t.size := by
  have hnodup : t.cleared.toList.Nodup := by
    have hdistinct := Std.HashSet.distinct_toList (m := t.cleared)
    simp only [beq_eq_false_iff_ne] at hdistinct
    exact hdistinct
  have hsub : t.cleared.toList ⊆ List.range t.size := by
    intro l hl
    exact List.mem_range.mpr (h.armed_of_cleared l (Std.HashSet.mem_toList.mp hl)).1
  calc t.discovered = t.cleared.toList.length := by
        rw [h.discovered_eq, Std.HashSet.length_toList]
    _ ≤ (List.range t.size).length := (hnodup.subperm hsub).length_le
    _ = t.size := List.length_range

/-! ## Calls one after another -/

/-- Calls made one after another: each call with its answer, and the map after them. -/
def transcript (t : Coverage) : List Op → List (Op × Bool) × Coverage
  | [] => ([], t)
  | op :: ops =>
    ((op, (t.apply op).1) :: ((t.apply op).2.transcript ops).1, ((t.apply op).2.transcript ops).2)

@[simp] theorem transcript_nil (t : Coverage) : t.transcript [] = ([], t) := rfl

theorem transcript_append (t : Coverage) (ops ops' : List Op) :
    t.transcript (ops ++ ops') =
      ((t.transcript ops).1 ++ ((t.transcript ops).2.transcript ops').1,
        ((t.transcript ops).2.transcript ops').2) := by
  induction ops generalizing t with
  | nil => rfl
  | cons op ops ih => simp [transcript, ih]

/-- The transcript lists the calls made, in order. -/
theorem map_fst_transcript (t : Coverage) (ops : List Op) : (t.transcript ops).1.map Prod.fst = ops := by
  induction ops generalizing t with
  | nil => rfl
  | cons op ops ih => simp [transcript, ih]

/-- Each report answered yes adds one discovery. -/
theorem discovered_transcript (t : Coverage) (ops : List Op) :
    (t.transcript ops).2.discovered = t.discovered + (t.transcript ops).1.countP newReport := by
  induction ops generalizing t with
  | nil => simp
  | cons op ops ih =>
      simp only [transcript, ih, discovered_apply, List.countP_cons]
      omega

theorem Sound.transcript (h : t.Sound) (ops : List Op) : (t.transcript ops).2.Sound := by
  induction ops generalizing t with
  | nil => exact h
  | cons op ops ih => exact ih (h.apply op)

/-! ## The law of a fresh map -/

/-- The size a history of calls gives a map: the count of the first sizing call answered yes,
or zero when there is none. -/
def sizedBy : List (Op × Bool) → Nat
  | [] => 0
  | (.init n, true) :: _ => n
  | _ :: rest => sizedBy rest

/-- Whether a history holds a sizing call answered yes. -/
def Sized (h : List (Op × Bool)) : Prop :=
  ∃ m, (.init m, true) ∈ h

/-- The answer the law gives a call after the history `before`: a sizing call is answered yes
when its count is positive and no sizing call before was; a report, when its location is below
the size, its guard started set, and no report of it before was answered yes. -/
def Allowed (before : List (Op × Bool)) : Op → Prop
  | .init n => 0 < n ∧ ¬ Sized before
  | .trace l => l < sizedBy before ∧ startsSet l = true ∧ (.trace l, true) ∉ before

theorem sizedBy_append_of_sized {h : List (Op × Bool)} (hs : Sized h) (h' : List (Op × Bool)) :
    sizedBy (h ++ h') = sizedBy h := by
  induction h with
  | nil => simp [Sized] at hs
  | cons p rest ih =>
      obtain ⟨op, b⟩ := p
      cases op with
      | init n =>
          cases b with
          | true => rfl
          | false => simpa [sizedBy] using ih (by simpa [Sized] using hs)
      | trace l => simpa [sizedBy] using ih (by simpa [Sized] using hs)

theorem sizedBy_append_of_not_sized {h : List (Op × Bool)} (hs : ¬ Sized h) (h' : List (Op × Bool)) :
    sizedBy (h ++ h') = sizedBy h' := by
  induction h with
  | nil => rfl
  | cons p rest ih =>
      obtain ⟨op, b⟩ := p
      cases op with
      | init n =>
          cases b with
          | true => exact absurd ⟨n, List.mem_cons_self⟩ hs
          | false => simpa [sizedBy] using ih (by simpa [Sized] using hs)
      | trace l => simpa [sizedBy] using ih (by simpa [Sized] using hs)

theorem sizedBy_eq_zero_iff {h : List (Op × Bool)} (hpos : ∀ m, (.init m, true) ∈ h → 0 < m) :
    sizedBy h = 0 ↔ ¬ Sized h := by
  induction h with
  | nil => simp [sizedBy, Sized]
  | cons p rest ih =>
      have ih' := ih (fun m hm => hpos m (List.mem_cons_of_mem _ hm))
      obtain ⟨op, b⟩ := p
      cases op with
      | init n =>
          cases b with
          | true =>
              have := hpos n List.mem_cons_self
              simp only [sizedBy, Sized]
              exact ⟨fun h0 => by omega, fun hns => absurd ⟨n, List.mem_cons_self⟩ hns⟩
          | false => simpa [sizedBy, Sized] using ih'
      | trace l => simpa [sizedBy, Sized] using ih'

/-- A call that sizes nothing leaves the size a history gives. -/
theorem sizedBy_append_single {h : List (Op × Bool)} (hpos : ∀ m, (.init m, true) ∈ h → 0 < m)
    {x : Op × Bool} (hx : ¬ Sized [x]) : sizedBy (h ++ [x]) = sizedBy h := by
  by_cases hs : Sized h
  · exact sizedBy_append_of_sized hs [x]
  · rw [sizedBy_append_of_not_sized hs, (sizedBy_eq_zero_iff hpos).mpr hs]
    exact (sizedBy_eq_zero_iff fun m hm => absurd ⟨m, hm⟩ hx).mpr hx

/-- How a map agrees with the history of calls that built it: its size is the size the history
gave it, and positive once it is sized; its cleared locations are those reported and answered
yes, each only once; and `discovered` counts those reports. -/
structure Agrees (t : Coverage) (h : List (Op × Bool)) : Prop where
  sound : t.Sound
  size_eq : t.size = sizedBy h
  sized_pos : ∀ m, (.init m, true) ∈ h → 0 < m
  mem_cleared : ∀ l, l ∈ t.cleared ↔ (.trace l, true) ∈ h
  discovered_eq : t.discovered = h.countP newReport
  count_le_one : ∀ l, h.count (.trace l, true) ≤ 1

theorem agrees_empty : empty.Agrees [] :=
  ⟨sound_empty, rfl, by simp, fun _ => iff_of_false Std.HashSet.not_mem_empty List.not_mem_nil, rfl,
    by simp⟩

/-- A map that agrees with its history has no size exactly when the history sized nothing. -/
theorem Agrees.size_eq_zero_iff {h : List (Op × Bool)} (ha : t.Agrees h) :
    t.size = 0 ↔ ¬ Sized h := by
  rw [ha.size_eq]
  exact sizedBy_eq_zero_iff ha.sized_pos

/-- A call answered no adds nothing the map must agree with. -/
theorem Agrees.append_false {h : List (Op × Bool)} (ha : t.Agrees h) (op : Op) :
    t.Agrees (h ++ [(op, false)]) where
  sound := ha.sound
  size_eq := by
    rw [sizedBy_append_single ha.sized_pos (by simp [Sized]), ha.size_eq]
  sized_pos m hm := by
    rcases List.mem_append.mp hm with hm | hm
    · exact ha.sized_pos m hm
    · simp at hm
  mem_cleared l := by simp [ha.mem_cleared l]
  discovered_eq := by simp [ha.discovered_eq, newReport]
  count_le_one l := by simpa using ha.count_le_one l

/-- A sizing call answered yes, on a map the history has not sized, adds a positive size that
the sized map agrees with. -/
theorem Agrees.append_init {h : List (Op × Bool)} (ha : t.Agrees h) {n : Nat} (hns : ¬ Sized h)
    (hn : 0 < n) (hsound : ({ t with size := n } : Coverage).Sound) :
    ({ t with size := n } : Coverage).Agrees (h ++ [(.init n, true)]) where
  sound := hsound
  size_eq := by
    show n = sizedBy (h ++ [(.init n, true)])
    rw [sizedBy_append_of_not_sized hns]
    rfl
  sized_pos m hm := by
    rcases List.mem_append.mp hm with hm | hm
    · exact ha.sized_pos m hm
    · obtain rfl : m = n := by simpa using hm
      exact hn
  mem_cleared l := by simpa using ha.mem_cleared l
  discovered_eq := by simp [ha.discovered_eq, newReport, Op.isTrace]
  count_le_one l := by simpa using ha.count_le_one l

/-- A report answered yes, of a location no report before was answered yes for, adds that
location to the cleared ones and one discovery. -/
theorem Agrees.append_trace {h : List (Op × Bool)} (ha : t.Agrees h) {l : Nat}
    (hfresh : (.trace l, true) ∉ h)
    (hsound : ({ t with cleared := t.cleared.insert l, discovered := t.discovered + 1 } :
      Coverage).Sound) :
    ({ t with cleared := t.cleared.insert l, discovered := t.discovered + 1 } : Coverage).Agrees
      (h ++ [(.trace l, true)]) where
  sound := hsound
  size_eq := by
    show t.size = sizedBy (h ++ [(.trace l, true)])
    rw [sizedBy_append_single ha.sized_pos (by simp [Sized]), ha.size_eq]
  sized_pos m hm := by
    rcases List.mem_append.mp hm with hm | hm
    · exact ha.sized_pos m hm
    · simp at hm
  mem_cleared l' := by
    simp only [Std.HashSet.mem_insert, beq_iff_eq, List.mem_append, List.mem_singleton,
      Prod.mk.injEq, Op.trace.injEq, and_true, ha.mem_cleared l']
    exact or_comm.trans (or_congr Iff.rfl eq_comm)
  discovered_eq := by simp [ha.discovered_eq, newReport, Op.isTrace]
  count_le_one l' := by
    by_cases hl : l' = l
    · subst hl
      simp [List.count_eq_zero.mpr hfresh]
    · have := ha.count_le_one l'
      simp [List.count_append, Ne.symm hl, this]

/-- **One call.** A map that agrees with its history answers a call as the law says, and
agrees with the history that call extends. -/
theorem Agrees.call {h : List (Op × Bool)} (ha : t.Agrees h) (op : Op) :
    ((t.apply op).1 = true ↔ Allowed h op) ∧ (t.apply op).2.Agrees (h ++ [(op, (t.apply op).1)]) := by
  cases op with
  | init n =>
      rcases init_cases t n with ⟨hsize, hn, heq⟩ | ⟨hnot, heq⟩
      · have hns : ¬ Sized h := ha.size_eq_zero_iff.mp hsize
        have hsound := ha.sound.init n
        rw [heq] at hsound
        simp only [Coverage.apply, heq]
        exact ⟨by simp [Allowed, hn, hns], ha.append_init hns hn hsound⟩
      · simp only [Coverage.apply, heq]
        refine ⟨?_, ha.append_false (.init n)⟩
        simp only [Bool.false_eq_true, false_iff, Allowed]
        rintro ⟨hn, hns⟩
        exact hnot ⟨ha.size_eq_zero_iff.mpr hns, hn⟩
  | trace l =>
      rcases trace_cases t l with ⟨harmed, heq⟩ | ⟨hdisarmed, heq⟩
      · obtain ⟨hlt, hset, hnot⟩ := (isArmed_iff t l).mp harmed
        have hfresh : (Op.trace l, true) ∉ h := fun hm => hnot ((ha.mem_cleared l).mpr hm)
        have hsound := ha.sound.trace l
        rw [heq] at hsound
        simp only [Coverage.apply, heq]
        exact ⟨by simp [Allowed, ← ha.size_eq, hlt, hset, hfresh], ha.append_trace hfresh hsound⟩
      · simp only [Coverage.apply, heq]
        refine ⟨?_, ha.append_false (.trace l)⟩
        simp only [Bool.false_eq_true, false_iff, Allowed]
        -- the law's answer is the guard still being set
        rintro ⟨hlt, hset, hfresh⟩
        have harmed : t.isArmed l = true :=
          (isArmed_iff t l).mpr ⟨ha.size_eq ▸ hlt, hset, fun hm => hfresh ((ha.mem_cleared l).mp hm)⟩
        rw [hdisarmed] at harmed
        cases harmed

/-- **Calls one after another.** A map that agrees with its history answers every later call
as the law says, in view of all the calls before it. -/
theorem Agrees.transcript {h : List (Op × Bool)} (ha : t.Agrees h) (ops : List Op) :
    (t.transcript ops).2.Agrees (h ++ (t.transcript ops).1) ∧
    ∀ pre op b post, (t.transcript ops).1 = pre ++ (op, b) :: post → (b = true ↔ Allowed (h ++ pre) op) := by
  induction ops generalizing t h with
  | nil =>
      refine ⟨by simpa using ha, fun pre op b post heq => ?_⟩
      simp at heq
  | cons op ops ih =>
      obtain ⟨hanswer, ha'⟩ := ha.call op
      obtain ⟨hrest, hlaw⟩ := ih ha'
      refine ⟨by simpa [transcript] using hrest, fun pre op' b post heq => ?_⟩
      cases pre with
      | nil =>
          obtain ⟨⟨rfl, rfl⟩, -⟩ := List.cons.inj heq
          simpa using hanswer
      | cons p pre =>
          obtain ⟨rfl, heq'⟩ := List.cons.inj heq
          simpa using hlaw pre op' b post heq'

/-- A location answered yes in a later part of a history was not answered yes before it. -/
theorem Agrees.not_mem_of_mem {h h' : List (Op × Bool)} (ha : t.Agrees (h ++ h')) {l : Nat}
    (hl : (.trace l, true) ∈ h') : (.trace l, true) ∉ h := by
  intro hmem
  have hcount := ha.count_le_one l
  rw [List.count_append] at hcount
  have hbefore := List.count_pos_iff.mpr hmem
  have hlater := List.count_pos_iff.mpr hl
  omega

end Coverage

/-! ## Coverage in a run -/

/-- The calls on the coverage map that a call of a run makes through the target's hooks. -/
def Call.coverageOps : Call → List Coverage.Op
  | .hit l => [.trace l]
  | .initCoverage n => [.init n]
  | _ => []

@[simp] theorem Record.isNew_push (r : Record) (f : Field) : (r.push f).isNew = r.isNew := rfl

@[simp] theorem Record.isNew_new (i : Nat) : (Record.new i).isNew = false := rfl

namespace Run

/-- A request touches neither the coverage map nor whether the run is new. -/
theorem coverage_tryRequest (r : Run) (size : Nat) (name : String) :
    (r.tryRequest size name).2.coverage = r.coverage ∧
      (r.tryRequest size name).2.record.isNew = r.record.isNew := by
  rcases tryRequest_cases r size name with
    ⟨-, heq⟩ | ⟨bs, src, -, -, heq⟩ | ⟨src, -, -, heq⟩ <;> simp [heq]

/-- A call makes its coverage calls on the run's map, and the run becomes new when one of them
is a report answered yes. -/
theorem coverage_call (r : Run) (c : Call) :
    (r.call c).2.coverage = (r.coverage.transcript c.coverageOps).2 ∧
    (r.call c).2.record.isNew =
      (r.record.isNew || (r.coverage.transcript c.coverageOps).1.any Coverage.newReport) := by
  cases c with
  | request size name => simpa [call, Call.coverageOps, request_eq] using coverage_tryRequest r size name
  | tryRequest size name => simpa [call, Call.coverageOps] using coverage_tryRequest r size name
  | nondet k name =>
      simpa [call, Call.coverageOps, Run.nondet, request_eq] using coverage_tryRequest r k.size name
  | hit l =>
      rw [call, hit_eq]
      cases hb : (r.coverage.trace l).1 <;>
        simp [Call.coverageOps, Coverage.transcript, Coverage.apply, hb, Coverage.newReport,
          Coverage.Op.isTrace, Record.markNew]
  | initCoverage n =>
      simp [call, Call.coverageOps, Coverage.transcript, Coverage.apply, Run.initCoverage,
        Coverage.newReport, Coverage.Op.isTrace]
  | remaining => simp [call, Call.coverageOps]
  | exit code => simp [call, Call.coverageOps]
  | abort => simp [call, Call.coverageOps]

/-- A run of calls makes all their coverage calls on the run's map, in order, and is new when
it was, or one of them is a report answered yes. -/
theorem coverage_play (r : Run) (cs : List Call) :
    (r.play cs).2.coverage = (r.coverage.transcript (cs.flatMap Call.coverageOps)).2 ∧
    (r.play cs).2.record.isNew =
      (r.record.isNew ||
        (r.coverage.transcript (cs.flatMap Call.coverageOps)).1.any Coverage.newReport) := by
  induction cs generalizing r with
  | nil => simp [play]
  | cons c cs ih =>
      obtain ⟨hcov, hnew⟩ := coverage_call r c
      obtain ⟨hcov', hnew'⟩ := ih (r.call c).2
      simp only [play, List.flatMap_cons, Coverage.transcript_append, List.any_append]
      rw [hcov', hnew', hcov, hnew, Bool.or_assoc]
      exact ⟨rfl, rfl⟩

end Run

/-- **Coverage of a run.** Whatever a script does, its run makes some calls on the coverage map,
is left with the map after them, and is new exactly when it was new before or one of them is a
report answered yes. -/
theorem Script.coverage_exec {ν : Type} (s : Script ν) (r : Run) :
    ∃ ops, (s.exec r).run.coverage = (r.coverage.transcript ops).2 ∧
      (s.exec r).run.record.isNew =
        (r.record.isNew || (r.coverage.transcript ops).1.any Coverage.newReport) := by
  obtain ⟨cs, hcs⟩ := Script.execFrom_eq_play s r []
  refine ⟨cs.flatMap Call.coverageOps, ?_⟩
  rw [Script.exec, hcs]
  exact Run.coverage_play r cs

/-- A run leaves a sound map sound. -/
theorem Script.sound_exec {ν : Type} (s : Script ν) {r : Run} (hsound : r.coverage.Sound) :
    (s.exec r).run.coverage.Sound := by
  obtain ⟨ops, hcov, -⟩ := Script.coverage_exec s r
  rw [hcov]
  exact hsound.transcript ops

/-- A run on a fresh record discovers at least as much as before, and is new exactly when it
discovered something. -/
theorem Script.discovered_exec {ν : Type} (s : Script ν) {r : Run} (hfresh : r.record.isNew = false) :
    r.coverage.discovered ≤ (s.exec r).run.coverage.discovered ∧
      ((s.exec r).run.record.isNew = true ↔
        r.coverage.discovered < (s.exec r).run.coverage.discovered) := by
  obtain ⟨ops, hcov, hnew⟩ := Script.coverage_exec s r
  have hcount := Coverage.discovered_transcript r.coverage ops
  rw [hcov, hnew, hfresh, Bool.false_or, hcount]
  refine ⟨Nat.le_add_right _ _, ?_⟩
  -- a report answered yes is exactly one more discovery
  rw [List.any_eq_true, ← List.countP_pos_iff]
  omega

/-- A run on the map that the calls `pre` left on a fresh one, starting on a record not yet new,
makes its hooks' calls after them: the map it leaves is the one all those calls leave, its
answers are the last part of their transcript, and it is new exactly when one of its reports was
answered yes. -/
theorem Script.exec_after {ν : Type} (s : Script ν) {r : Run} {pre : List Coverage.Op}
    (hcov : r.coverage = (Coverage.empty.transcript pre).2) (hfresh : r.record.isNew = false) :
    ∃ cs : List Call, (s.exec r).run = (r.play cs).2 ∧
      (s.exec r).run.coverage = (Coverage.empty.transcript (pre ++ cs.flatMap Call.coverageOps)).2 ∧
      (Coverage.empty.transcript (pre ++ cs.flatMap Call.coverageOps)).1 =
        (Coverage.empty.transcript pre).1 ++ (r.coverage.transcript (cs.flatMap Call.coverageOps)).1 ∧
      ((s.exec r).run.record.isNew = true ↔
        ∃ l, (.trace l, true) ∈ (r.coverage.transcript (cs.flatMap Call.coverageOps)).1) := by
  obtain ⟨cs, hcs⟩ := Script.execFrom_eq_play s r []
  obtain ⟨hcov', hnew⟩ := Run.coverage_play r cs
  have happend := Coverage.transcript_append Coverage.empty pre (cs.flatMap Call.coverageOps)
  rw [← hcov] at happend
  refine ⟨cs, hcs, ?_, by rw [happend], ?_⟩
  · rw [Script.exec, hcs, hcov', happend]
  · rw [Script.exec, hcs, hnew, hfresh, Bool.false_or, List.any_eq_true]
    constructor
    · rintro ⟨p, hp, hyes⟩
      obtain ⟨l, rfl⟩ := (Coverage.newReport_eq_true_iff p).mp hyes
      exact ⟨l, hp⟩
    · rintro ⟨l, hl⟩
      exact ⟨_, hl, (Coverage.newReport_eq_true_iff _).mpr ⟨l, rfl⟩⟩

/-! ## The whole law -/

/-- **The law of a coverage map.** Take any calls on a fresh map, made on it directly or by the
hooks of runs. The transcript lists them in order. The map has size zero until the first sizing
call with a positive count, which is answered yes and fixes the size for good; every other
sizing call is answered no. A report is answered yes exactly when its location is below the
size, its guard started set (its number plus one is no multiple of `2^32`), and no report of it
before was answered yes. `discovered` counts the reports answered yes, no location is answered
yes twice, and it never passes the size. A call answered no changes nothing.

A run on the map that some calls `pre` left, starting on a record not yet new, makes the calls
of its hooks after them: the map it leaves is the one all of them leave, its answers are the last
part of their transcript, and it is new exactly when one of its reports was answered yes, each
of a location that no call before the run had cleared. So across runs sharing a map each location
makes at most one run new. -/
theorem Coverage.transcript_law (ops : List Coverage.Op) :
    (Coverage.empty.transcript ops).1.map Prod.fst = ops ∧
    (∀ pre op b post, (Coverage.empty.transcript ops).1 = pre ++ (op, b) :: post →
      (b = true ↔ Coverage.Allowed pre op)) ∧
    (Coverage.empty.transcript ops).2.size = Coverage.sizedBy (Coverage.empty.transcript ops).1 ∧
    (Coverage.empty.transcript ops).2.discovered =
      (Coverage.empty.transcript ops).1.countP Coverage.newReport ∧
    (∀ l, (Coverage.empty.transcript ops).1.count (.trace l, true) ≤ 1) ∧
    (Coverage.empty.transcript ops).2.discovered ≤ (Coverage.empty.transcript ops).2.size ∧
    (∀ (t : Coverage) (op : Coverage.Op), (t.apply op).1 = false → (t.apply op).2 = t) ∧
    (∀ (ν : Type) (s : Script ν) (r : Run) (pre : List Coverage.Op),
      r.coverage = (Coverage.empty.transcript pre).2 → r.record.isNew = false →
      ∃ cs : List Call, (s.exec r).run = (r.play cs).2 ∧
        (s.exec r).run.coverage = (Coverage.empty.transcript (pre ++ cs.flatMap Call.coverageOps)).2 ∧
        (Coverage.empty.transcript (pre ++ cs.flatMap Call.coverageOps)).1 =
          (Coverage.empty.transcript pre).1 ++ (r.coverage.transcript (cs.flatMap Call.coverageOps)).1 ∧
        ((s.exec r).run.record.isNew = true ↔
          ∃ l, (.trace l, true) ∈ (r.coverage.transcript (cs.flatMap Call.coverageOps)).1) ∧
        ∀ l, (.trace l, true) ∈ (r.coverage.transcript (cs.flatMap Call.coverageOps)).1 →
          (.trace l, true) ∉ (Coverage.empty.transcript pre).1) := by
  obtain ⟨hagrees, hlaw⟩ := Coverage.agrees_empty.transcript ops
  rw [List.nil_append] at hagrees
  refine ⟨Coverage.map_fst_transcript _ ops, fun pre op b post heq => ?_, hagrees.size_eq,
    hagrees.discovered_eq, hagrees.count_le_one, hagrees.sound.discovered_le_size,
    fun t op h => Coverage.apply_of_false h, ?_⟩
  · simpa using hlaw pre op b post heq
  · intro ν s r pre hcov hfresh
    obtain ⟨cs, hplay, hafter, hsplit, hnew⟩ := Script.exec_after s hcov hfresh
    refine ⟨cs, hplay, hafter, hsplit, hnew, fun l hl => ?_⟩
    -- the history of the map, the run's calls included, holds each yes of a location once
    have ha := (Coverage.agrees_empty.transcript (pre ++ cs.flatMap Call.coverageOps)).1
    rw [List.nil_append, hsplit] at ha
    exact ha.not_mem_of_mem hl

/-- The location `2^32 - 1` of a map with `2^32` locations is never answered yes: its guard,
`2^32` cut to 32 bits, starts at zero. -/
theorem Coverage.first_report_of_wrapped_guard :
    (Coverage.empty.transcript [.init (2 ^ 32), .trace (2 ^ 32 - 1)]).1 =
      [(.init (2 ^ 32), true), (.trace (2 ^ 32 - 1), false)] := by
  decide

end VectorCapture
