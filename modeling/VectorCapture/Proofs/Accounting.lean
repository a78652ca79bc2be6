import VectorCapture.Proofs.CaptureReplay

/-! # Byte accounting

    A target may make any call into its run, in any order: a request that ends the run may be
    caught, and the target goes on calling. Whatever it does:

    * the byte count of the record is the total length of its fields and stays within the
      bound, so the bytes left are exactly the bound less the count (`Run.accounted_play`);
    * the fields are the requests granted, in the order they were granted (`Run.fields_play`),
      and a request refused for the bound changes nothing (`Run.call_of_refused`);
    * over a random source, the bytes recorded are exactly the bytes drawn (`Run.draws_play`);
      over a session of runs that share the source, the bytes of all their records, run after
      run, are exactly the start of its stream (`session_draws`);
    * a script's run is one such sequence of calls (`Script.execFrom_eq_play`).

    Every call is told apart once, by `Run.call_cases`; the rest follows by induction on the
    calls, and then on the runs. -/

namespace VectorCapture

/-- One call a target makes into its run. -/
inductive Call where
  /-- Ask for bytes; a failure ends the run. -/
  | request (size : Nat) (name : String)
  /-- Ask for bytes, and be told of a failure. -/
  | tryRequest (size : Nat) (name : String)
  /-- Ask for a value of a machine type. -/
  | nondet (kind : Kind) (name : String)
  /-- Report that a location ran. -/
  | hit (loc : Nat)
  /-- Give the number of locations. -/
  | initCoverage (n : Nat)
  /-- Ask how many bytes are left. -/
  | remaining
  /-- Ask to exit the run. -/
  | exit (code : Int32)
  /-- Ask to abort the run. -/
  | abort

/-- The bytes a call asks for, with the name it asks under: requests of all three kinds. -/
def Call.asked : Call → Option (Nat × String)
  | .request size name | .tryRequest size name => some (size, name)
  | .nondet k name => some (k.size, name)
  | _ => none

namespace Run

/-- Makes one call: the field it was granted, if it was a request answered with bytes, and the
run after it. -/
def call (r : Run) : Call → Option Field × Run
  | .request size name =>
    ((r.request size name).1.toOption.map (Field.mk name), (r.request size name).2)
  | .tryRequest size name =>
    ((r.tryRequest size name).1.toOption.map (Field.mk name), (r.tryRequest size name).2)
  | .nondet k name => ((r.request k.size name).1.toOption.map (Field.mk name), (r.nondet k name).2)
  | .hit l => (none, r.hit l)
  | .initCoverage n => (none, r.initCoverage n)
  | .remaining | .exit _ | .abort => (none, r)

/-- Makes calls one after another: the fields granted on the way, in order, and the run after
them. -/
def play (r : Run) : List Call → List Field × Run
  | [] => ([], r)
  | c :: cs => ((r.call c).1.toList ++ ((r.call c).2.play cs).1, ((r.call c).2.play cs).2)

end Run

/-- Runs one after another, each on a fresh record under the bound `limit` and making its own
calls, over the source and the coverage map the run before it left: the runs at their ends, and
the source left after the last. -/
def session (limit : Nat) : Source → Coverage → List (Nat × List Call) → List Run × Source
  | src, _, [] => ([], src)
  | src, cov, (index, cs) :: rest =>
    let r := (Run.play ⟨Record.new index, src, cov, limit⟩ cs).2
    (r :: (session limit r.source r.coverage rest).1, (session limit r.source r.coverage rest).2)

namespace Run

/-! ## One call -/

/-- Every call is a request made through `tryRequest`, or is granted nothing and leaves the
fields, the byte count, the source and the bound as they were. -/
theorem call_cases (r : Run) (c : Call) :
    (∃ size name, c.asked = some (size, name) ∧
      r.call c =
        ((r.tryRequest size name).1.toOption.map (Field.mk name), (r.tryRequest size name).2)) ∨
    (c.asked = none ∧ (r.call c).1 = none ∧
      (r.call c).2.record.fields = r.record.fields ∧
      (r.call c).2.record.byteCount = r.record.byteCount ∧
      (r.call c).2.source = r.source ∧ (r.call c).2.limit = r.limit) := by
  cases c with
  | request size name =>
      refine .inl ⟨size, name, rfl, ?_⟩
      simp only [call, request_eq]
      cases (r.tryRequest size name).1 <;> rfl
  | tryRequest size name => exact .inl ⟨size, name, rfl, rfl⟩
  | nondet k name =>
      refine .inl ⟨k.size, name, rfl, ?_⟩
      simp only [call, request_eq]
      cases (r.tryRequest k.size name).1 <;> rfl
  | hit l => exact .inr ⟨rfl, rfl, fields_hit r l, byteCount_hit r l, rfl, rfl⟩
  | initCoverage n => exact .inr ⟨rfl, rfl, rfl, rfl, rfl, rfl⟩
  | remaining => exact .inr ⟨rfl, rfl, rfl, rfl, rfl, rfl⟩
  | exit code => exact .inr ⟨rfl, rfl, rfl, rfl, rfl, rfl⟩
  | abort => exact .inr ⟨rfl, rfl, rfl, rfl, rfl, rfl⟩

/-- A request refused for the bound is granted nothing and changes nothing: it draws no byte. -/
theorem call_of_refused {r : Run} {c : Call} {size : Nat} {name : String}
    (hasked : c.asked = some (size, name)) (hover : r.remaining < size) : r.call c = (none, r) := by
  rcases call_cases r c with ⟨size', name', hasked', heq⟩ | ⟨hnone, -⟩
  · obtain ⟨rfl, rfl⟩ := Prod.mk.inj (Option.some.inj (hasked.symm.trans hasked'))
    rw [heq, tryRequest_of_lt hover]
    rfl
  · rw [hasked] at hnone
    cases hnone

theorem fields_tryRequest (r : Run) (size : Nat) (name : String) :
    (r.tryRequest size name).2.record.fields.toList =
      r.record.fields.toList ++ ((r.tryRequest size name).1.toOption.map (Field.mk name)).toList := by
  rcases tryRequest_cases r size name with
    ⟨-, heq⟩ | ⟨bs, src, -, -, heq⟩ | ⟨src, -, -, heq⟩ <;> simp [heq, Except.toOption]

/-- A call appends to the fields exactly what it was granted. -/
theorem fields_call (r : Run) (c : Call) :
    (r.call c).2.record.fields.toList = r.record.fields.toList ++ (r.call c).1.toList := by
  rcases call_cases r c with ⟨size, name, -, heq⟩ | ⟨-, hnone, hfields, -⟩
  · rw [heq]
    exact fields_tryRequest r size name
  · rw [hnone, hfields]
    simp

theorem limit_tryRequest (r : Run) (size : Nat) (name : String) :
    (r.tryRequest size name).2.limit = r.limit := by
  rcases tryRequest_cases r size name with
    ⟨-, heq⟩ | ⟨bs, src, -, -, heq⟩ | ⟨src, -, -, heq⟩ <;> rw [heq]

/-- No call moves the bound. -/
theorem limit_call (r : Run) (c : Call) : (r.call c).2.limit = r.limit := by
  rcases call_cases r c with ⟨size, name, -, heq⟩ | ⟨-, -, -, -, -, hlimit⟩
  · rw [heq]
    exact limit_tryRequest r size name
  · exact hlimit

/-- The accounts of a run: the byte count is the total length of the fields, and within the
bound. -/
structure Accounted (r : Run) : Prop where
  tallied : r.record.Tallied
  le_limit : r.record.byteCount ≤ r.limit

/-- In a run whose accounts hold, the bytes left are exactly the bound less the byte count. -/
theorem Accounted.remaining_add {r : Run} (h : r.Accounted) :
    r.remaining + r.record.byteCount = r.limit := by
  have hle := h.le_limit
  unfold remaining
  omega

theorem accounted_tryRequest {r : Run} (h : r.Accounted) (size : Nat) (name : String) :
    (r.tryRequest size name).2.Accounted := by
  rcases tryRequest_cases r size name with
    ⟨-, heq⟩ | ⟨bs, src, hfit, htake, heq⟩ | ⟨src, -, -, heq⟩
  · rw [heq]
    exact h
  · rw [heq]
    refine ⟨h.tallied.push _, ?_⟩
    -- the request fits in what is left, which is the bound less the count
    have hlen : bs.length = size := Source.length_of_take htake
    have hleft := h.remaining_add
    show r.record.byteCount + bs.length ≤ r.limit
    omega
  · rw [heq]
    exact ⟨h.tallied, h.le_limit⟩

/-- Every call keeps the accounts. -/
theorem accounted_call {r : Run} (h : r.Accounted) (c : Call) : (r.call c).2.Accounted := by
  rcases call_cases r c with ⟨size, name, -, heq⟩ | ⟨-, -, hfields, hcount, -, hlimit⟩
  · rw [heq]
    exact accounted_tryRequest h size name
  · refine ⟨?_, ?_⟩
    · unfold Record.Tallied
      rw [hfields, hcount]
      exact h.tallied
    · rw [hcount, hlimit]
      exact h.le_limit

theorem draws_tryRequest {r : Run} {st : Chacha.Stream} (hsrc : r.source = .random st)
    (size : Nat) (name : String) :
    ∃ st', (r.tryRequest size name).2.source = .random st' ∧
      r.source.take
          (((r.tryRequest size name).1.toOption.map (Field.mk name)).toList.flatMap (·.bytes)).length =
        (some (((r.tryRequest size name).1.toOption.map (Field.mk name)).toList.flatMap (·.bytes)),
          (r.tryRequest size name).2.source) := by
  rcases tryRequest_cases r size name with
    ⟨-, heq⟩ | ⟨bs, src, -, htake, heq⟩ | ⟨src, -, htake, heq⟩
  · rw [heq]
    exact ⟨st, hsrc, by simp [Except.toOption]⟩
  · rw [heq]
    -- a random source stays random
    obtain ⟨bs', st', hrandom⟩ := Source.take_random st size
    rw [← hsrc, htake] at hrandom
    obtain ⟨-, rfl⟩ := Prod.mk.inj hrandom
    have hlen : bs.length = size := Source.length_of_take htake
    refine ⟨st', rfl, ?_⟩
    simpa [Except.toOption, hlen] using htake
  · -- a random source never runs dry
    obtain ⟨bs', st', hrandom⟩ := Source.take_random st size
    rw [← hsrc, htake] at hrandom
    cases Prod.mk.inj hrandom |>.1

/-- Over a random source, a call draws exactly the bytes it was granted, and the source stays
random. -/
theorem draws_call {r : Run} {st : Chacha.Stream} (hsrc : r.source = .random st) (c : Call) :
    ∃ st', (r.call c).2.source = .random st' ∧
      r.source.take ((r.call c).1.toList.flatMap (·.bytes)).length =
        (some ((r.call c).1.toList.flatMap (·.bytes)), (r.call c).2.source) := by
  rcases call_cases r c with ⟨size, name, -, heq⟩ | ⟨-, hnone, -, -, hsame, -⟩
  · rw [heq]
    exact draws_tryRequest hsrc size name
  · rw [hnone, hsame]
    exact ⟨st, hsrc, by simp⟩

/-! ## A run of calls -/

/-- The fields of a run grow by exactly the requests granted, in order. -/
theorem fields_play (r : Run) (cs : List Call) :
    (r.play cs).2.record.fields.toList = r.record.fields.toList ++ (r.play cs).1 := by
  induction cs generalizing r with
  | nil => simp [play]
  | cons c cs ih =>
      simp only [play]
      rw [ih, fields_call, List.append_assoc]

theorem limit_play (r : Run) (cs : List Call) : (r.play cs).2.limit = r.limit := by
  induction cs generalizing r with
  | nil => rfl
  | cons c cs ih => exact (ih (r.call c).2).trans (limit_call r c)

/-- Every sequence of calls keeps the accounts. -/
theorem accounted_play {r : Run} (h : r.Accounted) (cs : List Call) : (r.play cs).2.Accounted := by
  induction cs generalizing r with
  | nil => exact h
  | cons c cs ih => exact ih (accounted_call h c)

/-- Over a random source, a run of calls draws exactly the bytes it was granted, in order, and
the source stays random. -/
theorem draws_play {r : Run} {st : Chacha.Stream} (hsrc : r.source = .random st) (cs : List Call) :
    ∃ st', (r.play cs).2.source = .random st' ∧
      r.source.take ((r.play cs).1.flatMap (·.bytes)).length =
        (some ((r.play cs).1.flatMap (·.bytes)), (r.play cs).2.source) := by
  induction cs generalizing r st with
  | nil => exact ⟨st, hsrc, by simp [play]⟩
  | cons c cs ih =>
      obtain ⟨st₁, hsrc₁, htake₁⟩ := draws_call hsrc c
      obtain ⟨st₂, hsrc₂, htake₂⟩ := ih hsrc₁
      refine ⟨st₂, hsrc₂, ?_⟩
      simp only [play, List.flatMap_append]
      exact Source.take_append htake₁ htake₂

end Run

/-! ## Sessions -/

/-- Over a random source, the bytes recorded by a session's runs, run after run, are exactly the
start of the source's stream, and the source left is the rest of it. -/
theorem session_draws (limit : Nat) (st : Chacha.Stream) (cov : Coverage)
    (runs : List (Nat × List Call)) :
    ∃ st', (session limit (.random st) cov runs).2 = .random st' ∧
      (Source.random st).take ((session limit (.random st) cov runs).1.flatMap
          fun r => r.record.fields.toList.flatMap (·.bytes)).length =
        (some ((session limit (.random st) cov runs).1.flatMap
          fun r => r.record.fields.toList.flatMap (·.bytes)),
          (session limit (.random st) cov runs).2) := by
  induction runs generalizing st cov with
  | nil => exact ⟨st, rfl, by simp [session]⟩
  | cons run rest ih =>
      obtain ⟨index, cs⟩ := run
      -- the run records on a fresh record, so its fields are what it was granted
      have hfields := Run.fields_play ⟨Record.new index, .random st, cov, limit⟩ cs
      obtain ⟨st₁, hsrc₁, htake₁⟩ := Run.draws_play (r := ⟨Record.new index, .random st, cov, limit⟩)
        rfl cs
      obtain ⟨st₂, hsrc₂, htake₂⟩ := ih st₁ (Run.play ⟨Record.new index, .random st, cov, limit⟩ cs).2.coverage
      refine ⟨st₂, ?_, ?_⟩
      · simp only [session]
        rw [hsrc₁]
        exact hsrc₂
      · simp only [session, List.flatMap_cons]
        rw [hfields, Record.fields_new, Array.toList_empty, List.nil_append, hsrc₁]
        exact Source.take_append htake₁ (hsrc₁ ▸ htake₂)

/-! ## Scripts -/

/-- A script's run is a sequence of calls: whatever a script does to its run, some calls do. -/
theorem Script.execFrom_eq_play {ν : Type} (s : Script ν) (r : Run) (log : List ν) :
    ∃ cs, (s.execFrom r log).run = (r.play cs).2 := by
  induction s generalizing r log with
  | finish code => exact ⟨[], rfl⟩
  | request size name next ih =>
      rw [Script.execFrom_request]
      have hcall : (r.call (.request size name)).2 = (r.tryRequest size name).2 := rfl
      cases (r.tryRequest size name).1 with
      | ok bs =>
          obtain ⟨cs, hcs⟩ := ih bs (r.tryRequest size name).2 log
          exact ⟨.request size name :: cs, by rw [hcs, Run.play, hcall]⟩
      | error e => exact ⟨[.request size name], by rw [Run.play, hcall]; rfl⟩
  | tryRequest size name next ih =>
      obtain ⟨cs, hcs⟩ := ih (r.tryRequest size name).1 (r.tryRequest size name).2 log
      exact ⟨.tryRequest size name :: cs, by rw [Script.execFrom_tryRequest, hcs]; rfl⟩
  | remaining next ih =>
      obtain ⟨cs, hcs⟩ := ih r.remaining r log
      exact ⟨.remaining :: cs, hcs⟩
  | hit loc next ih =>
      obtain ⟨cs, hcs⟩ := ih (r.hit loc) log
      exact ⟨.hit loc :: cs, hcs⟩
  | initCoverage n next ih =>
      obtain ⟨cs, hcs⟩ := ih (r.initCoverage n) log
      exact ⟨.initCoverage n :: cs, hcs⟩
  | exit code => exact ⟨[], rfl⟩
  | abort => exact ⟨[], rfl⟩
  | panic message => exact ⟨[], rfl⟩
  | note entry next ih => exact ih r (entry :: log)

/-! ## The accounts of a session -/

/-- **Byte accounting.** Take runs one after another over one source, each on a fresh record
under the bound `limit`, each making any calls in any order. At every point of every run, the
byte count is the total length of the fields and within the bound, so the bytes left are exactly
the bound less the count, and the fields are the requests granted, in order. A request refused
for the bound changes nothing, and every run of a script is such a sequence of calls. Over a
random source, the bytes the runs record, run after run, are exactly the bytes drawn from it, in
order: none lost, none twice. -/
theorem byte_accounting (limit : Nat) :
    (∀ (index : Nat) (src : Source) (cov : Coverage) (cs : List Call),
      let r := (Run.play ⟨Record.new index, src, cov, limit⟩ cs).2
      r.record.byteCount = (r.record.fields.toList.map (·.bytes.length)).sum ∧
        r.record.byteCount ≤ limit ∧ r.remaining + r.record.byteCount = limit ∧
        r.record.fields.toList = (Run.play ⟨Record.new index, src, cov, limit⟩ cs).1) ∧
    (∀ (r : Run) (c : Call) (size : Nat) (name : String), c.asked = some (size, name) →
      r.remaining < size → r.call c = (none, r)) ∧
    (∀ (ν : Type) (s : Script ν) (r : Run) (log : List ν),
      ∃ cs, (s.execFrom r log).run = (r.play cs).2) ∧
    (∀ (st : Chacha.Stream) (cov : Coverage) (runs : List (Nat × List Call)),
      let drawn := (session limit (.random st) cov runs).1.flatMap
        fun r => r.record.fields.toList.flatMap (·.bytes)
      (Source.random st).take drawn.length = (some drawn, (session limit (.random st) cov runs).2)) := by
  refine ⟨fun index src cov cs => ?_, fun r c size name => Run.call_of_refused,
    fun ν s r log => Script.execFrom_eq_play s r log,
    fun st cov runs => ?_⟩
  rotate_left
  · obtain ⟨-, -, hdrawn⟩ := session_draws limit st cov runs
    exact hdrawn
  -- a fresh record's accounts hold, and every call keeps them
  have hfresh : Run.Accounted ⟨Record.new index, src, cov, limit⟩ :=
    ⟨Record.tallied_new index, Nat.zero_le limit⟩
  have hacc := Run.accounted_play hfresh cs
  have hlimit : (Run.play ⟨Record.new index, src, cov, limit⟩ cs).2.limit = limit :=
    Run.limit_play _ cs
  have hfields := Run.fields_play ⟨Record.new index, src, cov, limit⟩ cs
  rw [Record.fields_new, Array.toList_empty, List.nil_append] at hfields
  refine ⟨hacc.tallied, ?_, hacc.remaining_add.trans hlimit, hfields⟩
  calc _ ≤ _ := hacc.le_limit
    _ = limit := hlimit

/-- A request for a wider value than the bound allows is refused and draws nothing. -/
theorem byte_accounting_wide_value :
    (Call.nondet .u64 "x").asked = some (8, "x") ∧
      (⟨Record.new 0, .replay [1, 2], Coverage.empty, 4⟩ : Run).remaining < 8 ∧
      (⟨Record.new 0, .replay [1, 2], Coverage.empty, 4⟩ : Run).call (.nondet .u64 "x") =
        (none, ⟨Record.new 0, .replay [1, 2], Coverage.empty, 4⟩) := by
  have hasked : (Call.nondet .u64 "x").asked = some (8, "x") := rfl
  have hover : (⟨Record.new 0, .replay [1, 2], Coverage.empty, 4⟩ : Run).remaining < 8 := by decide
  exact ⟨hasked, hover, (byte_accounting 4).2.1 _ _ 8 "x" hasked hover⟩

end VectorCapture
