import Mathlib
import VectorCapture.Run.Value

/-! # What a request does to a run

    Every later statement about runs goes through the three operations a request is made of:
    the byte source, the record, and the bound check. This file pins each one down once, so
    that no later proof unfolds them:

    * a source hands out its bytes in draw order; drawing `m + n` bytes is drawing `m` and then
      `n` (`Source.take_add_of_some`), a replay source gives exactly the bytes it holds and then
      runs dry (`Source.take_replay`), a random source never runs dry (`Source.take_random`),
      and a draw that fails leaves a dry source behind (`Source.take_of_none`);
    * a record's byte count is the total length of its fields (`Record.Tallied`), which `push`
      keeps;
    * a request is refused, touching nothing, exactly when it does not fit under the bound;
      otherwise it draws, and records one field exactly when the draw succeeds
      (`Run.tryRequest_cases`). -/

namespace VectorCapture

/-! ## Records -/

namespace Record

@[simp] theorem fields_new (i : Nat) : (Record.new i).fields = #[] := rfl

@[simp] theorem byteCount_new (i : Nat) : (Record.new i).byteCount = 0 := rfl

@[simp] theorem fields_push (r : Record) (f : Field) : (r.push f).fields = r.fields.push f := rfl

@[simp] theorem byteCount_push (r : Record) (f : Field) :
    (r.push f).byteCount = r.byteCount + f.bytes.length := rfl

@[simp] theorem fields_markNew (r : Record) : r.markNew.fields = r.fields := rfl

@[simp] theorem byteCount_markNew (r : Record) : r.markNew.byteCount = r.byteCount := rfl

/-- The byte count of a record is the total length of its fields. `push` keeps it so, and no
other operation touches either, so every record a run builds has it. -/
def Tallied (r : Record) : Prop :=
  r.byteCount = (r.fields.toList.map (·.bytes.length)).sum

theorem tallied_new (i : Nat) : (Record.new i).Tallied := rfl

theorem Tallied.push {r : Record} (h : r.Tallied) (f : Field) : (r.push f).Tallied := by
  unfold Tallied at h ⊢
  simp [h]

end Record

/-! ## Drawing from a source -/

namespace Source

/-- Drawing onto an accumulator is drawing, then putting the accumulator in front. -/
theorem takeOnto_eq (acc : List UInt8) (src : Source) (n : Nat) :
    src.takeOnto acc n = ((src.take n).1.map (acc.reverse ++ ·), (src.take n).2) := by
  induction n generalizing acc src with
  | zero =>
      show (some acc.reverse, src) = ((some [] : Option (List UInt8)).map (acc.reverse ++ ·), src)
      simp
  | succ n ih =>
      rw [take, takeOnto, takeOnto]
      cases src.draw with
      | none => rfl
      | some p =>
          obtain ⟨b, src'⟩ := p
          dsimp only
          rw [ih, ih]
          simp [Option.map_map, Function.comp_def]

@[simp] theorem take_zero (src : Source) : src.take 0 = (some [], src) := rfl

/-- One byte more is one draw, then the rest. -/
theorem take_succ (src : Source) (n : Nat) :
    src.take (n + 1) = match src.draw with
      | some (b, src') => ((src'.take n).1.map (b :: ·), (src'.take n).2)
      | none => (none, src) := by
  show src.takeOnto [] (n + 1) = _
  simp only [takeOnto]
  cases src.draw with
  | none => rfl
  | some p =>
      obtain ⟨b, src'⟩ := p
      dsimp only
      rw [takeOnto_eq]
      rfl

/-- A draw that succeeds gives as many bytes as were asked for. -/
theorem length_of_take {src src' : Source} {n : Nat} {bs : List UInt8}
    (h : src.take n = (some bs, src')) : bs.length = n := by
  induction n generalizing src bs with
  | zero =>
      simp only [take_zero, Prod.mk.injEq, Option.some.injEq] at h
      simp [← h.1]
  | succ n ih =>
      rw [take_succ] at h
      split at h
      · next b s _ =>
          obtain ⟨hbs, hsrc⟩ := Prod.mk.inj h
          obtain ⟨rest, hrest, rfl⟩ := Option.map_eq_some_iff.mp hbs
          have := ih (show s.take n = (some rest, src') by rw [← hsrc, ← hrest])
          simp [this]
      · simp at h

/-- A draw that fails leaves a source that has run dry, and only a positive draw can fail. -/
theorem take_of_none {src src' : Source} {n : Nat} (h : src.take n = (none, src')) :
    src' = .replay [] ∧ 0 < n := by
  induction n generalizing src with
  | zero => simp at h
  | succ n ih =>
      rw [take_succ] at h
      split at h
      · next b s _ =>
          obtain ⟨hbs, hsrc⟩ := Prod.mk.inj h
          have hnone : (s.take n).1 = none := Option.map_eq_none_iff.mp hbs
          exact ⟨(ih (show s.take n = (none, src') by rw [← hsrc, ← hnone])).1, by omega⟩
      · next hdraw =>
          obtain ⟨-, rfl⟩ := Prod.mk.inj h
          refine ⟨?_, by omega⟩
          cases src with
          | random st => simp [draw] at hdraw
          | replay pending =>
              cases pending with
              | nil => rfl
              | cons b rest => simp [draw] at hdraw

/-- Drawing `m + n` bytes after `m` bytes came out as `xs` is drawing `n` more behind them. -/
theorem take_add_of_some {src s : Source} {m : Nat} {xs : List UInt8}
    (h : src.take m = (some xs, s)) (n : Nat) :
    src.take (m + n) = ((s.take n).1.map (xs ++ ·), (s.take n).2) := by
  induction m generalizing src xs with
  | zero =>
      simp only [take_zero, Prod.mk.injEq, Option.some.injEq] at h
      obtain ⟨rfl, rfl⟩ := h
      simp
  | succ m ih =>
      rw [take_succ] at h
      rw [show m + 1 + n = (m + n) + 1 by omega, take_succ]
      split at h
      · next b s' _ =>
          obtain ⟨hbs, hsrc⟩ := Prod.mk.inj h
          obtain ⟨rest, hrest, rfl⟩ := Option.map_eq_some_iff.mp hbs
          have hm : s'.take m = (some rest, s) := by rw [← hsrc, ← hrest]
          simp only [ih hm, Option.map_map]
          congr 2
      · simp at h

/-- Two draws one after the other take the bytes of both, in order. -/
theorem take_append {src s s' : Source} {xs ys : List UInt8}
    (hx : src.take xs.length = (some xs, s)) (hy : s.take ys.length = (some ys, s')) :
    src.take (xs ++ ys).length = (some (xs ++ ys), s') := by
  rw [List.length_append, take_add_of_some hx, hy]
  rfl

/-- A replay source hands out exactly the bytes it holds, in order, and then runs dry. -/
theorem take_replay (xs : List UInt8) (n : Nat) :
    (Source.replay xs).take n =
      if n ≤ xs.length then (some (xs.take n), .replay (xs.drop n)) else (none, .replay []) := by
  induction n generalizing xs with
  | zero => simp
  | succ n ih =>
      rw [take_succ]
      cases xs with
      | nil => simp [draw]
      | cons b rest =>
          simp only [draw, ih, List.length_cons, Nat.add_le_add_iff_right]
          split <;> simp

/-- A random source never runs dry, and stays random. -/
theorem take_random (st : Chacha.Stream) (n : Nat) :
    ∃ bs st', (Source.random st).take n = (some bs, .random st') := by
  induction n generalizing st with
  | zero => exact ⟨[], st, rfl⟩
  | succ n ih =>
      obtain ⟨bs, st', h⟩ := ih st.nextByte.2
      refine ⟨st.nextByte.1 :: bs, st', ?_⟩
      rw [take_succ]
      simp [draw, h]

end Source

/-! ## Requests -/

namespace Run

/-- A request that does not fit is refused with the numbers of the run, which it leaves alone. -/
theorem tryRequest_of_lt {r : Run} {size : Nat} (h : r.remaining < size) (name : String) :
    r.tryRequest size name = (.error (.overrun ⟨name, size, r.record.byteCount, r.limit⟩), r) := by
  simp [tryRequest, h]

/-- A request that fits draws its bytes, and records them only if the draw succeeds. -/
theorem tryRequest_of_le {r : Run} {size : Nat} (h : size ≤ r.remaining) (name : String) :
    r.tryRequest size name = match r.source.take size with
      | (some bs, src) => (.ok bs, { r with source := src, record := r.record.push ⟨name, bs⟩ })
      | (none, src) => (.error (.exhausted name), { r with source := src }) := by
  unfold tryRequest
  exact if_neg (Nat.not_lt.mpr h)

/-- Everything a request can do: be refused and touch nothing; hand over `size` fresh bytes and
record them as one field; or find the source dry, lose what it drew, and record nothing. -/
theorem tryRequest_cases (r : Run) (size : Nat) (name : String) :
    (r.remaining < size ∧
      r.tryRequest size name = (.error (.overrun ⟨name, size, r.record.byteCount, r.limit⟩), r)) ∨
    (∃ bs src, size ≤ r.remaining ∧ r.source.take size = (some bs, src) ∧
      r.tryRequest size name =
        (.ok bs, { r with source := src, record := r.record.push ⟨name, bs⟩ })) ∨
    (∃ src, size ≤ r.remaining ∧ r.source.take size = (none, src) ∧
      r.tryRequest size name = (.error (.exhausted name), { r with source := src })) := by
  by_cases hfit : r.remaining < size
  · exact .inl ⟨hfit, tryRequest_of_lt hfit name⟩
  · have hle : size ≤ r.remaining := Nat.le_of_not_lt hfit
    rw [tryRequest_of_le hle]
    cases htake : r.source.take size with
    | mk res src =>
        cases res with
        | some bs => exact .inr (.inl ⟨bs, src, hle, rfl, rfl⟩)
        | none => exact .inr (.inr ⟨src, hle, rfl, rfl⟩)

/-- A request that ends the run on failure does what the reporting request does. -/
theorem request_eq (r : Run) (size : Nat) (name : String) :
    r.request size name =
      ((r.tryRequest size name).1.mapError Termination.ofRequestError,
        (r.tryRequest size name).2) := rfl

/-- Reporting a location touches neither the fields, nor the byte count, nor the source. -/
theorem hit_eq (r : Run) (l : Nat) :
    r.hit l =
      { r with
        coverage := (r.coverage.trace l).2
        record := if (r.coverage.trace l).1 then r.record.markNew else r.record } := rfl

@[simp] theorem source_hit (r : Run) (l : Nat) : (r.hit l).source = r.source := rfl

@[simp] theorem limit_hit (r : Run) (l : Nat) : (r.hit l).limit = r.limit := rfl

@[simp] theorem fields_hit (r : Run) (l : Nat) : (r.hit l).record.fields = r.record.fields := by
  rw [hit_eq]
  split <;> rfl

@[simp] theorem byteCount_hit (r : Run) (l : Nat) :
    (r.hit l).record.byteCount = r.record.byteCount := by
  rw [hit_eq]
  split <;> rfl

@[simp] theorem record_initCoverage (r : Run) (n : Nat) : (r.initCoverage n).record = r.record :=
  rfl

@[simp] theorem source_initCoverage (r : Run) (n : Nat) : (r.initCoverage n).source = r.source :=
  rfl

@[simp] theorem limit_initCoverage (r : Run) (n : Nat) : (r.initCoverage n).limit = r.limit := rfl

end Run

end VectorCapture
