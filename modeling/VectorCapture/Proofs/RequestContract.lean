import VectorCapture.Proofs.Requests

/-! # The contract of a byte request

    A request for `size` bytes named `name`, in a run that has used `u` of its `M` bytes, has
    three outcomes and no others. It is refused when `size` does not fit in the `M - u` bytes
    left, which is the exact test `M < u + size`: nothing is drawn and nothing is recorded.
    Otherwise it draws: if the source gives `size` more bytes, they are handed over in draw
    order and recorded as one field; if it runs dry first, the bytes drawn are lost, nothing is
    recorded, and the source is left dry. A request that ends the run on failure hands over the
    same bytes, or ends the run with the same failure.

    The route:

    * `Source.Draws src bs src'` says, one draw at a time, that drawing from `src` gives the
      bytes `bs` in order and leaves `src'`; it is exactly what `Source.take` computes
      (`Source.take_eq_some_iff`), and a source that cannot give `n` bytes leaves a dry one
      (`Source.take_of_not_draws`);
    * the three cases of `Run.tryRequest_cases` then read as the contract
      (`Run.request_contract`). -/

namespace VectorCapture

namespace Source

/-- Drawing from `src` one byte at a time gives the bytes `bs`, in order, and leaves `src'`. -/
inductive Draws : Source → List UInt8 → Source → Prop where
  | nil (src : Source) : Draws src [] src
  | cons {src mid src' : Source} {b : UInt8} {bs : List UInt8} :
      src.draw = some (b, mid) → Draws mid bs src' → Draws src (b :: bs) src'

/-- A run of draws is what `take` computes for its length. -/
theorem Draws.take {src src' : Source} {bs : List UInt8} (h : Draws src bs src') :
    src.take bs.length = (some bs, src') := by
  induction h with
  | nil src => rfl
  | cons hdraw _ ih =>
      rw [List.length_cons, take_succ, hdraw]
      simp [ih]

/-- What `take` hands over is a run of draws. -/
theorem draws_of_take {src src' : Source} {n : Nat} {bs : List UInt8}
    (h : src.take n = (some bs, src')) : Draws src bs src' := by
  induction n generalizing src bs with
  | zero =>
      simp only [take_zero, Prod.mk.injEq, Option.some.injEq] at h
      obtain ⟨rfl, rfl⟩ := h
      exact .nil _
  | succ n ih =>
      rw [take_succ] at h
      split at h
      · next b mid hdraw =>
          obtain ⟨hbs, hsrc⟩ := Prod.mk.inj h
          obtain ⟨rest, hrest, rfl⟩ := Option.map_eq_some_iff.mp hbs
          exact .cons hdraw (ih (show mid.take n = (some rest, src') by rw [← hsrc, ← hrest]))
      · cases h

/-- `take n` succeeds exactly with the next `n` draws. -/
theorem take_eq_some_iff {src src' : Source} {n : Nat} {bs : List UInt8} :
    src.take n = (some bs, src') ↔ Draws src bs src' ∧ bs.length = n := by
  constructor
  · intro h
    exact ⟨draws_of_take h, length_of_take h⟩
  · rintro ⟨hdraws, rfl⟩
    exact hdraws.take

/-- A source that cannot give `n` more bytes runs dry in `take n`, and is left dry. -/
theorem take_of_not_draws {src : Source} {n : Nat}
    (h : ¬ ∃ bs src', Draws src bs src' ∧ bs.length = n) : src.take n = (none, .replay []) := by
  cases htake : src.take n with
  | mk res src' =>
      cases res with
      | some bs => exact absurd ⟨bs, src', take_eq_some_iff.mp htake⟩ h
      | none => rw [(take_of_none htake).1]

end Source

namespace Run

/-- When a run has not used more than its bound, the bytes left are too few exactly when the
request would take the run past its bound: the test never wraps. -/
theorem remaining_lt_iff {r : Run} (hused : r.record.byteCount ≤ r.limit) (size : Nat) :
    r.remaining < size ↔ r.limit < r.record.byteCount + size := by
  unfold remaining
  omega

/-- A request that ends the run on failure gives what the reporting request gives, its failure
turned into the end of the run. -/
theorem request_of_tryRequest {r r' : Run} {size : Nat} {name : String}
    {res : Except RequestError (List UInt8)} (h : r.tryRequest size name = (res, r')) :
    r.request size name = (res.mapError Termination.ofRequestError, r') := by
  rw [request_eq, h]

/-- **The contract of a byte request.** In a run that has used `u` of its `M` bytes:

* the request is refused exactly when `M < u + size`, whatever the size;
* refused, it reports the name, the size, `u` and `M`, and leaves the run as it was;
* when the source gives the next `size` bytes, they are handed over and recorded as one field,
  and the byte count grows by `size`;
* when it cannot, the request fails with the name, records nothing, and leaves the source dry;
* the request that ends the run on failure hands over the same bytes or ends the run with the
  same failure, so it never hands over fewer than `size` bytes;
* an exact fit is never refused, and an empty request at the bound succeeds. -/
theorem request_contract (r : Run) (size : Nat) (name : String)
    (hused : r.record.byteCount ≤ r.limit) :
    (r.remaining < size ↔ r.limit < r.record.byteCount + size) ∧
    (r.limit < r.record.byteCount + size →
      r.tryRequest size name = (.error (.overrun ⟨name, size, r.record.byteCount, r.limit⟩), r) ∧
      r.request size name = (.error (.overrun ⟨name, size, r.record.byteCount, r.limit⟩), r)) ∧
    (∀ bs src, r.record.byteCount + size ≤ r.limit → Source.Draws r.source bs src →
      bs.length = size →
      r.tryRequest size name =
        (.ok bs, { r with source := src, record := r.record.push ⟨name, bs⟩ }) ∧
      r.request size name = (.ok bs, { r with source := src, record := r.record.push ⟨name, bs⟩ }) ∧
      (r.record.push ⟨name, bs⟩).byteCount = r.record.byteCount + size) ∧
    (r.record.byteCount + size ≤ r.limit →
      (¬ ∃ bs src, Source.Draws r.source bs src ∧ bs.length = size) →
      r.tryRequest size name = (.error (.exhausted name), { r with source := .replay [] }) ∧
      r.request size name = (.error (.exhausted name), { r with source := .replay [] })) ∧
    (∀ bs, (r.request size name).1 = .ok bs → bs.length = size) ∧
    (r.record.byteCount + size = r.limit → ∀ v, (r.tryRequest size name).1 ≠ .error (.overrun v)) ∧
    (r.record.byteCount = r.limit →
      r.tryRequest 0 name = (.ok [], { r with record := r.record.push ⟨name, []⟩ })) := by
  have hbound := remaining_lt_iff hused size
  have hfits : r.record.byteCount + size ≤ r.limit → size ≤ r.remaining := fun hfit =>
    Nat.not_lt.mp (mt hbound.mp (by omega))
  refine ⟨hbound, fun hover => ?_, fun bs src hfit hdraws hlen => ?_, fun hfit hdry => ?_,
    fun bs hok => ?_, fun hexact v => ?_, fun _ => ?_⟩
  · -- over the bound: refused before anything is drawn
    have hrefused := tryRequest_of_lt (hbound.mpr hover) name
    exact ⟨hrefused, request_of_tryRequest hrefused⟩
  · -- the source gives the bytes: they are the next `size` draws
    have htake : r.source.take size = (some bs, src) := Source.take_eq_some_iff.mpr ⟨hdraws, hlen⟩
    have hgiven : r.tryRequest size name =
        (.ok bs, { r with source := src, record := r.record.push ⟨name, bs⟩ }) := by
      rw [tryRequest_of_le (hfits hfit), htake]
    exact ⟨hgiven, request_of_tryRequest hgiven, by simp [hlen]⟩
  · -- the source runs dry: what was drawn is lost
    have hdried : r.tryRequest size name =
        (.error (.exhausted name), { r with source := .replay [] }) := by
      rw [tryRequest_of_le (hfits hfit), Source.take_of_not_draws hdry]
    exact ⟨hdried, request_of_tryRequest hdried⟩
  · rw [request_eq] at hok
    rcases tryRequest_cases r size name with
      ⟨-, heq⟩ | ⟨bs', src, -, htake, heq⟩ | ⟨src, -, -, heq⟩ <;> rw [heq] at hok
    · cases hok
    · cases hok
      exact Source.length_of_take htake
    · cases hok
  · rcases tryRequest_cases r size name with
      ⟨hlt, -⟩ | ⟨bs, src, -, -, heq⟩ | ⟨src, -, -, heq⟩
    · exact absurd (hbound.mp hlt) (by omega)
    · simp [heq]
    · simp [heq]
  · rw [tryRequest_of_le (Nat.zero_le _)]
    rfl

/-- An exact fit from a replay source holding just enough: the two bytes asked for, with one of
three used, are the two the source holds, and they are recorded under their name. -/
theorem request_exact_fit_from_replay :
    let r : Run := ⟨(Record.new 0).push ⟨"a", [7]⟩, .replay [1, 2], Coverage.empty, 3⟩
    r.record.byteCount ≤ r.limit ∧
      r.request 2 "b" =
        (.ok [1, 2], { r with source := .replay [], record := r.record.push ⟨"b", [1, 2]⟩ }) := by
  intro r
  have hused : r.record.byteCount ≤ r.limit := by decide
  have hdraws : Source.Draws r.source [1, 2] (.replay []) := .cons rfl (.cons rfl (.nil _))
  exact ⟨hused, ((request_contract r 2 "b" hused).2.2.1 [1, 2] (.replay []) (by decide) hdraws
    rfl).2.1⟩

end Run

end VectorCapture
