import VectorCapture.Coverage
import VectorCapture.Record
import VectorCapture.Source.Basic
/-!
# A run in progress

While a target runs it sees the harness through a handful of calls: ask for bytes, report a
location, give the number of locations, ask how many bytes are left, or leave the run. The state
behind those calls is a `Run`: the record of the run, the byte source, the coverage map and the
byte bound of the run.

A request for `size` bytes under the name `name`:

* is refused, drawing and recording nothing, when `size` exceeds the bytes left under the
  bound; the test is exact, so no size is too large for it;
* otherwise draws `size` bytes; if the source runs dry first, the bytes drawn are lost and
  nothing is recorded;
* otherwise appends the field `name` with those bytes to the record.

`tryRequest` hands the failure back to the target; `request` ends the run with it.
-/

namespace VectorCapture

/-- A request that does not fit under the byte bound of the run. -/
structure Overrun where
  /-- The name of the refused field. -/
  field : String
  /-- The bytes asked for. -/
  requested : Nat
  /-- The bytes the run had already been given. -/
  used : Nat
  /-- The byte bound of the run. -/
  limit : Nat
  deriving DecidableEq, Repr

/-- The message of an overrun. -/
def Overrun.message (v : Overrun) : String :=
  "Field '" ++ v.field ++ "' requests " ++ toString v.requested ++ " bytes with " ++
    toString v.used ++ " of " ++ toString v.limit ++ " already used"

/-- Why a request handed back no bytes. -/
inductive RequestError where
  /-- The request does not fit under the bound. -/
  | overrun (v : Overrun)
  /-- The source ran dry while filling the field. -/
  | exhausted (field : String)
  deriving DecidableEq, Repr

/-- The message of a failed request. -/
def RequestError.message : RequestError → String
  | .overrun v => "Run byte bound exceeded: " ++ v.message
  | .exhausted f => "Byte source exhausted while filling field '" ++ f ++ "'"

/-- Why a run stopped before its target returned. -/
inductive Termination where
  /-- The target asked to exit with a status. -/
  | exit (code : Int32)
  /-- The target asked to abort. -/
  | abort
  /-- A request did not fit under the bound. -/
  | overrun (v : Overrun)
  /-- The source ran dry while filling a field. -/
  | exhausted (field : String)
  deriving DecidableEq, Repr

/-- The termination that a failed request causes. -/
def Termination.ofRequestError : RequestError → Termination
  | .overrun v => .overrun v
  | .exhausted f => .exhausted f

/-- The state of a run in progress. -/
structure Run where
  /-- What the run has been given so far. -/
  record : Record
  /-- Where its bytes come from. -/
  source : Source
  /-- The coverage map, shared by all runs of a campaign. -/
  coverage : Coverage
  /-- The byte bound of the run. -/
  limit : Nat
  deriving Inhabited

namespace Run

/-- How many more bytes the run may ask for. -/
def remaining (r : Run) : Nat :=
  r.limit - r.record.byteCount

/-- Asks for `size` bytes named `name`, handing a failure back. -/
def tryRequest (r : Run) (size : Nat) (name : String) :
    Except RequestError (List UInt8) × Run :=
  if r.remaining < size then
    (.error (.overrun ⟨name, size, r.record.byteCount, r.limit⟩), r)
  else
    match r.source.take size with
    | (some bs, src) => (.ok bs, { r with source := src, record := r.record.push ⟨name, bs⟩ })
    | (none, src) => (.error (.exhausted name), { r with source := src })

/-- Asks for `size` bytes named `name`; a failure ends the run. -/
def request (r : Run) (size : Nat) (name : String) : Except Termination (List UInt8) × Run :=
  let (res, r) := r.tryRequest size name
  (res.mapError Termination.ofRequestError, r)

/-- Reports that location `l` ran; the run is new if this cleared a guard. -/
def hit (r : Run) (l : Nat) : Run :=
  let (fresh, c) := r.coverage.trace l
  { r with coverage := c, record := if fresh then r.record.markNew else r.record }

/-- Gives the coverage map its number of locations, if it has none yet. -/
def initCoverage (r : Run) (n : Nat) : Run :=
  { r with coverage := (r.coverage.init n).2 }

end Run

end VectorCapture
