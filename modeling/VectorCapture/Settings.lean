/-!
# Campaign settings

A capture campaign is bounded by the number of bytes one run may take and by the number of runs
it keeps, and seeded either by a fixed number or by the clock. Both bounds must be positive; the
byte bound is checked first.
-/

namespace VectorCapture

/-- Where the seed of a campaign comes from. -/
inductive SeedMode where
  /-- A fixed seed, for corpora that can be made again. -/
  | fixed (seed : UInt64)
  /-- A seed read from the clock. -/
  | clock
  deriving DecidableEq, Repr, Inhabited

/-- The bounds and seed of a campaign. -/
structure Settings where
  /-- How many bytes one run may take. -/
  maxRunBytes : Nat := 65536
  /-- How many runs the campaign keeps before it stops. -/
  maxAcceptedRuns : Nat := 10000
  /-- Where the seed comes from. -/
  seed : SeedMode := .clock
  deriving DecidableEq, Repr, Inhabited

/-- Why settings are refused, or nothing when they are fine. -/
def Settings.problem? (s : Settings) : Option String :=
  if s.maxRunBytes = 0 then some "max-run-bytes must be greater than zero"
  else if s.maxAcceptedRuns = 0 then some "max-accepted-runs must be greater than zero"
  else none

end VectorCapture
