import VectorCapture.Bytes.Hex
/-!
# Fields and run records

A *field* is one named piece of input handed to a target: its bytes in the order they were
drawn, which is little-endian order, so the first byte is the least significant. Its *value*
is the hexadecimal text of those bytes most significant first, the way a number is read.

A *record* keeps what one run was given: its index, its fields in the order they were asked
for, their total length, and whether the run cleared a guard that was still set.
-/

namespace VectorCapture

/-- A named piece of input, its bytes in draw order. -/
structure Field where
  /-- The name the target asked under. -/
  name : String
  /-- The bytes, least significant first. -/
  bytes : List UInt8
  deriving DecidableEq, Repr, Inhabited

/-- The hexadecimal digits of a field's number, most significant byte first. -/
def Field.value (f : Field) : String :=
  Hex.encode f.bytes.reverse

/-- What one run was given. -/
structure Record where
  /-- The number the run's vector is filed under. -/
  index : Nat
  /-- The fields, in the order they were asked for. -/
  fields : Array Field := #[]
  /-- The total number of bytes in the fields. -/
  byteCount : Nat := 0
  /-- Whether the run cleared a guard that was still set. -/
  isNew : Bool := false
  deriving Inhabited

namespace Record

/-- The empty record of run `index`. -/
def new (index : Nat) : Record := { index }

/-- The record with one more field at its end. -/
def push (r : Record) (f : Field) : Record :=
  { r with fields := r.fields.push f, byteCount := r.byteCount + f.bytes.length }

/-- The record of a run that found new coverage. -/
def markNew (r : Record) : Record :=
  { r with isNew := true }

end Record

end VectorCapture
