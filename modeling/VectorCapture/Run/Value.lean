import VectorCapture.Run.Context
/-!
# Values asked for by type

A target may ask for a value of a machine type instead of a number of bytes. The request is one
for as many bytes as the type is wide, and the value is those bytes read little-endian: unsigned
integers as they stand, signed ones in two's complement, floating-point numbers as their bit
pattern, and a truth value as whether its one byte is non-zero.
-/

namespace VectorCapture

/-- The machine types a value can be asked for in. -/
inductive Kind where
  | u8 | u16 | u32 | u64 | u128 | usize
  | i8 | i16 | i32 | i64 | i128 | isize
  | f32 | f64 | bool
  deriving DecidableEq, Repr, Inhabited

/-- A value of a machine type. -/
inductive Value where
  /-- An unsigned integer. -/
  | nat (n : Nat)
  /-- A signed integer. -/
  | int (i : Int)
  /-- A single-precision number, by its bit pattern. -/
  | float32 (bits : Nat)
  /-- A double-precision number, by its bit pattern. -/
  | float64 (bits : Nat)
  /-- A truth value. -/
  | bool (b : Bool)
  deriving DecidableEq, Repr

/-- The number whose little-endian bytes are `bs`. -/
def leNat : List UInt8 → Nat
  | [] => 0
  | b :: rest => b.toNat + 256 * leNat rest

namespace Kind

/-- All kinds, with their names. -/
def names : List (String × Kind) :=
  [("u8", .u8), ("u16", .u16), ("u32", .u32), ("u64", .u64), ("u128", .u128),
    ("usize", .usize), ("i8", .i8), ("i16", .i16), ("i32", .i32), ("i64", .i64),
    ("i128", .i128), ("isize", .isize), ("f32", .f32), ("f64", .f64), ("bool", .bool)]

/-- The kind of a name. -/
def ofName? (s : String) : Option Kind :=
  (names.find? (·.1 == s)).map (·.2)

/-- The name of a kind. -/
def name (k : Kind) : String :=
  ((names.find? (·.2 == k)).map (·.1)).getD ""

/-- How many bytes a value of the kind takes; addresses are 64 bits wide. -/
def size : Kind → Nat
  | .u8 | .i8 | .bool => 1
  | .u16 | .i16 => 2
  | .u32 | .i32 | .f32 => 4
  | .u64 | .usize | .i64 | .isize | .f64 => 8
  | .u128 | .i128 => 16

/-- The value of the kind whose little-endian bytes are `bs`. -/
def decode (k : Kind) (bs : List UInt8) : Value :=
  let n := leNat bs
  match k with
  | .u8 | .u16 | .u32 | .u64 | .u128 | .usize => .nat n
  | .i8 | .i16 | .i32 | .i64 | .i128 | .isize =>
    let width := 8 * k.size
    .int (if n < Nat.pow 2 (width - 1) then (n : Int) else (n : Int) - Int.pow 2 width)
  | .f32 => .float32 n
  | .f64 => .float64 n
  | .bool => .bool (bs.any (· != 0))

end Kind

/-- The bits of a value as an unsigned number: a truth value is 0 or 1. -/
def Value.bits (k : Kind) : Value → Nat
  | .nat n => n
  | .int i => (i % Int.pow 2 (8 * k.size)).toNat
  | .float32 b => b
  | .float64 b => b
  | .bool b => if b then 1 else 0

/-- A number in hexadecimal with at least `width` digits. -/
def hexWidth (width n : Nat) : String :=
  let ds := Text.hexDigits n
  "0x" ++ String.ofList (List.replicate (width - ds.length) '0' ++ ds)

/-- The text of a value: integers in decimal, floating-point numbers as their bit pattern in
hexadecimal, truth values as words. -/
def Value.text : Value → String
  | .nat n => toString n
  | .int i => toString i
  | .float32 b => hexWidth 8 b
  | .float64 b => hexWidth 16 b
  | .bool b => if b then "true" else "false"

/-- Asks for a value of kind `k` named `name`; a failure ends the run. -/
def Run.nondet (r : Run) (k : Kind) (name : String) : Except Termination Value × Run :=
  let (res, r) := r.request k.size name
  (res.map k.decode, r)

end VectorCapture
