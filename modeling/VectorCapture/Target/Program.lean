import VectorCapture.Run.Script
/-!
# Target programs

A small language for writing targets. A program is a list of instructions run in order, over one
register that holds an unsigned 128-bit number and starts at zero in every run. Falling off the
end of a program returns its default status.

* `bytes` and `tryBytes` ask for bytes and load the register with the first sixteen of them read
  little-endian; a failed `tryBytes` leaves the register alone;
* `nondet` asks for a value of a machine type and loads the register with its bits;
* `hit` and `hitReg` report a location, the second at `base` plus the register modulo `modulus`
  (or at `base` when the modulus is zero); `init` gives the number of locations;
* `exit`, `abort`, the three panics and `ret` leave the run;
* `branch` compares the register, taken modulo `modulus` when that is positive, with a value and
  runs one of two blocks; `loop` runs a block a number of times.

Every answer the program gets is written to its log: the bytes, the value, the failure, or the
number of bytes left.
-/

namespace VectorCapture

/-- How a branch compares the register with its value. -/
inductive Comparison where
  | eq | ne | lt | ge
  deriving DecidableEq, Repr

/-- Whether `x` stands in the comparison to `v`. -/
def Comparison.holds : Comparison → Nat → Nat → Bool
  | .eq, x, v => x == v
  | .ne, x, v => x != v
  | .lt, x, v => x < v
  | .ge, x, v => v ≤ x

/-- One instruction of a target program. -/
inductive Instr where
  | bytes (size : Nat) (name : String)
  | tryBytes (size : Nat) (name : String)
  | nondet (kind : Kind) (name : String)
  | hit (loc : Nat)
  | hitReg (base modulus : Nat)
  | init (n : Nat)
  | exit (code : Int32)
  | abort
  | panic (message : String)
  | panicStatic
  | panicAny
  | ret (code : Int32)
  | remaining
  | branch (cmp : Comparison) (value modulus : Nat) (yes no : List Instr)
  | loop (count : Nat) (body : List Instr)
  deriving Repr, Inhabited

/-- An entry of a program's log: what one of its requests answered. -/
inductive Note where
  /-- The bytes a request handed over. -/
  | bytes (bs : List UInt8)
  /-- The value a typed request handed over. -/
  | value (kind : Kind) (v : Value)
  /-- Why a request that reports failures failed. -/
  | failed (e : RequestError)
  /-- How many bytes the run could still take. -/
  | remaining (n : Nat)

/-- A target program and the status it returns when it falls off its end. -/
structure Program where
  /-- The instructions. -/
  body : List Instr
  /-- The status returned at the end. -/
  ret : Int32 := 1
  deriving Inhabited

/-- The register after reading `bs`: their first sixteen bytes, little-endian. -/
def loadBytes (bs : List UInt8) : Nat :=
  leNat (bs.take 16)

/-- Runs `body` `count` times, threading the register, then goes on with `k`. -/
def repeatScript (count : Nat) (body : Nat → (Nat → Script Note) → Script Note) :
    Nat → (Nat → Script Note) → Script Note :=
  match count with
  | 0 => fun reg k => k reg
  | n + 1 => fun reg k => body reg (fun reg => repeatScript n body reg k)

mutual

/-- The script of one instruction with register `reg`, going on with `k`. -/
def Instr.script : Instr → Nat → (Nat → Script Note) → Script Note
  | .bytes size name, _, k => .request size name fun bs => .note (.bytes bs) (k (loadBytes bs))
  | .tryBytes size name, reg, k => .tryRequest size name fun
    | .ok bs => .note (.bytes bs) (k (loadBytes bs))
    | .error e => .note (.failed e) (k reg)
  | .nondet kind name, _, k =>
    .request kind.size name fun bs =>
      let v := kind.decode bs
      .note (.value kind v) (k (v.bits kind))
  | .hit loc, reg, k => .hit loc (k reg)
  | .hitReg base modulus, reg, k =>
    .hit (base + if modulus = 0 then 0 else reg % modulus) (k reg)
  | .init n, reg, k => .initCoverage n (k reg)
  | .exit code, _, _ => .exit code
  | .abort, _, _ => .abort
  | .panic message, _, _ => .panic (some message)
  | .panicStatic, _, _ => .panic (some "static panic message")
  | .panicAny, _, _ => .panic none
  | .ret code, _, _ => .finish code
  | .remaining, reg, k => .remaining fun n => .note (.remaining n) (k reg)
  | .branch cmp value modulus yes no, reg, k =>
    let x := if modulus > 0 then reg % modulus else reg
    if cmp.holds x value then Instr.blockScript yes reg k else Instr.blockScript no reg k
  | .loop count body, reg, k => repeatScript count (Instr.blockScript body) reg k

/-- The script of a block of instructions with register `reg`, going on with `k`. -/
def Instr.blockScript : List Instr → Nat → (Nat → Script Note) → Script Note
  | [], reg, k => k reg
  | i :: rest, reg, k => i.script reg fun reg => Instr.blockScript rest reg k

end

/-- The script of a program: its body from a zero register, then its default status. -/
def Program.script (p : Program) : Script Note :=
  Instr.blockScript p.body 0 fun _ => .finish p.ret

end VectorCapture
