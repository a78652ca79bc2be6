import VectorCapture.Source.Chacha
/-!
# Byte sources

A run reads its input one byte at a time from a byte source. There are two kinds:

* a *random* source, a ChaCha keystream named by a seed, which never runs dry and gives the low
  byte of each word;
* a *replay* source, which hands back a fixed list of bytes in order and then runs dry.

`Source.draw` takes one byte, and `Source.take` the next `n`: it fails once the source runs
dry, and the bytes it drew before that are gone all the same.
-/

namespace VectorCapture

/-- Where the bytes of a run come from. -/
inductive Source where
  /-- The keystream of a seed. -/
  | random (stream : Chacha.Stream)
  /-- The bytes still to be handed back, in order. -/
  | replay (pending : List UInt8)
  deriving Inhabited

namespace Source

/-- The random source of a seed, at its first byte. -/
def ofSeed (seed : UInt64) : Source :=
  .random (Chacha.Stream.ofSeed seed)

/-- The next byte and the source after it, or nothing once the source has run dry. -/
def draw : Source → Option (UInt8 × Source)
  | .random s => let (b, s) := s.nextByte; some (b, .random s)
  | .replay [] => none
  | .replay (b :: rest) => some (b, .replay rest)

/-- The next `n` bytes in draw order, pushed onto the reversed list `acc`, or nothing if the
source runs dry first; either way, the source after the bytes drawn. -/
def takeOnto (acc : List UInt8) : Source → Nat → Option (List UInt8) × Source
  | src, 0 => (some acc.reverse, src)
  | src, n + 1 =>
    match src.draw with
    | some (b, src') => takeOnto (b :: acc) src' n
    | none => (none, src)

/-- The next `n` bytes in draw order, or nothing if the source runs dry first; either way, the
source after the bytes drawn. -/
def take (src : Source) (n : Nat) : Option (List UInt8) × Source :=
  takeOnto [] src n

/-- How many bytes a replay source still holds; a random source holds no count. -/
def remaining? : Source → Option Nat
  | .random _ => none
  | .replay pending => some pending.length

/-- The seed of a random source. -/
def seed? : Source → Option UInt64
  | .random s => some s.seed
  | .replay _ => none

end Source

end VectorCapture
