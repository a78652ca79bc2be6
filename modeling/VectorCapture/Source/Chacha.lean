/-!
# The ChaCha keystream behind the random byte source

The random byte source reads 32-bit words from a ChaCha stream of eight rounds: a 256-bit key,
a 64-bit block counter that starts at zero, and stream number zero. Each block gives sixteen
words, handed out in order, block after block.

The key is grown from a 64-bit seed by a permuted congruential generator: eight steps of the
generator give the eight key words. So one seed names one stream on every machine.
-/

namespace VectorCapture.Chacha

/-- Rotation of a word to the left; the amount is taken modulo 32. -/
def rotl (x : UInt32) (n : UInt32) : UInt32 :=
  (x <<< n) ||| (x >>> (32 - n))

/-- Rotation of a word to the right; the amount is taken modulo 32. -/
def rotr (x : UInt32) (n : UInt32) : UInt32 :=
  (x >>> n) ||| (x <<< (32 - n))

/-- The quarter round on the words at positions `a`, `b`, `c` and `d` of a block. -/
def quarter (s : Vector UInt32 16) (a b c d : Fin 16) : Vector UInt32 16 :=
  let xa := s[a] + s[b]
  let xd := rotl (s[d] ^^^ xa) 16
  let xc := s[c] + xd
  let xb := rotl (s[b] ^^^ xc) 12
  let xa := xa + xb
  let xd := rotl (xd ^^^ xa) 8
  let xc := xc + xd
  let xb := rotl (xb ^^^ xc) 7
  ((((s.set a xa).set b xb).set c xc).set d xd)

/-- A column round followed by a diagonal round. -/
def doubleRound (s : Vector UInt32 16) : Vector UInt32 16 :=
  let s := quarter s 0 4 8 12
  let s := quarter s 1 5 9 13
  let s := quarter s 2 6 10 14
  let s := quarter s 3 7 11 15
  let s := quarter s 0 5 10 15
  let s := quarter s 1 6 11 12
  let s := quarter s 2 7 8 13
  quarter s 3 4 9 14

/-- The starting block: the four constant words of "expand 32-byte k", the key, the block
counter (low word first) and the stream number zero. -/
def initial (key : Vector UInt32 8) (counter : UInt64) : Vector UInt32 16 :=
  #v[0x61707865, 0x3320646e, 0x79622d32, 0x6b206574,
    key[0], key[1], key[2], key[3], key[4], key[5], key[6], key[7],
    counter.toUInt32, (counter >>> 32).toUInt32, 0, 0]

/-- The sixteen keystream words of one block: four double rounds, then the starting block added
word by word. -/
def block (key : Vector UInt32 8) (counter : UInt64) : Vector UInt32 16 :=
  let start := initial key counter
  let mixed := doubleRound (doubleRound (doubleRound (doubleRound start)))
  Vector.zipWith (· + ·) mixed start

/-! ## Keys from seeds -/

/-- One step of the congruential generator that grows seeds into keys. -/
def pcgStep (state : UInt64) : UInt64 :=
  state * 6364136223846793005 + 11634580027462260723

/-- The output word of a generator state: an xor-shift of the high bits, rotated by the top
five bits. -/
def pcgOutput (state : UInt64) : UInt32 :=
  rotr ((((state >>> 18) ^^^ state) >>> 27).toUInt32) (state >>> 59).toUInt32

/-- The eight outputs of the generator after `state`, each taken after one step. -/
def pcgWords (state : UInt64) : Nat → List UInt32
  | 0 => []
  | n + 1 => pcgOutput (pcgStep state) :: pcgWords (pcgStep state) n

theorem length_pcgWords (state : UInt64) (n : Nat) : (pcgWords state n).length = n := by
  induction n generalizing state with
  | zero => rfl
  | succ n ih => simp [pcgWords, ih]

/-- The key that a seed names. -/
def keyOfSeed (seed : UInt64) : Vector UInt32 8 :=
  ⟨(pcgWords seed 8).toArray, by simp [length_pcgWords]⟩

/-! ## The stream of words -/

/-- A position in the keystream of one seed: the words of the current block not yet handed
out, and the counter of the next block. -/
structure Stream where
  /-- The seed the stream was made from. -/
  seed : UInt64
  /-- The key grown from the seed. -/
  key : Vector UInt32 8
  /-- The counter of the next block to compute. -/
  counter : UInt64
  /-- The words of the current block that are still to come. -/
  pending : List UInt32
  deriving Inhabited

/-- The stream of a seed, at its first word. -/
def Stream.ofSeed (seed : UInt64) : Stream :=
  { seed, key := keyOfSeed seed, counter := 0, pending := [] }

/-- The next word of the stream, and the stream after it. -/
def Stream.next (s : Stream) : UInt32 × Stream :=
  match s.pending with
  | w :: rest => (w, { s with pending := rest })
  | [] =>
    match (block s.key s.counter).toList with
    | w :: rest => (w, { s with counter := s.counter + 1, pending := rest })
    | [] => (0, s)

/-- The next byte of the stream: the low byte of the next word. -/
def Stream.nextByte (s : Stream) : UInt8 × Stream :=
  let (w, s) := s.next
  (w.toUInt8, s)

/-- The next `n` bytes of the stream, in order, and the stream after them. -/
def Stream.bytes (s : Stream) (n : Nat) : List UInt8 × Stream :=
  go s n []
where
  /-- Draws `n` more bytes onto the reversed list `acc`. -/
  go (s : Stream) : Nat → List UInt8 → List UInt8 × Stream
    | 0, acc => (acc.reverse, s)
    | n + 1, acc =>
      let (b, s) := s.nextByte
      go s n (b :: acc)

end VectorCapture.Chacha
