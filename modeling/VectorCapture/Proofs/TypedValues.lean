import Mathlib
import VectorCapture.Proofs.Requests

/-! # Typed values and their hexadecimal text

    A value asked for by type is its bytes read little-endian, and the text a vector keeps of a
    field is its bytes most significant first, in hexadecimal. Both are one number: the sum of
    the bytes at their places, `∑ i, bs[i] * 256 ^ i` (`leSum`).

    * `leNat`, which the reader of typed values uses, is that sum (`leNat_eq_leSum`), and it
      stays below `2 ^ (8 * bs.length)` (`leNat_lt`);
    * `Kind.Represents k v bs` says, kind by kind, what it is for `bs` to be the little-endian
      bytes of a value `v` of kind `k`; a signed kind holds the one integer of its range
      congruent to the sum (`twos_complement`, `eq_of_twos_complement`), and `Kind.decode` gives
      the one value represented (`Kind.represents_decode`, `Kind.eq_decode_of_represents`);
    * the value of a field is `2 * n` lower-case digits that read in base sixteen as the sum of
      its `n` bytes (`Field.value_reads`), through the nibbles of each byte
      (`Hex.encodeChars_eq_map`, `Hex.ofDigits_nibbles`);
    * a value asked for by type is read from the bytes its request records (`Run.nondet_ok`),
      which gives the main statement, `typed_value_matches_hex`. -/

namespace VectorCapture

/-- The number that bytes spell least significant first: byte `i` counts `256 ^ i` times. -/
def leSum (bs : List UInt8) : Nat :=
  ∑ i : Fin bs.length, bs[i].toNat * 256 ^ (i : Nat)

/-- `cs` are lower-case hexadecimal digits, most significant first, that read as `n`. -/
def HexReads (cs : List Char) (n : Nat) : Prop :=
  ∃ ds : List Nat, (∀ d ∈ ds, d < 16) ∧ cs = ds.map Nat.digitChar ∧ Nat.ofDigits 16 ds.reverse = n

/-- `bs` are the little-endian bytes of `v` as a value of kind `k`: as many bytes as the kind is
wide, which spell an unsigned integer or a floating-point bit pattern equal to `v`, or, for a
signed kind, a number whose two's complement is `v`, the one integer of the kind's range
congruent to it; a truth value is one byte, true when the byte is non-zero. -/
def Kind.Represents (k : Kind) (v : Value) (bs : List UInt8) : Prop :=
  bs.length = k.size ∧
    match k, v with
    | .u8, .nat n | .u16, .nat n | .u32, .nat n | .u64, .nat n | .u128, .nat n
    | .usize, .nat n => n = leSum bs
    | .i8, .int i | .i16, .int i | .i32, .int i | .i64, .int i | .i128, .int i
    | .isize, .int i =>
      -2 ^ (8 * k.size - 1) ≤ i ∧ i < 2 ^ (8 * k.size - 1) ∧ i ≡ leSum bs [ZMOD 2 ^ (8 * k.size)]
    | .f32, .float32 b | .f64, .float64 b => b = leSum bs
    | .bool, .bool b => (b = true ↔ bs ≠ [0])
    | _, _ => False

/-! ## The number bytes spell -/

@[simp] theorem leSum_cons (b : UInt8) (bs : List UInt8) :
    leSum (b :: bs) = b.toNat + 256 * leSum bs := by
  simp only [leSum, List.length_cons, Fin.sum_univ_succ, Fin.getElem_fin, Fin.val_zero,
    pow_zero, mul_one, Fin.val_succ, List.getElem_cons_zero, List.getElem_cons_succ,
    Finset.mul_sum, pow_succ]
  congr 1
  refine Finset.sum_congr rfl fun i _ => ?_
  ring

theorem leNat_eq_leSum (bs : List UInt8) : leNat bs = leSum bs := by
  induction bs with
  | nil => rfl
  | cons b bs ih => rw [leNat, leSum_cons, ih]

theorem leNat_lt (bs : List UInt8) : leNat bs < 2 ^ (8 * bs.length) := by
  induction bs with
  | nil => simp [leNat]
  | cons b bs ih =>
    have hb := b.toNat_lt
    have hpow : 2 ^ (8 * (bs.length + 1)) = 256 * 2 ^ (8 * bs.length) := by
      rw [Nat.mul_succ, Nat.pow_add, Nat.mul_comm]
    rw [leNat, List.length_cons, hpow]
    omega

/-! ## Two's complement -/

/-- Read in two's complement, a number below `2 ^ w` is the integer of
`[-2 ^ (w - 1), 2 ^ (w - 1))` congruent to it modulo `2 ^ w`. -/
theorem twos_complement {w n : Nat} {i : Int} (hw : 0 < w) (hn : n < 2 ^ w)
    (hi : i = if n < 2 ^ (w - 1) then (n : Int) else n - 2 ^ w) :
    -2 ^ (w - 1) ≤ i ∧ i < 2 ^ (w - 1) ∧ i ≡ n [ZMOD 2 ^ w] := by
  have hpow : (2 : Int) ^ w = 2 ^ (w - 1) + 2 ^ (w - 1) := by
    exact_mod_cast (Nat.two_pow_pred_add_two_pow_pred hw).symm
  have hn' : (n : Int) < 2 ^ w := by exact_mod_cast hn
  subst hi
  split_ifs with hlow
  · have : (n : Int) < 2 ^ (w - 1) := by exact_mod_cast hlow
    exact ⟨by omega, this, Int.ModEq.refl _⟩
  · have : (2 : Int) ^ (w - 1) ≤ n := by exact_mod_cast Nat.le_of_not_lt hlow
    exact ⟨by omega, by omega, Int.sub_modulus_modEq_iff.mpr (Int.ModEq.refl _)⟩

/-- Two integers of `[-2 ^ (w - 1), 2 ^ (w - 1))` congruent modulo `2 ^ w` are equal. -/
theorem eq_of_twos_complement {w : Nat} {i j : Int} (hw : 0 < w)
    (hi : -2 ^ (w - 1) ≤ i ∧ i < 2 ^ (w - 1)) (hj : -2 ^ (w - 1) ≤ j ∧ j < 2 ^ (w - 1))
    (hij : i ≡ j [ZMOD 2 ^ w]) : i = j := by
  have hpow : (2 : Int) ^ w = 2 ^ (w - 1) + 2 ^ (w - 1) := by
    exact_mod_cast (Nat.two_pow_pred_add_two_pow_pred hw).symm
  have hdiff : |j - i| < 2 ^ w := by
    rw [abs_sub_lt_iff, hpow]
    omega
  have := Int.eq_zero_of_abs_lt_dvd hij.dvd hdiff
  omega

/-! ## The value a kind reads -/

namespace Kind

/-- The value `decode` gives is one whose little-endian bytes are the bytes read. -/
theorem represents_decode {k : Kind} {bs : List UInt8} (hlen : bs.length = k.size) :
    k.Represents (k.decode bs) bs := by
  have hlt : leNat bs < 2 ^ (8 * k.size) := hlen ▸ leNat_lt bs
  refine ⟨hlen, ?_⟩
  cases k
  case u8 | u16 | u32 | u64 | u128 | usize => exact leNat_eq_leSum bs
  case i8 | i16 | i32 | i64 | i128 | isize =>
    rw [← leNat_eq_leSum]
    exact twos_complement (by decide) hlt rfl
  case f32 | f64 => exact leNat_eq_leSum bs
  case bool =>
    obtain ⟨x, rfl⟩ := List.length_eq_one_iff.mp hlen
    show [x].any (· != 0) = true ↔ [x] ≠ [0]
    simp

/-- The value `decode` gives is the only one whose little-endian bytes are the bytes read. -/
theorem eq_decode_of_represents {k : Kind} {v : Value} {bs : List UInt8}
    (h : k.Represents v bs) : v = k.decode bs := by
  obtain ⟨hlen, hv⟩ := h
  have hdecode := (represents_decode hlen).2
  cases k <;> cases v
  case u8.nat | u16.nat | u32.nat | u64.nat | u128.nat | usize.nat | f32.float32 | f64.float64 =>
    exact congrArg _ (hv.trans (leNat_eq_leSum bs).symm)
  case i8.int | i16.int | i32.int | i64.int | i128.int | isize.int =>
    exact congrArg _ (eq_of_twos_complement (by decide) ⟨hv.1, hv.2.1⟩ ⟨hdecode.1, hdecode.2.1⟩
      (hv.2.2.trans hdecode.2.2.symm))
  case bool.bool b =>
    exact congrArg _ (Bool.eq_iff_iff.mpr (hv.trans hdecode.symm))
  -- every other pairing of a kind with a value represents nothing
  all_goals exact hv.elim

/-- Outside truth values, the bits of the value `decode` gives are the number its bytes spell. -/
theorem bits_decode {k : Kind} {bs : List UInt8} (hk : k ≠ .bool) (hlen : bs.length = k.size) :
    (k.decode bs).bits k = leSum bs := by
  have hdecode := (represents_decode hlen).2
  have hlt : leSum bs < 2 ^ (8 * k.size) := hlen ▸ leNat_eq_leSum bs ▸ leNat_lt bs
  cases k
  case u8 | u16 | u32 | u64 | u128 | usize | f32 | f64 => exact leNat_eq_leSum bs
  case i8 | i16 | i32 | i64 | i128 | isize =>
    -- the two's complement is congruent to the spelled number, which is already reduced
    show (_ % (2 : Int) ^ _).toNat = _
    rw [hdecode.2.2.eq, Int.emod_eq_of_lt (by positivity) (by exact_mod_cast hlt),
      Int.toNat_natCast]
  case bool => exact absurd rfl hk

end Kind

/-! ## The hexadecimal text of a field -/

namespace Hex

/-- The two hexadecimal digits of a byte as numbers, the high one first. -/
def nibbles (b : UInt8) : List Nat :=
  [b.toNat / 16, b.toNat % 16]

theorem nibble_lt {b : UInt8} {d : Nat} (h : d ∈ nibbles b) : d < 16 := by
  have hb := b.toNat_lt
  simp only [nibbles, List.mem_cons, List.not_mem_nil, or_false] at h
  omega

/-- Below sixteen, a digit is written as the standard library writes it. -/
theorem hexDigit_eq_digitChar : ∀ d : Fin 16, Text.hexDigit d = Nat.digitChar d := by
  decide

/-- The digits of a byte string are the characters of the nibbles of its bytes. -/
theorem encodeChars_eq_map (bs : List UInt8) :
    encodeChars bs = (bs.flatMap nibbles).map Nat.digitChar := by
  induction bs with
  | nil => rfl
  | cons b bs ih =>
    have hb := b.toNat_lt
    rw [encodeChars, List.flatMap_cons, ← encodeChars, ih, List.flatMap_cons, List.map_append]
    simp only [byteDigits, nibbles, List.map_cons, List.map_nil, List.cons_append,
      List.nil_append, hexDigit_eq_digitChar ⟨b.toNat / 16, by omega⟩,
      hexDigit_eq_digitChar ⟨b.toNat % 16, by omega⟩]

/-- Nibbles taken least significant first read in base sixteen as the bytes do in base 256. -/
theorem ofDigits_nibbles (bs : List UInt8) :
    Nat.ofDigits 16 (bs.flatMap fun b => (nibbles b).reverse) = leNat bs := by
  induction bs with
  | nil => rfl
  | cons b bs ih =>
    have hlow : Nat.ofDigits 16 (nibbles b).reverse = b.toNat := by
      simp only [nibbles, List.reverse_cons, List.reverse_nil, List.nil_append, List.cons_append,
        Nat.ofDigits_cons, Nat.ofDigits_nil]
      omega
    have hplace : 16 ^ (nibbles b).reverse.length = 256 := rfl
    rw [List.flatMap_cons, Nat.ofDigits_append, hlow, hplace, ih, leNat]

end Hex

/-- The value of a field is `2 * n` lower-case hexadecimal digits, most significant first, that
read as the number its `n` bytes spell least significant first. -/
theorem Field.value_reads (f : Field) :
    f.value.length = 2 * f.bytes.length ∧ HexReads f.value.toList (leSum f.bytes) := by
  have hchars : f.value.toList = (f.bytes.reverse.flatMap Hex.nibbles).map Nat.digitChar := by
    rw [Field.value, Hex.encode, String.toList_ofList, Hex.encodeChars_eq_map]
  have hlen : (f.bytes.reverse.flatMap Hex.nibbles).length = 2 * f.bytes.length := by
    simp [List.length_flatMap, Hex.nibbles, List.sum_replicate, Nat.mul_comm]
  refine ⟨?_, f.bytes.reverse.flatMap Hex.nibbles, ?_, hchars, ?_⟩
  · rw [← String.length_toList, hchars, List.length_map, hlen]
  · intro d hd
    obtain ⟨b, -, hb⟩ := List.mem_flatMap.mp hd
    exact Hex.nibble_lt hb
  · -- reversed, the digits are the nibbles of the bytes in draw order, low nibble first
    rw [List.reverse_flatMap, List.reverse_reverse, ← leNat_eq_leSum]
    exact Hex.ofDigits_nibbles f.bytes

example : (Field.mk "x" [0x78, 0x56, 0x34, 0x12]).value = "12345678" := by decide

/-! ## Values asked for by type -/

/-- A value asked for by type is read from the bytes its request records, as many as the kind is
wide. -/
theorem Run.nondet_ok {r r' : Run} {k : Kind} {name : String} {v : Value}
    (h : r.nondet k name = (.ok v, r')) :
    ∃ bs, bs.length = k.size ∧ r'.record.fields = r.record.fields.push ⟨name, bs⟩ ∧
      v = k.decode bs := by
  rcases Run.tryRequest_cases r k.size name with
    ⟨-, heq⟩ | ⟨bs, src, -, htake, heq⟩ | ⟨src, -, -, heq⟩ <;>
    simp only [Run.nondet, Run.request_eq, heq, Except.mapError, Except.map, Prod.mk.injEq,
      reduceCtorEq, false_and] at h
  -- only a request that hands over its bytes gives a value
  obtain ⟨hv, rfl⟩ := h
  exact ⟨bs, Source.length_of_take htake, rfl, (Except.ok.inj hv).symm⟩

/-- **Typed values match their hexadecimal text.**

* The value of every field is `2 * n` lower-case hexadecimal digits, most significant first,
  that read as the number `∑ i, bytes[i] * 256 ^ i` its `n` bytes spell.
* A value asked for by type, whatever the bytes of the source, is the one value of its kind
  whose little-endian bytes are those recorded under its name; for a truth value, it is true
  exactly when the byte is non-zero.
* So the text of that field reads as the value's bit pattern, two's complement for a signed
  integer. -/
theorem typed_value_matches_hex :
    (∀ f : Field, f.value.length = 2 * f.bytes.length ∧ HexReads f.value.toList (leSum f.bytes)) ∧
    ∀ (r : Run) (k : Kind) (name : String) (v : Value) (r' : Run),
      r.nondet k name = (.ok v, r') →
      ∃ bs, r'.record.fields = r.record.fields.push ⟨name, bs⟩ ∧
        (∀ w, k.Represents w bs ↔ w = v) ∧
        (k ≠ .bool → HexReads (Field.mk name bs).value.toList (v.bits k)) := by
  refine ⟨Field.value_reads, fun r k name v r' h => ?_⟩
  obtain ⟨bs, hlen, hfields, rfl⟩ := Run.nondet_ok h
  refine ⟨bs, hfields, fun w => ⟨Kind.eq_decode_of_represents, ?_⟩, fun hk => ?_⟩
  · rintro rfl
    exact Kind.represents_decode hlen
  · rw [Kind.bits_decode hk hlen]
    exact (Field.value_reads ⟨name, bs⟩).2

/-- A signed value asked for from a replay source: the bytes `34 92` give `-28108`, and the text
of their field reads as its two's complement `0x9234`. -/
theorem nondet_i16_from_replay :
    let r : Run := ⟨Record.new 0, .replay [0x34, 0x92, 0x01], Coverage.empty, 64⟩
    let r' : Run :=
      { r with source := .replay [0x01], record := r.record.push ⟨"y", [0x34, 0x92]⟩ }
    r.nondet .i16 "y" = (.ok (.int (-28108)), r') ∧
      ∃ bs, r'.record.fields = r.record.fields.push ⟨"y", bs⟩ ∧
        (∀ w, Kind.i16.Represents w bs ↔ w = .int (-28108)) ∧
        (Kind.i16 ≠ .bool →
          HexReads (Field.mk "y" bs).value.toList ((Value.int (-28108)).bits .i16)) := by
  intro r r'
  have hasked : r.nondet .i16 "y" = (.ok (.int (-28108)), r') := rfl
  exact ⟨hasked, typed_value_matches_hex.2 r .i16 "y" _ r' hasked⟩

end VectorCapture
