import VectorCapture.Proofs.VectorText

/-! # The grammar of a vector's text

    Reading a vector accepts exactly the texts whose every line conforms: a line is blank once
    trimmed, or, trimmed, it is a name, a colon, and a value with no colon in it, whose trim is
    `0x` and an even number of hexadecimal digits of either case. The fields are those of the
    lines that are not blank, in order, and a text that fails is refused for its first line that
    does not conform, numbered among all lines. The route:

    * digits: a byte is a digit exactly when the hexadecimal reader gives it a value, and the
      value written back is the digit in lower case (`Hex.digitValue_facts`); the reader refuses
      an odd number of bytes first and then the first byte that is no digit, and otherwise reads
      the bytes whose text is the digits in lower case (`Hex.decode_error_iff`,
      `Hex.decode_utf8_iff`);
    * one line: splitting at the last colon and stripping `0x` are taken apart once, so a line
      is read as a field exactly when it holds it, and refused exactly as the grammar says
      (`TestVector.parseLine_ok_iff`, `TestVector.parseLine_error_iff`);
    * the text: the lines are read in order, and the first refusal ends the reading
      (`TestVector.parseLines_ok_iff`, `TestVector.parseLines_error_iff`).

    The last section states the whole grammar (`TestVector.parse_grammar`). -/

namespace VectorCapture

open Text

namespace Hex

/-! ## Digits as characters and as bytes -/

/-- Whether a character is a hexadecimal digit, of either case. -/
def isHexChar (c : Char) : Bool :=
  ('0' ≤ c && c ≤ '9') || ('a' ≤ c && c ≤ 'f') || ('A' ≤ c && c ≤ 'F')

/-- Whether a byte, read as the character of the same number, is a hexadecimal digit. -/
def isHexByte (b : UInt8) : Bool :=
  isHexChar (Char.ofNat b.toNat)

theorem isHexChar_iff (c : Char) : isHexChar c = true ↔
    (48 ≤ c.toNat ∧ c.toNat ≤ 57) ∨ (97 ≤ c.toNat ∧ c.toNat ≤ 102) ∨ (65 ≤ c.toNat ∧ c.toNat ≤ 70) := by
  simp only [isHexChar, Bool.or_eq_true, Bool.and_eq_true, decide_eq_true_eq, Char.le_def,
    UInt32.le_iff_toNat_le, Char.toNat_val]
  have : ('0' : Char).toNat = 48 ∧ ('9' : Char).toNat = 57 ∧ ('a' : Char).toNat = 97 ∧
      ('f' : Char).toNat = 102 ∧ ('A' : Char).toNat = 65 ∧ ('F' : Char).toNat = 70 := by decide
  omega

theorem toNat_ofNat_byte (b : UInt8) : (Char.ofNat b.toNat).toNat = b.toNat := by
  have := b.toNat_lt
  rw [Char.toNat_ofNat, if_pos (Or.inl (by omega))]

theorem toNat_toLower (c : Char) :
    c.toLower.toNat = if 65 ≤ c.toNat ∧ c.toNat ≤ 90 then c.toNat + 32 else c.toNat := by
  unfold Char.toLower
  have : ('A' : Char).toNat = 65 ∧ ('Z' : Char).toNat = 90 ∧
      (('a' : Char).val - ('A' : Char).val).toNat = 32 := by decide
  split
  · next h =>
      simp only [UInt32.le_iff_toNat_le, Char.toNat_val, ge_iff_le] at h
      rw [if_pos (by omega)]
      simp only [Char.toNat_mk, UInt32.toNat_add, Char.toNat_val]
      omega
  · next h =>
      simp only [UInt32.le_iff_toNat_le, Char.toNat_val, ge_iff_le] at h
      rw [if_neg (by omega)]

theorem toNat_hexDigit {n : Nat} (h : n < 16) :
    (hexDigit n).toNat = if n < 10 then 48 + n else 87 + n := by
  unfold hexDigit
  split <;> rw [Char.toNat_ofNat, if_pos (Or.inl (by omega))]

/-- A byte is a digit exactly when the reader gives it a value; that value is below sixteen,
and written back as a digit it is the byte's character in lower case. -/
theorem digitValue_facts (b : UInt8) :
    (digitValue? b).isSome = isHexByte b ∧
      ∀ v ∈ digitValue? b, v.toNat < 16 ∧ hexDigit v.toNat = (Char.ofNat b.toNat).toLower := by
  have hb := toNat_ofNat_byte b
  have hlt := b.toNat_lt
  have hhex := isHexChar_iff (Char.ofNat b.toNat)
  rw [hb] at hhex
  -- the value of a digit is the byte less the start of its range, and written back it is the
  -- digit in lower case when their numbers agree
  have hvalue : ∀ k : UInt8, k.toNat ≤ b.toNat → b.toNat - k.toNat < 16 →
      (if b.toNat - k.toNat < 10 then 48 + (b.toNat - k.toNat) else 87 + (b.toNat - k.toNat)) =
        (if 65 ≤ b.toNat ∧ b.toNat ≤ 90 then b.toNat + 32 else b.toNat) →
      (b - k).toNat < 16 ∧ hexDigit (b - k).toNat = (Char.ofNat b.toNat).toLower := by
    intro k hk hlt heq
    have hsub : (b - k).toNat = b.toNat - k.toNat :=
      UInt8.toNat_sub_of_le _ _ (UInt8.le_iff_toNat_le.mpr hk)
    refine ⟨hsub ▸ hlt, Char.toNat_inj.mp ?_⟩
    rw [hsub, toNat_hexDigit hlt, toNat_toLower, hb, heq]
  unfold digitValue? isHexByte
  simp only [UInt8.le_iff_toNat_le, UInt8.reduceToNat]
  split
  · next h =>
      refine ⟨by simpa using (hhex.mpr (by omega)).symm, fun v hv => ?_⟩
      obtain rfl : b - 48 = v := Option.some.inj hv
      exact hvalue 48 h.1 (by simp only [UInt8.reduceToNat]; omega) (by simp only [UInt8.reduceToNat]; split <;> split <;> omega)
  · split
    · next h' h =>
        refine ⟨by simpa using (hhex.mpr (by omega)).symm, fun v hv => ?_⟩
        obtain rfl : b - 87 = v := Option.some.inj hv
        exact hvalue 87 (by simp only [UInt8.reduceToNat]; omega) (by simp only [UInt8.reduceToNat]; omega) (by simp only [UInt8.reduceToNat]; split <;> split <;> omega)
    · split
      · next h'' h' h =>
          refine ⟨by simpa using (hhex.mpr (by omega)).symm, fun v hv => ?_⟩
          obtain rfl : b - 55 = v := Option.some.inj hv
          exact hvalue 55 (by simp only [UInt8.reduceToNat]; omega) (by simp only [UInt8.reduceToNat]; omega) (by simp only [UInt8.reduceToNat]; split <;> split <;> omega)
      · next h'' h' h =>
          refine ⟨Eq.symm (Bool.eq_false_iff.mpr fun hx => ?_), fun v hv => by cases hv⟩
          have := hhex.mp hx
          omega

theorem digitValue_eq_none_iff (b : UInt8) : digitValue? b = none ↔ isHexByte b = false := by
  rw [← (digitValue_facts b).1]
  cases digitValue? b <;> simp

theorem isHexByte_of_digitValue {b v : UInt8} (h : digitValue? b = some v) : isHexByte b = true := by
  rw [← (digitValue_facts b).1, h]
  rfl

theorem exists_digitValue {b : UInt8} (h : isHexByte b = true) : ∃ v, digitValue? b = some v := by
  rw [← (digitValue_facts b).1] at h
  exact Option.isSome_iff_exists.mp h

/-! ## Reading bytes -/

/-- The reason the reader refuses a digit string: an odd number of bytes, first; else the first
byte that is no digit, with its position. -/
def Refuses (ds : List UInt8) : DecodeError → Prop
  | .oddLength => ds.length % 2 = 1
  | .invalidChar b i => ds.length % 2 = 0 ∧
      ∃ pre post, ds = pre ++ b :: post ∧ i = pre.length ∧ (∀ x ∈ pre, isHexByte x = true) ∧
        isHexByte b = false

/-- A refusal of the pairs reader names a byte that is no digit, after digits only. -/
theorem decodePairs_error {i : Nat} {acc ds : List UInt8} {r : DecodeError}
    (h : decodePairs i acc ds = .error r) :
    ∃ pre b post, ds = pre ++ b :: post ∧ r = .invalidChar b (i + pre.length) ∧
      (∀ x ∈ pre, isHexByte x = true) ∧ isHexByte b = false := by
  fun_induction decodePairs i acc ds with
  | case1 i acc hi lo rest vh vl hl hh ih =>
      obtain ⟨pre, b, post, rfl, rfl, hpre, hb⟩ := ih h
      refine ⟨hi :: lo :: pre, b, post, rfl, by simp; omega, ?_, hb⟩
      intro x hx
      simp only [List.mem_cons] at hx
      rcases hx with rfl | rfl | hx
      · exact isHexByte_of_digitValue hh
      · exact isHexByte_of_digitValue hl
      · exact hpre x hx
  | case2 i acc hi lo rest hh =>
      cases h
      exact ⟨[], hi, lo :: rest, rfl, by simp, by simp, (digitValue_eq_none_iff hi).mp hh⟩
  | case3 i acc hi lo rest vh hlo hhi =>
      cases h
      exact ⟨[hi], lo, rest, rfl, rfl, by simpa using isHexByte_of_digitValue hhi,
        (digitValue_eq_none_iff lo).mp hlo⟩
  | case4 ds i acc hpairs => cases h

/-- An even run of bytes with a first byte that is no digit is refused for that byte, at its
position. -/
theorem decodePairs_of_invalid {b : UInt8} {post : List UInt8} (hb : isHexByte b = false) :
    ∀ {i : Nat} {acc pre : List UInt8}, (pre ++ b :: post).length % 2 = 0 →
      (∀ x ∈ pre, isHexByte x = true) →
      decodePairs i acc (pre ++ b :: post) = .error (.invalidChar b (i + pre.length))
  | i, acc, [], heven, _ => by
      have hnone := (digitValue_eq_none_iff b).mpr hb
      cases post with
      | nil => simp at heven
      | cons lo rest => simp [decodePairs, hnone]
  | i, acc, [x], _, hpre => by
      obtain ⟨v, hv⟩ := exists_digitValue (hpre x (List.mem_singleton_self x))
      simp [decodePairs, hv, (digitValue_eq_none_iff b).mpr hb]
  | i, acc, x :: y :: pre, heven, hpre => by
      obtain ⟨vx, hvx⟩ := exists_digitValue (hpre x (by simp))
      obtain ⟨vy, hvy⟩ := exists_digitValue (hpre y (by simp))
      have hrest := @decodePairs_of_invalid b post hb (i + 2) ((vx * 16 + vy) :: acc) pre
        (by simp only [List.cons_append, List.length_cons] at heven; omega)
        (fun z hz => hpre z (by simp [hz]))
      simp only [List.cons_append, decodePairs, hvx, hvy, hrest, List.length_cons]
      rw [show i + 2 + pre.length = i + (pre.length + 1 + 1) by omega]

/-- A byte read as a character, in lower case. -/
def lowerChar (x : UInt8) : Char :=
  (Char.ofNat x.toNat).toLower

/-- A byte written as two digits is the pair of its digit values. -/
theorem byteDigits_pair {h l : UInt8} (hh : h.toNat < 16) (hl : l.toNat < 16) :
    byteDigits (h * 16 + l) = [hexDigit h.toNat, hexDigit l.toNat] := by
  have hval : (h * 16 + l).toNat = h.toNat * 16 + l.toNat := by
    simp only [UInt8.toNat_add, UInt8.toNat_mul, UInt8.reduceToNat]
    omega
  simp only [byteDigits, hval]
  congr 3 <;> omega

/-- What the pairs reader gives from an even run of bytes: all of them are digits, and the
bytes it reads are those whose text is the digits in lower case. -/
theorem decodePairs_ok {i : Nat} {acc ds bs : List UInt8} (heven : ds.length % 2 = 0)
    (h : decodePairs i acc ds = .ok bs) :
    (∀ x ∈ ds, isHexByte x = true) ∧
      ∃ gs, bs = acc.reverse ++ gs ∧ encodeChars gs = ds.map lowerChar := by
  fun_induction decodePairs i acc ds with
  | case1 i acc hi lo rest vh vl hl hh ih =>
      obtain ⟨hrest, gs, rfl, hgs⟩ := ih (by simp at heven; omega) h
      obtain ⟨hvh, hdh⟩ := (digitValue_facts hi).2 vh hh
      obtain ⟨hvl, hdl⟩ := (digitValue_facts lo).2 vl hl
      refine ⟨?_, (vh * 16 + vl) :: gs, by simp, ?_⟩
      · intro x hx
        simp only [List.mem_cons] at hx
        rcases hx with rfl | rfl | hx
        · exact isHexByte_of_digitValue hh
        · exact isHexByte_of_digitValue hl
        · exact hrest x hx
      · rw [encodeChars, List.flatMap_cons, byteDigits_pair hvh hvl, ← encodeChars, hgs, hdh, hdl]
        rfl
  | case2 => cases h
  | case3 => cases h
  | case4 ds i acc hpairs =>
      cases h
      -- an even run that is no pair is empty
      rcases ds with _ | ⟨x, _ | ⟨y, rest⟩⟩
      · exact ⟨by simp, [], by simp, rfl⟩
      · simp at heven
      · exact absurd rfl (hpairs _ _ _)

/-- **The reader's refusals.** A digit string is refused for an odd number of bytes first, and
otherwise for the first byte that is no digit, at its position. -/
theorem decode_error_iff (ds : List UInt8) (r : DecodeError) : decode ds = .error r ↔ Refuses ds r := by
  constructor
  · intro h
    unfold decode at h
    split at h
    · next hodd =>
        cases h
        exact hodd
    · next heven =>
        obtain ⟨pre, b, post, rfl, rfl, hpre, hb⟩ := decodePairs_error h
        exact ⟨by omega, pre, post, rfl, by simp, hpre, hb⟩
  · intro h
    cases r with
    | oddLength => simp [decode, show ds.length % 2 = 1 from h]
    | invalidChar b i =>
        obtain ⟨heven, pre, post, rfl, rfl, hpre, hb⟩ := h
        rw [decode, if_neg (by omega), decodePairs_of_invalid hb heven hpre, Nat.zero_add]

/-- A digit string the reader accepts has an even number of bytes, all digits, and reads as the
bytes whose text is the digits in lower case. -/
theorem decode_ok {ds bs : List UInt8} (h : decode ds = .ok bs) :
    ds.length % 2 = 0 ∧ (∀ x ∈ ds, isHexByte x = true) ∧ encodeChars bs = ds.map lowerChar := by
  unfold decode at h
  split at h
  · cases h
  · next hodd =>
      have heven : ds.length % 2 = 0 := by omega
      obtain ⟨hall, gs, rfl, hgs⟩ := decodePairs_ok heven h
      exact ⟨heven, hall, by simpa using hgs⟩

/-- An even run of digits is accepted. -/
theorem decode_ok_of_digits {ds : List UInt8} (heven : ds.length % 2 = 0)
    (hall : ∀ x ∈ ds, isHexByte x = true) : ∃ bs, decode ds = .ok bs := by
  cases h : decode ds with
  | ok bs => exact ⟨bs, rfl⟩
  | error r =>
      cases r with
      | oddLength =>
          have := (decode_error_iff ds _).mp h
          simp only [Refuses] at this
          omega
      | invalidChar b i =>
          obtain ⟨-, pre, post, rfl, -, -, hb⟩ := (decode_error_iff _ _).mp h
          rw [hall b (by simp)] at hb
          cases hb

/-- The text of a byte string determines it. -/
theorem encodeChars_inj {bs bs' : List UInt8} (h : encodeChars bs = encodeChars bs') : bs = bs' := by
  have hdec := decode_encodeChars bs
  rw [h, decode_encodeChars bs'] at hdec
  exact (Except.ok.inj hdec).symm

theorem length_encodeChars_chars (bs : List UInt8) : (encodeChars bs).length = 2 * bs.length := by
  induction bs with
  | nil => rfl
  | cons b rest ih =>
      simp only [encodeChars, List.flatMap_cons, List.length_append, byteDigits] at ih ⊢
      simp only [List.length_cons, List.length_nil] at ih ⊢
      omega

/-! ## Digits as the characters of a text -/

/-- A digit is one byte of UTF-8: its own number, a digit byte, read back as itself. -/
theorem utf8EncodeChar_of_hex {c : Char} (h : isHexChar c = true) :
    String.utf8EncodeChar c = [UInt8.ofNat c.toNat] ∧ isHexByte (UInt8.ofNat c.toNat) = true ∧
      lowerChar (UInt8.ofNat c.toNat) = c.toLower := by
  have hrange := (isHexChar_iff c).mp h
  have hsmall : c.toNat < 128 := by omega
  have hback : Char.ofNat (UInt8.ofNat c.toNat).toNat = c := by
    rw [UInt8.toNat_ofNat', Nat.mod_eq_of_lt (by omega), Char.ofNat_toNat]
  refine ⟨?_, by rw [isHexByte, hback]; exact h, by rw [lowerChar, hback]⟩
  simp only [String.utf8EncodeChar, Char.toNat_val]
  rw [if_pos (by omega)]

/-- A character whose UTF-8 bytes are all digits is a digit: any other character either is its
own byte, no digit, or starts with a byte of 192 or more. -/
theorem hex_of_utf8EncodeChar {c : Char} (h : ∀ x ∈ String.utf8EncodeChar c, isHexByte x = true) :
    isHexChar c = true := by
  have hbyte : ∀ n, 192 ≤ n → n < 256 → isHexByte (UInt8.ofNat n) = false := by
    intro n hlo hhi
    apply Bool.eq_false_iff.mpr
    intro hx
    have := (isHexChar_iff _).mp hx
    rw [toNat_ofNat_byte, UInt8.toNat_ofNat', Nat.mod_eq_of_lt hhi] at this
    omega
  unfold String.utf8EncodeChar at h
  simp only [Char.toNat_val] at h
  split at h
  · next hsmall =>
      have hx := h _ (List.mem_singleton_self _)
      rwa [isHexByte, UInt8.toNat_ofNat', Nat.mod_eq_of_lt (by omega), Char.ofNat_toNat] at hx
  · -- every longer encoding starts with a byte of 192 or more
    split at h
    · exact absurd (h _ List.mem_cons_self) (by rw [hbyte _ (by omega) (by omega)]; decide)
    · split at h
      · exact absurd (h _ List.mem_cons_self) (by rw [hbyte _ (by omega) (by omega)]; decide)
      · exact absurd (h _ List.mem_cons_self) (by rw [hbyte _ (by omega) (by omega)]; decide)

/-- Digits are written in UTF-8 one byte each. -/
theorem utf8_of_hex {digits : List Char} (h : ∀ c ∈ digits, isHexChar c = true) :
    TestVector.utf8 digits = digits.map (fun c => UInt8.ofNat c.toNat) := by
  rw [TestVector.utf8_eq]
  induction digits with
  | nil => rfl
  | cons c rest ih =>
      rw [List.flatMap_cons, (utf8EncodeChar_of_hex (h c (by simp))).1,
        ih (fun c' hc' => h c' (by simp [hc']))]
      rfl

/-- **Reading the digits of a line.** The UTF-8 bytes of a digit string are accepted exactly as
the bytes whose text is the digits in lower case. -/
theorem decode_utf8_ok {digits : List Char} {bytes : List UInt8}
    (h : decode (TestVector.utf8 digits) = .ok bytes) :
    (∀ c ∈ digits, isHexChar c = true) ∧ encodeChars bytes = digits.map Char.toLower := by
  obtain ⟨-, hall, henc⟩ := decode_ok h
  have hhex : ∀ c ∈ digits, isHexChar c = true := by
    intro c hc
    apply hex_of_utf8EncodeChar
    intro x hx
    apply hall
    rw [TestVector.utf8_eq]
    exact List.mem_flatMap.mpr ⟨c, hc, hx⟩
  refine ⟨hhex, ?_⟩
  rw [henc, utf8_of_hex hhex, List.map_map]
  apply List.map_congr_left
  intro c hc
  exact (utf8EncodeChar_of_hex (hhex c hc)).2.2

/-- The UTF-8 bytes of an even number of digits are accepted. -/
theorem decode_utf8_of_digits {digits : List Char} (heven : digits.length % 2 = 0)
    (hhex : ∀ c ∈ digits, isHexChar c = true) : ∃ bytes, decode (TestVector.utf8 digits) = .ok bytes := by
  have hbytes := utf8_of_hex hhex
  apply decode_ok_of_digits
  · rw [hbytes, List.length_map]
    exact heven
  · rw [hbytes]
    intro x hx
    obtain ⟨c, hc, rfl⟩ := List.mem_map.mp hx
    exact (utf8EncodeChar_of_hex (hhex c hc)).2.1

/-- A text is the lower-case text of some bytes exactly when it is an even number of digits. -/
theorem exists_encodeChars_iff (digits : List Char) :
    (∃ bytes, encodeChars bytes = digits.map Char.toLower) ↔
      digits.length % 2 = 0 ∧ ∀ c ∈ digits, isHexChar c = true := by
  constructor
  · rintro ⟨bytes, h⟩
    refine ⟨?_, fun c hc => ?_⟩
    · have := congrArg List.length h
      rw [length_encodeChars_chars, List.length_map] at this
      omega
    · -- the lower case of `c` is a digit of some byte
      have hmem : c.toLower ∈ encodeChars bytes := h ▸ List.mem_map_of_mem hc
      obtain ⟨x, -, hx⟩ := List.mem_flatMap.mp hmem
      have hxlt := x.toNat_lt
      have hdigit : ∃ m, m < 16 ∧ c.toLower = hexDigit m := by
        simp only [byteDigits, List.mem_cons, List.not_mem_nil, or_false] at hx
        rcases hx with hx | hx
        · exact ⟨_, by omega, hx⟩
        · exact ⟨_, by omega, hx⟩
      obtain ⟨m, hm, hlow⟩ := hdigit
      have hnat := congrArg Char.toNat hlow
      rw [toNat_toLower, toNat_hexDigit hm] at hnat
      rw [isHexChar_iff]
      split at hnat <;> split at hnat <;> omega
  · rintro ⟨heven, hhex⟩
    obtain ⟨bytes, hdec⟩ := decode_utf8_of_digits heven hhex
    exact ⟨bytes, (decode_utf8_ok hdec).2⟩

/-- The UTF-8 bytes of a text read as `bytes` exactly when the text, in lower case, is the text
of `bytes`. -/
theorem decode_utf8_iff (digits : List Char) (bytes : List UInt8) :
    decode (TestVector.utf8 digits) = .ok bytes ↔ encodeChars bytes = digits.map Char.toLower := by
  refine ⟨fun h => (decode_utf8_ok h).2, fun h => ?_⟩
  obtain ⟨heven, hhex⟩ := (exists_encodeChars_iff digits).mp ⟨bytes, h⟩
  obtain ⟨bytes', hdec⟩ := decode_utf8_of_digits heven hhex
  rw [hdec, encodeChars_inj ((decode_utf8_ok hdec).2.trans h.symm)]

end Hex

namespace TestVector

/-! ## The grammar of one line -/

/-- A line holds the field `f`: trimmed, it is a name, a colon, and a value with no colon in it;
the value, trimmed, is `0x` and digits that are, in lower case, the text of some bytes; the field
is the name less its trailing blanks, with those bytes reversed. -/
def Holds (raw : List Char) (f : Field) : Prop :=
  ∃ name value digits bytes, trim raw = name ++ ':' :: value ∧ ':' ∉ value ∧
    trim value = '0' :: 'x' :: digits ∧ Hex.encodeChars bytes = digits.map Char.toLower ∧
    f = ⟨String.ofList (trimEnd name), bytes.reverse⟩

/-- A line conforms: it is blank once trimmed, or, trimmed, it is a name, a colon, and a value
with no colon in it, whose trim is `0x` and an even number of hexadecimal digits. -/
def Conforms (raw : List Char) : Prop :=
  trim raw = [] ∨ ∃ name value digits, trim raw = name ++ ':' :: value ∧ ':' ∉ value ∧
    trim value = '0' :: 'x' :: digits ∧ digits.length % 2 = 0 ∧ ∀ c ∈ digits, Hex.isHexChar c = true

/-- The error the grammar gives the line numbered `n`: a malformed line, quoted as it stands,
when its trim has no colon or its value does not start with `0x`; otherwise the reason the
hexadecimal reader refuses its digits. -/
def Rejects (n : Nat) (raw : List Char) : ParseError → Prop
  | .malformedLine m content => m = n ∧ content = String.ofList raw ∧
      (':' ∉ trim raw ∨ ∃ name value, trim raw = name ++ ':' :: value ∧ ':' ∉ value ∧
        ¬ ['0', 'x'] <+: trim value)
  | .invalidHex m reason => m = n ∧ ∃ name value digits, trim raw = name ++ ':' :: value ∧
      ':' ∉ value ∧ trim value = '0' :: 'x' :: digits ∧ Hex.Refuses (utf8 digits) reason

/-- A text has a last colon exactly when it has a colon. -/
theorem splitAtLast_eq_none_iff (sep : Char) (cs : List Char) :
    splitAtLast sep cs = none ↔ sep ∉ cs := by
  unfold splitAtLast
  rw [List.span_eq_takeWhile_dropWhile]
  cases hd : cs.reverse.dropWhile (· != sep) with
  | nil =>
      simp only [true_iff]
      intro hmem
      have hall := List.dropWhile_eq_nil_iff.mp hd sep (List.mem_reverse.mpr hmem)
      simp at hall
  | cons x rest =>
      simp only [reduceCtorEq, false_iff, not_not]
      -- the first character the scan stops at is the separator
      have hx : (x != sep) = false := by
        have := List.head?_dropWhile_not (· != sep) cs.reverse
        rw [hd] at this
        exact this
      have hxs : x = sep := by simpa using hx
      have hmem : x ∈ cs.reverse := (List.dropWhile_suffix _).subset (hd ▸ List.mem_cons_self)
      exact hxs ▸ List.mem_reverse.mp hmem

theorem stripMarker_eq_some_iff (cs digits : List Char) :
    stripMarker cs = some digits ↔ cs = '0' :: 'x' :: digits := by
  unfold stripMarker
  split
  · simp [eq_comm]
  · next hne =>
      simp only [reduceCtorEq, false_iff]
      exact hne digits

theorem stripMarker_eq_none_iff (cs : List Char) :
    stripMarker cs = none ↔ ¬ ['0', 'x'] <+: cs := by
  cases h : stripMarker cs with
  | none =>
      simp only [true_iff]
      rintro ⟨digits, rfl⟩
      rw [(stripMarker_eq_some_iff (['0', 'x'] ++ digits) digits).mpr rfl] at h
      cases h
  | some digits =>
      simp only [reduceCtorEq, false_iff, not_not]
      exact ⟨digits, ((stripMarker_eq_some_iff _ _).mp h).symm⟩

/-- **What reading one line does.** Its trim has no colon, and it is malformed; or it splits at
its last colon into a name and a value, and then the value's trim does not start with `0x`, and
the line is malformed, or it does, and the hexadecimal reader refuses the digits after `0x`, or
reads them. -/
theorem parseLine_cases (n : Nat) (raw : List Char) :
    (':' ∉ trim raw ∧ parseLine n raw = .error (.malformedLine n (String.ofList raw))) ∨
    (∃ name value, trim raw = name ++ ':' :: value ∧ ':' ∉ value ∧
      ((¬ ['0', 'x'] <+: trim value ∧
          parseLine n raw = .error (.malformedLine n (String.ofList raw))) ∨
        (∃ digits, trim value = '0' :: 'x' :: digits ∧
          ((∃ r, Hex.decode (utf8 digits) = .error r ∧
              parseLine n raw = .error (.invalidHex n r)) ∨
            (∃ bs, Hex.decode (utf8 digits) = .ok bs ∧
              parseLine n raw = .ok ⟨String.ofList (trimEnd name), bs.reverse⟩))))) := by
  cases hsplit : splitAtLast ':' (trim raw) with
  | none =>
      exact .inl ⟨(splitAtLast_eq_none_iff _ _).mp hsplit, by simp only [parseLine, hsplit]⟩
  | some parts =>
      obtain ⟨name, value⟩ := parts
      obtain ⟨htrim, hvalue⟩ := eq_of_splitAtLast hsplit
      refine .inr ⟨name, value, htrim, hvalue, ?_⟩
      cases hstrip : stripMarker (trim value) with
      | none =>
          exact .inl ⟨(stripMarker_eq_none_iff _).mp hstrip,
            by simp only [parseLine, hsplit, hstrip]⟩
      | some digits =>
          refine .inr ⟨digits, (stripMarker_eq_some_iff _ _).mp hstrip, ?_⟩
          cases hdec : Hex.decode (utf8 digits) with
          | error r => exact .inl ⟨r, rfl, by simp only [parseLine, hsplit, hstrip, hdec]⟩
          | ok bs => exact .inr ⟨bs, rfl, by simp only [parseLine, hsplit, hstrip, hdec]⟩

/-- A line split at a colon has a colon. -/
theorem colon_mem_of_split {raw name value : List Char} (h : trim raw = name ++ ':' :: value) :
    ':' ∈ trim raw :=
  h ▸ List.mem_append_right _ List.mem_cons_self

/-- A text splits at its last colon in one way only. -/
theorem split_unique {cs name value name' value' : List Char} (h : cs = name ++ ':' :: value)
    (hv : ':' ∉ value) (h' : cs = name' ++ ':' :: value') (hv' : ':' ∉ value') :
    name' = name ∧ value' = value := by
  have hs := @splitAtLast_append name value ':' hv
  rw [← h, h', splitAtLast_append hv'] at hs
  exact Prod.mk.inj (Option.some.inj hs)

/-- Two readings of a line as a name, a colon and `0x` with digits have the same digits. -/
theorem same_digits {raw name value digits name' value' digits' : List Char}
    (htrim : trim raw = name ++ ':' :: value) (hvalue : ':' ∉ value)
    (hdigits : trim value = '0' :: 'x' :: digits) (htrim' : trim raw = name' ++ ':' :: value')
    (hvalue' : ':' ∉ value') (hdigits' : trim value' = '0' :: 'x' :: digits') : digits' = digits := by
  obtain ⟨-, rfl⟩ := split_unique htrim hvalue htrim' hvalue'
  rw [hdigits] at hdigits'
  simpa using hdigits'.symm

/-- **One line, read.** A line is read as a field exactly when it holds it. -/
theorem parseLine_ok_iff (n : Nat) (raw : List Char) (f : Field) :
    parseLine n raw = .ok f ↔ Holds raw f := by
  constructor
  · intro h
    rcases parseLine_cases n raw with
      ⟨-, heq⟩ | ⟨name, value, htrim, hvalue, ⟨-, heq⟩ |
        ⟨digits, hdigits, ⟨r, -, heq⟩ | ⟨bs, hdec, heq⟩⟩⟩
    · rw [heq] at h
      cases h
    · rw [heq] at h
      cases h
    · rw [heq] at h
      cases h
    · rw [heq] at h
      cases h
      exact ⟨name, value, digits, bs, htrim, hvalue, hdigits, (Hex.decode_utf8_iff _ _).mp hdec, rfl⟩
  · rintro ⟨name, value, digits, bytes, htrim, hvalue, hdigits, henc, rfl⟩
    simp only [parseLine, htrim, splitAtLast_append hvalue, (stripMarker_eq_some_iff _ _).mpr hdigits,
      (Hex.decode_utf8_iff _ _).mpr henc]

/-- A line that is not blank conforms exactly when it holds a field. -/
theorem conforms_iff_holds {raw : List Char} (hne : trim raw ≠ []) :
    Conforms raw ↔ ∃ f, Holds raw f := by
  constructor
  · rintro (hblank | ⟨name, value, digits, htrim, hvalue, hdigits, heven, hhex⟩)
    · exact absurd hblank hne
    · obtain ⟨bytes, henc⟩ := (Hex.exists_encodeChars_iff digits).mpr ⟨heven, hhex⟩
      exact ⟨_, name, value, digits, bytes, htrim, hvalue, hdigits, henc, rfl⟩
  · rintro ⟨f, name, value, digits, bytes, htrim, hvalue, hdigits, henc, -⟩
    obtain ⟨heven, hhex⟩ := (Hex.exists_encodeChars_iff digits).mp ⟨bytes, henc⟩
    exact .inr ⟨name, value, digits, htrim, hvalue, hdigits, heven, hhex⟩

/-- A line whose trim splits at its last colon into `name` and `value`, with digits after `0x`,
conforms exactly when those digits are an even number of hexadecimal digits. -/
theorem conforms_iff_digits {raw name value digits : List Char}
    (htrim : trim raw = name ++ ':' :: value) (hvalue : ':' ∉ value)
    (hdigits : trim value = '0' :: 'x' :: digits) :
    Conforms raw ↔ digits.length % 2 = 0 ∧ ∀ c ∈ digits, Hex.isHexChar c = true := by
  constructor
  · rintro (hblank | ⟨name', value', digits', htrim', hvalue', hdigits', heven, hhex⟩)
    · rw [htrim] at hblank
      simp at hblank
    · obtain rfl := same_digits htrim hvalue hdigits htrim' hvalue' hdigits'
      exact ⟨heven, hhex⟩
  · rintro ⟨heven, hhex⟩
    exact .inr ⟨name, value, digits, htrim, hvalue, hdigits, heven, hhex⟩

/-- A line that is not blank and is refused does not conform, and is refused with the error the
grammar gives it. -/
theorem rejects_of_parseLine_error {n : Nat} {raw : List Char} (hne : trim raw ≠ [])
    {e : ParseError} (h : parseLine n raw = .error e) : ¬ Conforms raw ∧ Rejects n raw e := by
  rcases parseLine_cases n raw with
    ⟨hcolon, heq⟩ | ⟨name, value, htrim, hvalue, ⟨hnomark, heq⟩ |
      ⟨digits, hdigits, ⟨r, hdec, heq⟩ | ⟨bs, -, heq⟩⟩⟩
  · rw [heq] at h
    cases h
    refine ⟨?_, rfl, rfl, .inl hcolon⟩
    rintro (hblank | ⟨name, value, digits, htrim, -⟩)
    · exact hne hblank
    · exact hcolon (colon_mem_of_split htrim)
  · rw [heq] at h
    cases h
    refine ⟨?_, rfl, rfl, .inr ⟨name, value, htrim, hvalue, hnomark⟩⟩
    rintro (hblank | ⟨name', value', digits', htrim', hvalue', hdigits', -⟩)
    · exact hne hblank
    · obtain ⟨-, rfl⟩ := split_unique htrim hvalue htrim' hvalue'
      exact hnomark ⟨digits', hdigits'.symm⟩
  · rw [heq] at h
    cases h
    refine ⟨fun hconf => ?_,
      rfl, name, value, digits, htrim, hvalue, hdigits, (Hex.decode_error_iff _ _).mp hdec⟩
    -- conforming digits would have been read
    obtain ⟨bytes, henc⟩ :=
      (Hex.exists_encodeChars_iff digits).mpr ((conforms_iff_digits htrim hvalue hdigits).mp hconf)
    rw [(Hex.decode_utf8_iff _ _).mpr henc] at hdec
    cases hdec
  · rw [heq] at h
    cases h

/-- A line is refused with every error the grammar gives it. -/
theorem parseLine_of_rejects {n : Nat} {raw : List Char} {e : ParseError}
    (hrej : Rejects n raw e) : parseLine n raw = .error e := by
  rcases parseLine_cases n raw with
    ⟨hcolon, heq⟩ | ⟨name, value, htrim, hvalue, ⟨hnomark, heq⟩ | ⟨digits, hdigits, hread⟩⟩
  · cases e with
    | malformedLine m content =>
        obtain ⟨rfl, rfl, -⟩ := hrej
        exact heq
    | invalidHex m reason =>
        obtain ⟨-, name, value, digits, htrim, -⟩ := hrej
        exact absurd (colon_mem_of_split htrim) hcolon
  · cases e with
    | malformedLine m content =>
        obtain ⟨rfl, rfl, -⟩ := hrej
        exact heq
    | invalidHex m reason =>
        obtain ⟨-, name', value', digits', htrim', hvalue', hdigits', -⟩ := hrej
        obtain ⟨-, rfl⟩ := split_unique htrim hvalue htrim' hvalue'
        exact absurd ⟨digits', hdigits'.symm⟩ hnomark
  · cases e with
    | malformedLine m content =>
        obtain ⟨rfl, rfl, hcolon | ⟨name', value', htrim', hvalue', hnomark⟩⟩ := hrej
        · exact absurd (colon_mem_of_split htrim) hcolon
        · obtain ⟨-, rfl⟩ := split_unique htrim hvalue htrim' hvalue'
          exact absurd ⟨digits, hdigits.symm⟩ hnomark
    | invalidHex m reason =>
        obtain ⟨rfl, name', value', digits', htrim', hvalue', hdigits', hrefuses⟩ := hrej
        obtain rfl := same_digits htrim hvalue hdigits htrim' hvalue' hdigits'
        -- the reader refuses these digits for this reason
        have hdec := (Hex.decode_error_iff _ _).mpr hrefuses
        rcases hread with ⟨r, hdec', heq⟩ | ⟨bs, hdec', -⟩
        · rw [hdec] at hdec'
          cases hdec'
          exact heq
        · rw [hdec] at hdec'
          cases hdec'

/-- **One line, refused.** A line that is not blank is refused exactly when it does not conform,
and then with the error the grammar gives it. -/
theorem parseLine_error_iff (n : Nat) {raw : List Char} (hne : trim raw ≠ []) (e : ParseError) :
    parseLine n raw = .error e ↔ ¬ Conforms raw ∧ Rejects n raw e :=
  ⟨rejects_of_parseLine_error hne, fun h => parseLine_of_rejects h.2⟩

/-- A line that is not blank conforms exactly when it is read. -/
theorem conforms_iff_parseLine (n : Nat) {raw : List Char} (hne : trim raw ≠ []) :
    Conforms raw ↔ ∃ f, parseLine n raw = .ok f := by
  simp only [conforms_iff_holds hne, parseLine_ok_iff]

/-! ## The lines of a text -/

/-- A first line that conforms shifts the first line that does not by one. -/
theorem exists_first_refused_cons {raw : List Char} {rest : List (List Char)}
    (R : Nat → List Char → Prop) (hraw : Conforms raw) :
    (∃ pre l post, raw :: rest = pre ++ l :: post ∧ (∀ x ∈ pre, Conforms x) ∧ ¬ Conforms l ∧
        R pre.length l) ↔
      ∃ pre l post, rest = pre ++ l :: post ∧ (∀ x ∈ pre, Conforms x) ∧ ¬ Conforms l ∧
        R (pre.length + 1) l := by
  constructor
  · rintro ⟨_ | ⟨x, pre⟩, l, post, heq, hpre, hl, hR⟩
    · obtain ⟨rfl, -⟩ := List.cons.inj heq
      exact absurd hraw hl
    · obtain ⟨-, rfl⟩ := List.cons.inj heq
      exact ⟨pre, l, post, rfl, fun x hx => hpre x (List.mem_cons_of_mem _ hx), hl, hR⟩
  · rintro ⟨pre, l, post, rfl, hpre, hl, hR⟩
    refine ⟨raw :: pre, l, post, rfl, ?_, hl, hR⟩
    rintro x (_ | ⟨_, hx⟩)
    · exact hraw
    · exact hpre x hx

/-- A blank line conforms. -/
theorem conforms_of_blank {raw : List Char} (hb : (trim raw).isEmpty = true) : Conforms raw :=
  .inl (List.isEmpty_iff.mp hb)

/-- The lines from the one numbered `n` on are read exactly when each conforms. -/
theorem parseLines_ok_iff (n : Nat) (acc : List Field) (ls : List (List Char)) :
    (∃ fs, parseLines n acc ls = .ok fs) ↔ ∀ l ∈ ls, Conforms l := by
  induction ls generalizing n acc with
  | nil => simp [parseLines]
  | cons raw rest ih =>
      rw [List.forall_mem_cons]
      by_cases hb : (trim raw).isEmpty = true
      · rw [parseLines, if_pos hb, ih]
        exact (and_iff_right (conforms_of_blank hb)).symm
      · have hne : trim raw ≠ [] := fun h => hb (List.isEmpty_iff.mpr h)
        rw [parseLines, if_neg hb, conforms_iff_parseLine n hne]
        cases parseLine n raw with
        | error e => simp
        | ok f =>
            simp only [Except.ok.injEq, exists_eq', true_and]
            exact ih (n + 1) (f :: acc)

/-- The fields read from the lines from the one numbered `n` on follow the fields already
read, one for each line that is not blank, each held by its line. -/
theorem parseLines_fields {n : Nat} {acc fs : List Field} {ls : List (List Char)}
    (h : parseLines n acc ls = .ok fs) :
    ∃ gs, fs = acc.reverse ++ gs ∧
      List.Forall₂ Holds (ls.filter (fun l => !(trim l).isEmpty)) gs := by
  induction ls generalizing n acc with
  | nil =>
      rw [parseLines] at h
      cases h
      exact ⟨[], by simp, .nil⟩
  | cons raw rest ih =>
      by_cases hb : (trim raw).isEmpty = true
      · rw [parseLines, if_pos hb] at h
        rw [List.filter_cons_of_neg (by simp [hb])]
        exact ih h
      · rw [parseLines, if_neg hb] at h
        rw [List.filter_cons_of_pos (by simpa using hb)]
        cases hf : parseLine n raw with
        | error e =>
            rw [hf] at h
            cases h
        | ok f =>
            rw [hf] at h
            obtain ⟨gs, rfl, hgs⟩ := ih h
            exact ⟨f :: gs, by simp, .cons ((parseLine_ok_iff n raw f).mp hf) hgs⟩

/-- The lines from the one numbered `n` on are refused exactly when one of them does not
conform, and then for the first such line, with the error the grammar gives it. -/
theorem parseLines_error_iff (n : Nat) (acc : List Field) (ls : List (List Char))
    (e : ParseError) :
    parseLines n acc ls = .error e ↔ ∃ pre raw post, ls = pre ++ raw :: post ∧
      (∀ l ∈ pre, Conforms l) ∧ ¬ Conforms raw ∧ Rejects (pre.length + n) raw e := by
  induction ls generalizing n acc with
  | nil => simp [parseLines]
  | cons raw rest ih =>
      have hshift : ∀ k, k + (n + 1) = k + 1 + n := fun k => by omega
      by_cases hb : (trim raw).isEmpty = true
      · rw [parseLines, if_pos hb, ih,
          exists_first_refused_cons (fun k l => Rejects (k + n) l e) (conforms_of_blank hb)]
        simp only [hshift]
      · have hne : trim raw ≠ [] := fun h => hb (List.isEmpty_iff.mpr h)
        rw [parseLines, if_neg hb]
        cases hf : parseLine n raw with
        | error e' =>
            -- the first line is refused, and it is the first that does not conform
            have hnot := ((parseLine_error_iff n hne e').mp hf).1
            simp only [Except.error.injEq]
            constructor
            · rintro rfl
              exact ⟨[], raw, rest, rfl, by simp, by simpa using (parseLine_error_iff n hne e').mp hf⟩
            · rintro ⟨_ | ⟨x, pre⟩, l, post, heq, hpre, hl, hR⟩
              · obtain ⟨rfl, -⟩ := List.cons.inj heq
                have := (parseLine_error_iff n hne e).mpr ⟨hl, by simpa using hR⟩
                rw [hf] at this
                exact Except.error.inj this
              · obtain ⟨rfl, -⟩ := List.cons.inj heq
                exact absurd (hpre _ List.mem_cons_self) hnot
        | ok f =>
            have hraw : Conforms raw := (conforms_iff_parseLine n hne).mpr ⟨f, hf⟩
            rw [ih, exists_first_refused_cons (fun k l => Rejects (k + n) l e) hraw]
            simp only [hshift]

/-! ## The grammar of a vector -/

/-- **The grammar of a vector.** Cut into its lines, a text is read exactly when each line
conforms, and then its fields are those held by its lines that are not blank, in order. It is
refused exactly when a line does not conform, and then for the first such line, numbered from
one among all the lines, blank ones included, with the error the grammar gives that line. -/
theorem parse_grammar (text : String) :
    ((∃ v, parse text = .ok v) ↔ ∀ l ∈ lines text.toList, Conforms l) ∧
    (∀ v, parse text = .ok v →
      List.Forall₂ Holds ((lines text.toList).filter (fun l => !(trim l).isEmpty)) v.fields) ∧
    (∀ e, parse text = .error e ↔ ∃ pre raw post, lines text.toList = pre ++ raw :: post ∧
      (∀ l ∈ pre, Conforms l) ∧ ¬ Conforms raw ∧ Rejects (pre.length + 1) raw e) := by
  refine ⟨?_, fun v h => ?_, fun e => ?_⟩
  · rw [← parseLines_ok_iff 1 []]
    constructor
    · rintro ⟨v, hv⟩
      cases hp : parseLines 1 [] (lines text.toList) with
      | error e =>
          rw [parse, hp] at hv
          cases hv
      | ok fs => exact ⟨fs, rfl⟩
    · rintro ⟨fs, hfs⟩
      exact ⟨⟨fs⟩, by rw [parse, hfs]; rfl⟩
  · cases hp : parseLines 1 [] (lines text.toList) with
    | error e =>
        rw [parse, hp] at h
        cases h
    | ok fs =>
        rw [parse, hp] at h
        cases h
        obtain ⟨gs, rfl, hgs⟩ := parseLines_fields hp
        simpa using hgs
  · rw [← parseLines_error_iff 1 [] (lines text.toList) e, parse]
    cases parseLines 1 [] (lines text.toList) <;> simp [Except.map]

end TestVector

end VectorCapture
