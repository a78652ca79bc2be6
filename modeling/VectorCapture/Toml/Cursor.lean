/-!
# Reading TOML text byte by byte

The reader works on the UTF-8 bytes of a document and a position in them. A step that fails
says where the reading stood when it gave up, which is where the error is shown; most steps
give up without moving, and a few give up one byte on, having read it.

A failure carries the *context* that the steps around it add while it passes them: labels
(`invalid integer`) and the things that would have done (`expected digit`). It is *cut* when
no alternative may be tried any more: a cut failure ends the whole reading, while another
lets an enclosing choice try its next branch from where that choice began.

This module holds the failure type and the steps on blanks, comments and line ends.
-/

namespace VectorCapture.Toml

/-- Something a step was looking for, added to a failure as it passes the step. -/
inductive Context where
  /-- The kind of thing being read: shown as `invalid <what>`. -/
  | label (what : String)
  /-- Something that would have done, as it is shown after `expected`. -/
  | expected (what : String)
  deriving Repr, Inhabited

/-- Why and where a reading failed. -/
structure Failure where
  /-- The byte position where the reading stood. -/
  pos : Nat
  /-- The context added by the enclosing steps, innermost first. -/
  context : List Context := []
  /-- The reason, when a step knows one beyond its context. -/
  cause : Option String := none
  /-- Whether enclosing choices must give up too. -/
  cut : Bool := false
  deriving Repr, Inhabited

namespace Failure

/-- A failure at a position, with nothing more known. -/
def here (pos : Nat) : Failure := { pos }

/-- A failure with a known reason, at a position. -/
def because (pos : Nat) (cause : String) : Failure := { pos, cause := some cause }

/-- The failure with one more piece of context. -/
def within (c : Context) (f : Failure) : Failure := { f with context := f.context ++ [c] }

/-- The failure made final. -/
def final (f : Failure) : Failure := { f with cut := true }

/-- The text of a failure: the first label as `invalid …`, then what was expected, then the
reason, each on a line of its own. -/
def message (f : Failure) : String :=
  let label := f.context.findSome? fun | .label w => some w | _ => none
  let expected := f.context.filterMap fun | .expected w => some w | _ => none
  let parts :=
    (label.map ("invalid " ++ ·)).toList ++
    (if expected.isEmpty then [] else ["expected " ++ String.intercalate ", " expected]) ++
    f.cause.toList
  String.intercalate "\n" parts

end Failure

/-- The reason given for a date, a time or an escape whose parts are out of their ranges. -/
def outOfRange : String := "value is out of range"

/-- The outcome of a step: what it read and the position after it, or a failure. -/
abbrev Step (α : Type) := Except Failure (α × Nat)

/-- Adds context to the failure of a step. -/
def Step.within {α : Type} (c : Context) (r : Except Failure α) : Except Failure α :=
  r.mapError (Failure.within c)

/-- Makes the failure of a step final. -/
def Step.final {α : Type} (r : Except Failure α) : Except Failure α :=
  r.mapError Failure.final

/-- Whether a failure lets an enclosing choice go on. -/
def Step.recoverable {α : Type} : Except Failure α → Bool
  | .error f => !f.cut
  | .ok _ => false

/-! ## Classes of bytes -/

/-- A byte within an inclusive range. -/
def inRange (lo hi b : UInt8) : Bool := lo ≤ b && b ≤ hi

/-- Space and tab. -/
def isBlankByte (b : UInt8) : Bool := b == 0x20 || b == 0x09

/-- A decimal digit. -/
def isDigitByte (b : UInt8) : Bool := inRange 0x30 0x39 b

/-- A hexadecimal digit, in either case. -/
def isHexByte (b : UInt8) : Bool := isDigitByte b || inRange 0x41 0x46 b || inRange 0x61 0x66 b

/-- A byte of a bare key: a letter, a digit, `-` or `_`. -/
def isBareKeyByte (b : UInt8) : Bool :=
  inRange 0x41 0x5A b || inRange 0x61 0x7A b || isDigitByte b || b == 0x2D || b == 0x5F

/-- A byte that may stand in a comment: tab, the printable characters, and any byte of a
character beyond ASCII. -/
def isCommentByte (b : UInt8) : Bool := b == 0x09 || inRange 0x20 0x7E b || b ≥ 0x80

/-- A byte that may stand unescaped in a basic string: blanks, the printable characters but the
double quote and the backslash, and any byte of a character beyond ASCII. -/
def isBasicByte (b : UInt8) : Bool :=
  isBlankByte b || b == 0x21 || inRange 0x23 0x5B b || inRange 0x5D 0x7E b || b ≥ 0x80

/-- A byte that may stand in a literal string: tab, the printable characters but the apostrophe,
and any byte of a character beyond ASCII. -/
def isLiteralByte (b : UInt8) : Bool :=
  b == 0x09 || inRange 0x20 0x26 b || inRange 0x28 0x7E b || b ≥ 0x80

/-! ## Steps on the text -/

/-- The position after the bytes from `p` on that satisfy `ok`. -/
def skipWhile (s : ByteArray) (ok : UInt8 → Bool) (p : Nat) : Nat :=
  if h : p < s.size then
    if ok s[p] then skipWhile s ok (p + 1) else p
  else p
termination_by s.size - p

theorem le_skipWhile (s : ByteArray) (ok : UInt8 → Bool) (p : Nat) : p ≤ skipWhile s ok p := by
  fun_induction skipWhile s ok p <;> omega

/-- The position after at most `n` bytes from `p` on that satisfy `ok`. -/
def skipUpTo (s : ByteArray) (ok : UInt8 → Bool) (p : Nat) : Nat → Nat
  | 0 => p
  | n + 1 => if (s[p]?.map ok).getD false then skipUpTo s ok (p + 1) n else p

/-- Whether the bytes of `lit` stand at `p`. -/
def looksAt (s : ByteArray) (p : Nat) (lit : List UInt8) : Bool :=
  (lit.zipIdx.all fun (b, i) => s[p + i]? == some b)

/-- The text of the bytes from `p` to `q`. -/
def slice (s : ByteArray) (p q : Nat) : String :=
  (String.fromUTF8? (s.extract p q)).getD ""

/-- Skips spaces and tabs. -/
def blanks (s : ByteArray) (p : Nat) : Nat := skipWhile s isBlankByte p

/-- Skips a comment, if one starts at `p`. -/
def comment? (s : ByteArray) (p : Nat) : Option Nat :=
  if s[p]? == some 0x23 then some (skipWhile s isCommentByte (p + 1)) else none

/-- A line feed, or a carriage return and a line feed. Any other byte is read and refused, so
the failure stands after it. -/
def newline (s : ByteArray) (p : Nat) : Except Failure Nat :=
  match s[p]? with
  | some 0x0A => .ok (p + 1)
  | some 0x0D => if s[p + 1]? == some 0x0A then .ok (p + 2) else .error (.here (p + 1))
  | some _ => .error (.here (p + 1))
  | none => .error (.here p)

/-- A line end, or the end of the text. -/
def lineEnd (s : ByteArray) (p : Nat) : Except Failure Nat :=
  match newline s p with
  | .ok q => .ok q
  | .error _ => if p ≥ s.size then .ok p else .error (.here p)

/-- What may follow a value or a header on its line: blanks, a comment, and the line end. -/
def lineRest (s : ByteArray) (p : Nat) : Except Failure Nat :=
  let q := blanks s p
  lineEnd s ((comment? s q).getD q)

/-- Blanks, line ends and comments, each comment closed by a line end. -/
def gaps (s : ByteArray) (p : Nat) : Except Failure Nat :=
  let q := blanks s p
  if h : q < s.size then
    let next : Except Failure Nat :=
      match s[q] with
      | 0x23 => newline s ((comment? s q).getD q)
      | 0x0A | 0x0D => newline s q
      | _ => .ok q
    match next with
    | .error e => .error e
    | .ok r => if r > q then gaps s r else .ok q
  else .ok q
termination_by s.size - p
decreasing_by
  have : p ≤ blanks s p := le_skipWhile s isBlankByte p
  omega

end VectorCapture.Toml
