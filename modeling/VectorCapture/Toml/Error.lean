import VectorCapture.Toml.Cursor
import VectorCapture.Toml.Document
/-!
# Errors in TOML text, shown in place

An error points at a range of bytes of the text, when it knows one. It is shown as the line and
column of the range's start, counted from one, the line of text itself under a gutter with the
line's number, and carets under the range: at least one, at most as many as the line has bytes
after the column. Then comes the message, and a line end.

A failure of the reader points at the character where the reading stood: a position inside a
character moves back to its start, and at the end of the text the range is empty.
-/

namespace VectorCapture.Toml

/-- An error in a TOML text: its message, and the bytes it points at, when known. -/
structure Error where
  message : String
  span : Option Span := none
  deriving Repr, Inhabited

/-- Whether a byte continues a character begun before it. -/
def isContinuationByte (b : UInt8) : Bool := b &&& 0xC0 == 0x80

/-- The number of bytes of the character whose first byte is `b`. -/
def charWidth (b : UInt8) : Nat :=
  if b < 0x80 then 1 else if b < 0xE0 then 2 else if b < 0xF0 then 3 else 4

/-- The start of the character that holds byte `p`, or `p` itself at the end of the text. -/
def charStart (s : ByteArray) (p : Nat) : Nat :=
  let rec back (fuel p : Nat) : Nat :=
    match fuel with
    | 0 => p
    | fuel + 1 =>
      match s[p]? with
      | some b => if isContinuationByte b && p > 0 then back fuel (p - 1) else p
      | none => p
  back 4 (min p s.size)

/-- The error of a failed reading: its message, at the character where the reading stood. -/
def Error.ofFailure (s : ByteArray) (f : Failure) : Error :=
  let start := charStart s f.pos
  let width := (s[start]?.map charWidth).getD 0
  { message := f.message, span := some ⟨start, min (start + width) s.size⟩ }

/-- The line and column of a byte, both counted from zero. The column counts the characters
before the byte on its line, or its bytes when that part of the line is not whole UTF-8; a
position past the last byte is one column after it. -/
def position (s : ByteArray) (index : Nat) : Nat × Nat :=
  if s.size = 0 then (0, index) else
  let safe := min index (s.size - 1)
  let beyond := index - safe
  let before := (s.extract 0 safe).toList
  let lineStart := match (before.zipIdx.filter (·.1 == 0x0A)).getLast? with
    | some (_, i) => i + 1
    | none => 0
  let line := ((s.extract 0 lineStart).toList.filter (· == 0x0A)).length
  let column := match String.fromUTF8? (s.extract lineStart (safe + 1)) with
    | some t => t.length - 1
    | none => safe - lineStart
  (line, column + beyond)

/-- A text of `n` spaces. -/
def spaces (n : Nat) : String := String.ofList (List.replicate n ' ')

/-- The error as it is shown for the text `raw`. -/
def Error.render (raw : String) (e : Error) : String :=
  match e.span with
  | none => e.message ++ "\n"
  | some span =>
    let (line, column) := position raw.toUTF8 span.start
    let number := toString (line + 1)
    let gutter := number.length
    let content := ((raw.splitOn "\n")[line]?).getD ""
    let width := min (span.stop - span.start) (content.utf8ByteSize - column)
    "TOML parse error at line " ++ number ++ ", column " ++ toString (column + 1) ++ "\n" ++
      spaces (gutter + 1) ++ "|\n" ++
      number ++ " | " ++ content ++ "\n" ++
      spaces (gutter + 1) ++ "|" ++ spaces (column + 1) ++ "^" ++
      String.ofList (List.replicate (width - 1) '^') ++ "\n" ++
      e.message ++ "\n"

end VectorCapture.Toml
