import VectorCapture.Record
import VectorCapture.Source.Basic
import VectorCapture.Text.Blank
import VectorCapture.Text.Lines
/-!
# Test vectors and their text

A *test vector* is the list of fields of one run, kept so that the run can be replayed. Its text
has one line per field: the name, a colon and a space, `0x`, and the field's value, that is, its
bytes most significant first, as lower-case hexadecimal.

Reading is more lenient than writing. Lines are cut at line feeds (a carriage return before one
is dropped), and a line that is blank after trimming is skipped. In any other line, the name is
what stands before the *last* colon, less trailing blanks, so names may hold colons; the value is
what follows it, trimmed, and must start with `0x` and go on with an even number of hexadecimal
digits of either case. The first line that fails decides the error, numbered from 1 among all
lines, blank ones included.
-/

namespace VectorCapture

open VectorCapture.Text

/-- A captured input: the fields of one run. -/
structure TestVector where
  /-- The fields, in the order the run asked for them. -/
  fields : List Field
  deriving DecidableEq, Repr, Inhabited

namespace TestVector

/-- The line of one field. -/
def line (f : Field) : String :=
  f.name ++ ": 0x" ++ f.value ++ "\n"

/-- The text of a list of fields. -/
def renderFields (fs : List Field) : String :=
  String.join (fs.map line)

/-- The text of a vector. -/
def render (v : TestVector) : String :=
  renderFields v.fields

/-- The total number of bytes in the fields. -/
def byteCount (v : TestVector) : Nat :=
  v.fields.foldr (fun f n => f.bytes.length + n) 0

/-- The bytes of all fields, in order: what a replay hands back. -/
def bytes (v : TestVector) : List UInt8 :=
  v.fields.flatMap (·.bytes)

/-- The source that replays the vector. -/
def replaySource (v : TestVector) : Source :=
  .replay v.bytes

/-- Why a text is no vector. -/
inductive ParseError where
  /-- Line `line` has no colon, or its value does not start with `0x`. -/
  | malformedLine (line : Nat) (content : String)
  /-- The digits on line `line` are no byte string. -/
  | invalidHex (line : Nat) (reason : Hex.DecodeError)
  deriving DecidableEq, Repr

/-- The message of a parse error; a malformed line is quoted as it stands in the text. -/
def ParseError.message : ParseError → String
  | .malformedLine n content =>
    "Line " ++ toString n ++ ": expected '<name>: 0x<hex>', found " ++ quote .text content
  | .invalidHex n reason => "Line " ++ toString n ++ ": invalid hex value: " ++ reason.message

/-- The parts before and after the last `sep`, if there is one. -/
def splitAtLast (sep : Char) (cs : List Char) : Option (List Char × List Char) :=
  match cs.reverse.span (· != sep) with
  | (_, []) => none
  | (after, _ :: before) => some (before.reverse, after.reverse)

/-- The digits after the `0x` that starts a value. -/
def stripMarker : List Char → Option (List Char)
  | '0' :: 'x' :: digits => some digits
  | _ => none

/-- The bytes of a text in its UTF-8 encoding. -/
def utf8 (cs : List Char) : List UInt8 :=
  (String.ofList cs).toUTF8.data.toList

/-- The field of one line that is not blank, or why the line is malformed; `n` is its number. -/
def parseLine (n : Nat) (raw : List Char) : Except ParseError Field :=
  match splitAtLast ':' (trim raw) with
  | none => .error (.malformedLine n (String.ofList raw))
  | some (name, value) =>
    match stripMarker (trim value) with
    | none => .error (.malformedLine n (String.ofList raw))
    | some digits =>
      match Hex.decode (utf8 digits) with
      | .error e => .error (.invalidHex n e)
      | .ok bs => .ok ⟨String.ofList (trimEnd name), bs.reverse⟩

/-- The fields of the lines numbered from `n` on, pushed onto the reversed list `acc`. -/
def parseLines (n : Nat) (acc : List Field) : List (List Char) → Except ParseError (List Field)
  | [] => .ok acc.reverse
  | raw :: rest =>
    if (trim raw).isEmpty then parseLines (n + 1) acc rest
    else
      match parseLine n raw with
      | .error e => .error e
      | .ok f => parseLines (n + 1) (f :: acc) rest

/-- The vector that a text holds, or the error of its first bad line. -/
def parse (text : String) : Except ParseError TestVector :=
  (parseLines 1 [] (lines text.toList)).map TestVector.mk

end TestVector

/-- The text that keeps a record's fields. -/
def Record.render (r : Record) : String :=
  TestVector.renderFields r.fields.toList

end VectorCapture
