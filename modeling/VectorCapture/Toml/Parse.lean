import VectorCapture.Toml.Value
import VectorCapture.Toml.Error
/-!
# Reading a TOML document

A document is a sequence of lines, each blank, a comment, a table header (`[path]` or
`[[path]]`) or a key and value, each closed by a line end or the end of the text; a byte-order
mark may precede it. The keys and values go into the table of the header above them, or into
the root before any header.

The reading stops at the first failure. A failure of the grammar points at where the reading
stood; a key or table defined twice points at the start of its line, and a header's errors are
introduced as errors of a table header.
-/

namespace VectorCapture.Toml

/-- The budget of steps for reading one value from `s`: each item of an array or inline table
consumes a byte, and each opening bracket or brace another. -/
def valueFuel (s : ByteArray) : Nat := 4 * (s.size + 2)

/-- The contexts of what may follow a value or a header on its line. -/
def lineRestContext (f : Failure) : Failure :=
  (f.within (.expected "newline")).within (.expected "`#`")

/-- A key and value at `p`, added to the current table. -/
def keyval (s : ByteArray) (p : Nat) (b : Builder) : Except Failure (Builder × Nat) := do
  let (path, q) ← keyPath s p
  let (v, t) ← Step.final <|
    show Except Failure (Node × Nat) from do
      if s[q]? != some 0x3D then
        .error (((Failure.here q).within (.expected "`.`")).within (.expected "`=`"))
      let (v, r) ← value (valueFuel s) (depthLimit - 1) s (blanks s (q + 1))
      let t ← (lineRest s r).mapError lineRestContext
      .ok (v, t)
  match b.keyval path.dropLast (path.getLast?.getD default) v with
  | .ok b => .ok (b, t)
  | .error e => .error (Failure.because p e.message).final

/-- A header at `p` of `width` brackets, whose table it starts. -/
def header (s : ByteArray) (p : Nat) (b : Builder) (double : Bool) :
    Except Failure (Builder × Nat) := do
  let width := if double then 2 else 1
  let (path, q) ← Step.final (keyPath s (p + width))
  let close := List.replicate width (0x5D : UInt8)
  if !looksAt s q close then
    .error ((((Failure.here q).within (.expected "`.`")).within
      (.expected ("`" ++ String.ofList (List.replicate width ']') ++ "`")))).final
  let span : Span := ⟨p, q + width⟩
  let t ← Step.final ((lineRest s (q + width)).mapError lineRestContext)
  let started := if double then b.arrayHeader path span else b.header path span
  match started with
  | .ok b => .ok (b, t)
  | .error e => .error (Failure.because p e.message).final

/-- A table header at `p`. -/
def table (s : ByteArray) (p : Nat) (b : Builder) : Except Failure (Builder × Nat) :=
  Step.final <| Step.within (.label "table header") <|
    if p + 2 > s.size then .error (.here p)
    else header s p b (looksAt s p [0x5B, 0x5B])

/-- The lines from `p` on, into the builder `b`; the position returned is where no line could
start. -/
def lines (s : ByteArray) (p : Nat) (b : Builder) : Except Failure (Builder × Nat) :=
  let next : Except Failure (Option (Builder × Nat)) :=
    match s[p]? with
    | none => .ok none
    | some 0x23 => (lineEnd s ((comment? s p).getD p)).map fun q => some (b, q)
    | some 0x5B => (table s p b).map some
    | some 0x0A | some 0x0D =>
      match newline s p with
      | .ok q => .ok (some (b, q))
      | .error _ => .ok none
    | some _ => (keyval s p b).map some
  match next with
  | .error e => .error e.final
  | .ok none => .ok (b, p)
  | .ok (some (b, q)) =>
    let r := blanks s q
    if _h : p < r ∧ r ≤ s.size then lines s r b else .ok (b, r)
termination_by s.size - p

/-- The tables of a TOML text, or the first error in it. -/
def parse (text : String) : Except Error (List (Key × Node)) :=
  let s := text.toUTF8
  let start := if looksAt s 0 [0xEF, 0xBB, 0xBF] then 3 else 0
  match lines s (blanks s start) {} with
  | .error f => .error (Error.ofFailure s f)
  | .ok (b, p) =>
    if p < s.size then .error (Error.ofFailure s (.here p))
    else
      match b.finish with
      | .ok b => .ok b.root
      | .error e => .error { message := e.message }

end VectorCapture.Toml
