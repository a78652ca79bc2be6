import VectorCapture.Toml.Cursor
/-!
# Strings in TOML text

Four kinds of string are read here:

* basic strings between double quotes, with backslash escapes;
* literal strings between apostrophes, taken as written;
* multi-line basic strings between three double quotes, where a backslash at the end of a line
  joins it to the next non-blank text;
* multi-line literal strings between three apostrophes.

A multi-line string drops a line end right after its opening delimiter, and may hold one or two
of its own quote characters anywhere, also just before its closing delimiter. Line ends inside
it read as a line feed.
-/

namespace VectorCapture.Toml

/-- The contexts that say what a bad escape could have been. -/
def escapeContext : List Context :=
  .label "escape sequence" ::
    (["b", "f", "n", "r", "t", "u", "U", "\\", "\""].map fun c => .expected ("`" ++ c ++ "`"))

/-- The character of `n` hexadecimal digits at `p`, which must name a scalar value. -/
def hexEscape (s : ByteArray) (p n : Nat) : Step Char :=
  let q := skipUpTo s isHexByte p n
  if q != p + n then .error (.here p)
  else
    let v := (slice s p q).toList.foldl (fun acc c =>
      acc * 16 + (if c.isDigit then c.toNat - 48 else if c ≤ 'F' then c.toNat - 55 else c.toNat - 87)) 0
    if v < 0xD800 || (0xE000 ≤ v && v ≤ 0x10FFFF) then .ok (Char.ofNat v, q)
    else .error (Failure.because p outOfRange)

/-- The character that the escape after a backslash stands for; `p` is just after the
backslash. -/
def escape (s : ByteArray) (p : Nat) : Step Char :=
  match s[p]? with
  | none => .error (.here p)
  | some 0x62 => .ok (Char.ofNat 8, p + 1)
  | some 0x66 => .ok (Char.ofNat 12, p + 1)
  | some 0x6E => .ok ('\n', p + 1)
  | some 0x72 => .ok ('\r', p + 1)
  | some 0x74 => .ok ('\t', p + 1)
  | some 0x5C => .ok ('\\', p + 1)
  | some 0x22 => .ok ('"', p + 1)
  | some 0x75 => Step.final (Step.within (.label "unicode 4-digit hex code") (hexEscape s (p + 1) 4))
  | some 0x55 => Step.final (Step.within (.label "unicode 8-digit hex code") (hexEscape s (p + 1) 8))
  | some _ => .error { pos := p + 1, context := escapeContext, cut := true }

/-- The body of a basic string from `p`, added to `acc`, up to the first byte that is neither
plain text nor a good escape. -/
def basicBody (s : ByteArray) (p : Nat) (acc : String) : Step String :=
  if _h : p < s.size then
    if isBasicByte s[p] then
      let q := skipWhile s isBasicByte p
      if q > p then basicBody s q (acc ++ slice s p q) else .ok (acc, p)
    else if s[p] == 0x5C then
      match escape s (p + 1) with
      | .ok (c, q) => if q > p then basicBody s q (acc.push c) else .ok (acc, p)
      | .error e => if e.cut then .error e else .ok (acc, p)
    else .ok (acc, p)
  else .ok (acc, p)
termination_by s.size - p

/-- A basic string, whose opening quote is at `p`. -/
def basicString (s : ByteArray) (p : Nat) : Step String :=
  if s[p]? != some 0x22 then .error (.here p) else
  match basicBody s (p + 1) "" with
  | .error e => .error e
  | .ok (text, q) =>
    if s[q]? == some 0x22 then .ok (text, q + 1)
    else .error ((Failure.here q).within (.label "basic string")).final

/-- A literal string, whose opening apostrophe is at `p`. -/
def literalString (s : ByteArray) (p : Nat) : Step String :=
  if s[p]? != some 0x27 then .error ((Failure.here p).within (.label "literal string")) else
  let q := skipWhile s isLiteralByte (p + 1)
  if s[q]? == some 0x27 then .ok (slice s (p + 1) q, q + 1)
  else
    .error (((Failure.here q).within (.label "literal string")).within (.label "literal string")).final

/-! ## Multi-line strings -/

/-- Blanks and line ends. -/
def blankLines (s : ByteArray) (p : Nat) : Nat :=
  if _h : p < s.size then
    match newline s p with
    | .ok q => if q > p then blankLines s q else p
    | .error _ =>
      let q := blanks s p
      if q > p then blankLines s q else p
  else p
termination_by s.size - p

/-- A backslash at the end of a line, with the blanks and line ends after it, once or more. -/
def joinedLines (s : ByteArray) (p : Nat) : Except Failure Nat :=
  let once (p : Nat) : Except Failure Nat :=
    if s[p]? == some 0x5C then (newline s (blanks s (p + 1))).map (blankLines s) else .error (.here p)
  let rec more (fuel p : Nat) : Nat :=
    match fuel with
    | 0 => p
    | fuel + 1 =>
      match once p with
      | .ok q => if q > p then more fuel q else p
      | .error _ => p
  (once p).map (more (s.size + 1))

/-- One piece of the body of a multi-line basic string: plain text, a joined line end, an
escape, or a line end. -/
def multiBasicPiece (s : ByteArray) (p : Nat) : Step String :=
  let q := skipWhile s isBasicByte p
  if q > p then .ok (slice s p q, q) else
  match joinedLines s p with
  | .ok q => .ok ("", q)
  | .error _ =>
    let escaped : Step String :=
      if s[p]? == some 0x5C then (escape s (p + 1)).map fun (c, q) => (c.toString, q)
      else .error (.here p)
    match escaped with
    | .error e =>
      if e.cut then .error e else (newline s p).map fun q => ("\n", q)
    | ok => ok

/-- Pieces of a multi-line basic string body, added to `acc`, for as long as they come. -/
def multiBasicPieces (s : ByteArray) (p : Nat) (acc : String) : Step String :=
  match multiBasicPiece s p with
  | .ok (t, q) => if _h : p < q ∧ q ≤ s.size then multiBasicPieces s q (acc ++ t) else .ok (acc, p)
  | .error e => if e.cut then .error e else .ok (acc, p)
termination_by s.size - p

/-- One or two quote characters `quote` at `p` followed by what `next` accepts. -/
def quotesBefore (s : ByteArray) (quote : UInt8) (next : Nat → Bool) (p : Nat) :
    Option (String × Nat) :=
  if s[p]? == some quote && s[p + 1]? == some quote && next (p + 2) then
    some (slice s p (p + 2), p + 2)
  else if s[p]? == some quote && next (p + 1) then some (slice s p (p + 1), p + 1)
  else none

/-- Quotes that are followed by more of the body, with that body, for as long as they come; a
run of quotes that no body follows is passed over. -/
def multiBasicQuoted (s : ByteArray) (p : Nat) (acc : String) : Step String :=
  let notQuote (q : Nat) : Bool := (s[q]?.map (· != 0x22)).getD false
  match quotesBefore s 0x22 notQuote p with
  | none => .ok (acc, p)
  | some (qs, q) =>
    match multiBasicPiece s q with
    | .error e => if e.cut then .error e else .ok (acc, q)
    | .ok (t, r) =>
      match multiBasicPieces s r (acc ++ qs ++ t) with
      | .error e => .error e
      | .ok (acc', u) => if _h : p < u ∧ u ≤ s.size then multiBasicQuoted s u acc' else .ok (acc', u)
termination_by s.size - p

/-- A multi-line basic string, whose opening delimiter is at `p`. -/
def multiBasicString (s : ByteArray) (p : Nat) : Step String :=
  let delim : List UInt8 := [0x22, 0x22, 0x22]
  if !looksAt s p delim then .error (.here p) else
  Step.within (.label "multiline basic string") <| do
    let q := p + 3
    let q := match newline s q with | .ok r => r | .error _ => q
    let (body, r) ← multiBasicPieces s q ""
    let (body, r) ← multiBasicQuoted s r body
    let (body, r) :=
      match quotesBefore s 0x22 (fun t => looksAt s t delim) r with
      | some (qs, t) => (body ++ qs, t)
      | none => (body, r)
    if looksAt s r delim then .ok (body, r + 3) else .error (Failure.here r).final

/-- One piece of the body of a multi-line literal string: a character or a line end. -/
def multiLiteralPiece (s : ByteArray) (p : Nat) : Except Failure Nat :=
  if (s[p]?.map isLiteralByte).getD false then .ok (p + 1) else newline s p

/-- Pieces of a multi-line literal string body, for as long as they come. -/
def multiLiteralPieces (s : ByteArray) (p : Nat) : Nat :=
  match multiLiteralPiece s p with
  | .ok q => if _h : p < q ∧ q ≤ s.size then multiLiteralPieces s q else p
  | .error _ => p
termination_by s.size - p

/-- Apostrophes followed by at least one more piece of the body, for as long as they come. -/
def multiLiteralQuoted (s : ByteArray) (p : Nat) : Nat :=
  let notApostrophe (q : Nat) : Bool := (s[q]?.map (· != 0x27)).getD false
  match quotesBefore s 0x27 notApostrophe p with
  | none => p
  | some (_, q) =>
    match multiLiteralPiece s q with
    | .error _ => p
    | .ok r =>
      let u := multiLiteralPieces s r
      if _h : p < u ∧ u ≤ s.size then multiLiteralQuoted s u else u
termination_by s.size - p

/-- The text with each carriage return and line feed pair made a line feed. -/
def unixLines (t : String) : String :=
  String.intercalate "\n" (t.splitOn "\r\n")

/-- A multi-line literal string, whose opening delimiter is at `p`. -/
def multiLiteralString (s : ByteArray) (p : Nat) : Step String :=
  let delim : List UInt8 := [0x27, 0x27, 0x27]
  if !looksAt s p delim then .error (.here p) else
  Step.within (.label "multiline literal string") <|
    let q := p + 3
    let q := match newline s q with | .ok r => r | .error _ => q
    let r := multiLiteralQuoted s (multiLiteralPieces s q)
    let r :=
      match quotesBefore s 0x27 (fun t => looksAt s t delim) r with
      | some (_, t) => t
      | none => r
    if looksAt s r delim then .ok (unixLines (slice s q r), r + 3) else .error (Failure.here r).final

/-- A string of any of the four kinds. -/
def string (s : ByteArray) (p : Nat) : Step String :=
  match multiBasicString s p with
  | .error e =>
    if e.cut then .error e else
    match basicString s p with
    | .error e =>
      if e.cut then .error e else
      match multiLiteralString s p with
      | .error e => if e.cut then .error e else literalString s p
      | ok => ok
    | ok => ok
  | ok => ok

end VectorCapture.Toml
