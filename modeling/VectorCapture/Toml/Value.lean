import VectorCapture.Toml.Document
import VectorCapture.Toml.Number
import VectorCapture.Toml.Strings
/-!
# Keys and values in TOML text

A key is one or more simple keys joined by dots, with blanks around each: a bare key of
letters, digits, `-` and `_`, or a basic or literal string. A value is a string, a boolean, a
number, a date or time, an array, or an inline table.

Arrays may spread over lines and hold comments; inline tables stay on one line. Both may nest,
up to a depth of eighty, the limit also on the number of parts of a key. The nesting bounds the
recursion of the reader; each loop over the items of one array or table bounds itself by the
bytes left, since every item after the first starts after a comma.
-/

namespace VectorCapture.Toml

/-- How deep arrays and inline tables may nest, and how many parts a key may have. -/
def depthLimit : Nat := 80

/-- The reason given for nesting beyond the limit. -/
def tooDeep : String := "recursion limit exceeded"

/-- A simple key at `p`. -/
def simpleKey (s : ByteArray) (p : Nat) : Step Key :=
  let keyed (r : Step String) : Step Key :=
    r.map fun (name, q) => ({ name, raw := slice s p q, span := ⟨p, q⟩ }, q)
  match s[p]? with
  | some 0x22 => keyed (basicString s p)
  | some 0x27 => keyed (literalString s p)
  | _ =>
    let q := skipWhile s isBareKeyByte p
    if q = p then .error (.here p) else keyed (.ok (slice s p q, q))

/-- The simple keys after the first, each after a dot; a dot that no key follows is left
unread. -/
def dottedKeys (s : ByteArray) (p : Nat) (acc : List Key) : Step (List Key) :=
  if s[p]? == some 0x2E then
    match simpleKey s (blanks s (p + 1)) with
    | .ok (k, q) =>
      let r := blanks s q
      if _h : p < r ∧ r ≤ s.size then dottedKeys s r (acc ++ [k]) else .ok (acc ++ [k], r)
    | .error e => if e.cut then .error e else .ok (acc, p)
  else .ok (acc, p)
termination_by s.size - p

/-- A key, with the blanks around it. -/
def keyPath (s : ByteArray) (p : Nat) : Step (List Key) :=
  let read : Step (List Key) :=
    Step.within (.label "key") <|
      match simpleKey s (blanks s p) with
      | .ok (k, q) => dottedKeys s (blanks s q) [k]
      | .error e => .error e
  match read with
  | .ok (ks, q) => if ks.length ≥ depthLimit then .error (Failure.because p tooDeep) else .ok (ks, q)
  | failed => failed

/-- The contexts of a value that starts like no value. -/
def valueContext (f : Failure) : Failure :=
  ((f.within (.label "string")).within (.expected "`\"`")).within (.expected "`'`")

/-- A value that starts with a sign or a digit: a date or time, a float or an integer. -/
def numberLike (s : ByteArray) (p : Nat) : Step Scalar :=
  match dateTime s p with
  | .ok q => .ok (.datetime (slice s p q), q)
  | .error e =>
    if e.cut then .error e else
    match float s p with
    | .ok (d, q) => .ok (.float d, q)
    | .error e =>
      if e.cut then .error e else
      (integer s p).map fun (i, q) => (.int i, q)

/-- A word at `p`, which gives `v`; a misspelt word is final when `final`. -/
def word (s : ByteArray) (p : Nat) (w : String) (v : Scalar) (final : Bool) : Step Scalar :=
  if looksAt s p w.toUTF8.toList then .ok (v, p + w.utf8ByteSize)
  else .error { pos := p, cut := final }

/-- A value that is neither an array nor an inline table. -/
def scalar (s : ByteArray) (p : Nat) : Step Scalar :=
  match s[p]? with
  | none => .error (.here p)
  | some b =>
    if b == 0x22 || b == 0x27 then (string s p).map fun (t, q) => (.str t, q)
    else if b == 0x2B || b == 0x2D || isDigitByte b then numberLike s p
    else if b == 0x5F then
      Step.within (.expected "leading digit") ((integer s p).map fun (i, q) => (.int i, q))
    else if b == 0x2E then
      Step.within (.expected "leading digit") ((float s p).map fun (d, q) => (.float d, q))
    else if b == 0x74 then (word s p "true" (.bool true) true).mapError valueContext
    else if b == 0x66 then (word s p "false" (.bool false) true).mapError valueContext
    else if b == 0x69 then (word s p "inf" (.float (.infinite false)) false).mapError valueContext
    else if b == 0x6E then (word s p "nan" (.float .nan) false).mapError valueContext
    else .error (valueContext (.here p))

mutual

/-- A value at `p`. `room` is how many more arrays and inline tables may open around it, and
`fuel` bounds the steps of the reading. -/
def value (fuel room : Nat) (s : ByteArray) (p : Nat) : Step Node :=
  match fuel with
  | 0 => .error (.here p)
  | fuel + 1 =>
    if s[p]? == some 0x5B || s[p]? == some 0x7B then
      match room with
      | 0 => .error (Failure.because p tooDeep).final
      | room + 1 => if s[p]? == some 0x5B then array fuel room s p else inlineTable fuel room s p
    else (scalar s p).map fun (v, q) => (.scalar v ⟨p, q⟩, q)

/-- An item of an array, with the blanks, line ends and comments around it. -/
def arrayItem (fuel room : Nat) (s : ByteArray) (p : Nat) : Step Node :=
  match fuel with
  | 0 => .error (.here p)
  | fuel + 1 =>
    show Except Failure (Node × Nat) from do
      let q ← gaps s p
      let (v, r) ← value fuel room s q
      let t ← gaps s r
      .ok (v, t)

/-- The items of an array after the first, each after a comma. -/
def arrayItems (fuel room : Nat) (s : ByteArray) (p : Nat) (acc : List Node) : Step (List Node) :=
  match fuel with
  | 0 => .error (.here p)
  | fuel + 1 =>
    if s[p]? == some 0x2C then
      match arrayItem fuel room s (p + 1) with
      | .ok (v, q) => arrayItems fuel room s q (acc ++ [v])
      | .error e => if e.cut then .error e else .ok (acc, p)
    else .ok (acc, p)

/-- An array, whose opening bracket is at `p`. -/
def array (fuel room : Nat) (s : ByteArray) (p : Nat) : Step Node :=
  match fuel with
  | 0 => .error (.here p)
  | fuel + 1 =>
    let q := p + 1
    let items : Step (List Node) :=
      if s[q]? == some 0x5D then .ok ([], q)
      else Step.final <| do
        let (items, r) ←
          match arrayItem fuel room s q with
          | .ok (v, r) => arrayItems fuel room s r [v]
          | .error e => if e.cut then .error e else .ok ([], q)
        let r := if !items.isEmpty && s[r]? == some 0x2C then r + 1 else r
        let t ← gaps s r
        .ok (items, t)
    match items with
    | .error e => .error e
    | .ok (items, t) =>
      if s[t]? == some 0x5D then .ok (.array items ⟨p, t + 1⟩, t + 1)
      else .error (((Failure.here t).within (.label "array")).within (.expected "`]`")).final

/-- A key and value of an inline table. -/
def inlinePair (fuel room : Nat) (s : ByteArray) (p : Nat) : Step (List Key × Key × Node) :=
  match fuel with
  | 0 => .error (.here p)
  | fuel + 1 =>
    show Except Failure ((List Key × Key × Node) × Nat) from do
    let (path, q) ← keyPath s p
    Step.final <| do
      if s[q]? != some 0x3D then
        .error (((Failure.here q).within (.expected "`.`")).within (.expected "`=`"))
      let (v, r) ← value fuel room s (blanks s (q + 1))
      let last := path.getLast?.getD default
      .ok ((path.dropLast, last, v), blanks s r)

/-- The keys and values of an inline table after the first, each after a comma. -/
def inlinePairs (fuel room : Nat) (s : ByteArray) (p : Nat) (acc : List (List Key × Key × Node)) :
    Step (List (List Key × Key × Node)) :=
  match fuel with
  | 0 => .error (.here p)
  | fuel + 1 =>
    if s[p]? == some 0x2C then
      match inlinePair fuel room s (p + 1) with
      | .ok (kv, q) => inlinePairs fuel room s q (acc ++ [kv])
      | .error e => if e.cut then .error e else .ok (acc, p)
    else .ok (acc, p)

/-- An inline table, whose opening brace is at `p`. -/
def inlineTable (fuel room : Nat) (s : ByteArray) (p : Nat) : Step Node :=
  match fuel with
  | 0 => .error (.here p)
  | fuel + 1 =>
    let q := p + 1
    let pairs : Step (List (List Key × Key × Node)) :=
      Step.final <| do
        let (pairs, r) ←
          match inlinePair fuel room s q with
          | .ok (kv, r) => inlinePairs fuel room s r [kv]
          | .error e => if e.cut then .error e else .ok ([], q)
        .ok (pairs, blanks s r)
    match pairs with
    | .error e => .error e
    | .ok (pairs, t) =>
      match Node.ofPairs ⟨p, p⟩ pairs with
      | .error e => .error (Failure.because q e.message).final
      | .ok table =>
        if s[t]? == some 0x7D then
          match table with
          | .table info entries => .ok (.table { info with span := some ⟨p, t + 1⟩ } entries, t + 1)
          | other => .ok (other, t + 1)
        else
          .error (((Failure.here t).within (.label "inline table")).within (.expected "`\x7d`")).final

end

end VectorCapture.Toml
