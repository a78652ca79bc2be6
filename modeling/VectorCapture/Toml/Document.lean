import VectorCapture.Decimal.Shortest
/-!
# TOML documents

A TOML document is a tree of tables. Each entry of a table has a key and is a plain value, an
array, an inline table, a table of its own, or an array of tables. Every piece that stands in the
text remembers its *span*, the byte range it covers, so that errors can point at it; tables that
only exist because a longer key or header passed through them have no span.

Tables are kept in the order their keys first appeared, and the rules of the format for
defining tables are checked while a document is built:

* a key may be given once per table;
* a header may define a table once, though a table first made on the way to a longer key may be
  defined by a header later;
* a dotted key may extend tables made by dotted keys only, and never a plain value; in an inline
  table it may not extend a table written between braces either.
-/

namespace VectorCapture.Toml

/-- A byte range of the text, end excluded. -/
structure Span where
  start : Nat
  stop : Nat
  deriving DecidableEq, Repr, Inhabited

/-- One key of a path: its value, the text it was written as, and where. -/
structure Key where
  name : String
  raw : String
  span : Span
  deriving Repr, Inhabited

/-- A plain value. -/
inductive Scalar where
  | str (s : String)
  | int (i : Int)
  | float (d : Decimal.Double)
  | bool (b : Bool)
  | datetime (text : String)
  deriving Repr, Inhabited

/-- How a table came to be. -/
structure TableInfo where
  /-- Written between braces inside a value. -/
  inline : Bool := false
  /-- Made on the way to a longer key or header. -/
  implicit : Bool := false
  /-- Made by a dotted key. -/
  dotted : Bool := false
  /-- Where it stands, if it does. -/
  span : Option Span := none
  deriving Repr, Inhabited

/-- An entry of a table. -/
inductive Node where
  | scalar (v : Scalar) (span : Span)
  | array (items : List Node) (span : Span)
  | table (info : TableInfo) (entries : List (Key × Node))
  | tables (items : List Node)
  deriving Repr, Inhabited

/-- Why a document breaks the rules of the format. -/
inductive BuildError where
  /-- A key defined twice; `table` is the path of the table, when known. -/
  | duplicateKey (key : String) (table : Option (List String))
  /-- A dotted key runs through a plain value. -/
  | extendWrongType (path : List String) (actual : String)
  deriving Repr

/-- The message of a build error. -/
def BuildError.message : BuildError → String
  | .duplicateKey key none => "duplicate key `" ++ key ++ "`"
  | .duplicateKey key (some []) => "duplicate key `" ++ key ++ "` in document root"
  | .duplicateKey key (some path) =>
    "duplicate key `" ++ key ++ "` in table `" ++ String.intercalate "." path ++ "`"
  | .extendWrongType path actual =>
    "dotted key `" ++ String.intercalate "." path ++ "` attempted to extend non-table type (" ++
      actual ++ ")"

namespace Node

/-- The name of the kind of an entry, as errors give it. -/
def typeName : Node → String
  | .scalar (.str _) _ => "string"
  | .scalar (.int _) _ => "integer"
  | .scalar (.float _) _ => "float"
  | .scalar (.bool _) _ => "boolean"
  | .scalar (.datetime _) _ => "datetime"
  | .array .. => "array"
  | .table info _ => if info.inline then "inline table" else "table"
  | .tables _ => "array of tables"

/-- Where a table stands, if it does. -/
def tableSpan? : Node → Option Span
  | .table info _ => info.span
  | _ => none

/-- Where an entry stands, if it does; an array of tables stands from its first table to its
last. -/
def span? : Node → Option Span
  | .scalar _ s => some s
  | .array _ s => some s
  | .table info _ => info.span
  | .tables items =>
    match items.head?.bind tableSpan?, items.getLast?.bind tableSpan? with
    | some first, some last => some ⟨first.start, last.stop⟩
    | _, _ => none

/-- An empty table made on the way to a longer key. -/
def implicitTable (dotted inline : Bool) : Node :=
  .table { inline, implicit := true, dotted } []

end Node

/-- Whether a key can be written bare: it is not empty, and has only ASCII letters and digits,
dashes and underscores. -/
def isBareKey (name : String) : Bool :=
  !name.isEmpty && name.all fun c => c.isAlphanum || c == '-' || c == '_'

/-- The four upper-case hexadecimal digits of a code point below `0x10000`. -/
def hex4 (n : Nat) : String :=
  let digit (d : Nat) : Char := if d < 10 then Char.ofNat (48 + d) else Char.ofNat (55 + d)
  String.ofList ((List.range 4).reverse.map fun i => digit (n / Nat.pow 16 i % 16))

/-- How a character is written inside a basic string: the usual short escapes, other control
characters as four hexadecimal digits, and the rest as itself. -/
def basicEscape (c : Char) : String :=
  if c = '\x08' then "\\b"
  else if c = '\t' then "\\t"
  else if c = '\n' then "\\n"
  else if c = '\x0c' then "\\f"
  else if c = '\r' then "\\r"
  else if c = '"' then "\\\""
  else if c = '\\' then "\\\\"
  else if c.toNat ≤ 0x1f ∨ c.toNat = 0x7f then "\\u" ++ hex4 c.toNat
  else c.toString

/-- Whether a character can only be written in a string through an escape code: a control
character other than the tab. -/
def needsEscapeCode (c : Char) : Bool :=
  (c.toNat ≤ 0x1f && c != '\t') || c.toNat = 0x7f

/-- Whether a key is better written as a literal string between apostrophes: a basic string
would have to escape a quotation mark or a backslash in it, and a literal string can hold it,
since it has no apostrophe and no character that needs an escape code. -/
def prefersLiteral (name : String) : Bool :=
  (name.contains '"' || name.contains '\\') && !name.contains '\'' && !name.any needsEscapeCode

/-- A key as the format writes it: bare when it can be, else as a literal string when it prefers
one, else as a basic string. -/
def keyText (name : String) : String :=
  if isBareKey name then name
  else if prefersLiteral name then "'" ++ name ++ "'"
  else "\"" ++ String.join (name.toList.map basicEscape) ++ "\""

/-- The entries with the one under `k`'s name replaced by `n` (its key kept), or `(k, n)` added
at the end. -/
def setEntry (entries : List (Key × Node)) (k : Key) (n : Node) : List (Key × Node) :=
  if entries.any (·.1.name == k.name) then
    entries.map (fun e => if e.1.name == k.name then (e.1, n) else e)
  else entries ++ [(k, n)]

/-- The entry under a name. -/
def lookup? (entries : List (Key × Node)) (name : String) : Option (Key × Node) :=
  entries.find? (·.1.name == name)

/-- The entries less the one under a name, the order of the rest kept. -/
def dropEntry (entries : List (Key × Node)) (name : String) : List (Key × Node) :=
  entries.filter (·.1.name != name)

/-- What a path runs through on its way to the table it names. -/
inductive Reach where
  /-- The path of a header, from the document root. -/
  | header
  /-- A dotted key in a table of the document. -/
  | dotted
  /-- A dotted key in an inline table. -/
  | inline
  deriving DecidableEq, Repr

/-- The table that a path makes when it finds no entry on its way. -/
def Reach.freshTable : Reach → Node
  | .header => .table { implicit := true } []
  | .dotted => .table { implicit := true, dotted := true } []
  | .inline => .table { inline := true, implicit := true, dotted := true } []

/-- Applies `f` to the table at the end of `path`, below a table with `info` and `entries`,
making tables on the way; an array of tables is passed through its last element. `whole` is the
full path, for errors, and `i` the number of its keys already passed. -/
def descend {α : Type} (reach : Reach)
    (f : TableInfo → List (Key × Node) → Except BuildError (TableInfo × List (Key × Node) × α))
    (whole : List String) : Nat → List Key → TableInfo → List (Key × Node) →
    Except BuildError (TableInfo × List (Key × Node) × α)
  | _, [], info, entries => f info entries
  | i, k :: rest, info, entries => do
    let child := ((lookup? entries k.name).map (·.2)).getD reach.freshTable
    let wrong (n : Node) : BuildError := .extendWrongType (whole.take (i + 1)) n.typeName
    match child with
    | .table cinfo centries =>
      if reach != .inline && cinfo.inline then throw (wrong child)
      if reach != .header && !cinfo.implicit then throw (.duplicateKey k.name none)
      let (cinfo', centries', a) ← descend reach f whole (i + 1) rest cinfo centries
      pure (info, setEntry entries k (.table cinfo' centries'), a)
    | .tables items =>
      if reach == .inline then throw (wrong child)
      match items.getLast? with
      | some (.table cinfo centries) =>
        let (cinfo', centries', a) ← descend reach f whole (i + 1) rest cinfo centries
        pure (info, setEntry entries k (.tables (items.dropLast ++ [.table cinfo' centries'])), a)
      | _ => throw (wrong child)
    | other => throw (wrong other)

/-- Adds the value `v` under the dotted key `path ++ [k]` to a table. `tablePath` names the table
in the error for a key given twice, when it is a table of the document. -/
def addKeyval (reach : Reach) (tablePath : Option (List String)) (path : List Key) (k : Key)
    (v : Node) (info : TableInfo) (entries : List (Key × Node)) :
    Except BuildError (TableInfo × List (Key × Node)) := do
  let whole := path.map (·.name) ++ [k.name]
  let (info, entries, _) ← descend reach (fun tinfo tentries => do
      -- a dotted key may not add to a table of a header, nor a plain key to a dotted table
      if tinfo.dotted == path.isEmpty then throw (.duplicateKey k.name none)
      match lookup? tentries k.name with
      | some (old, _) => throw (.duplicateKey old.name tablePath)
      | none => pure (tinfo, tentries ++ [(k, v)], ())) whole 0 path info entries
  pure (info, entries)

/-- The inline table written with the given keys and values, in order. -/
def Node.ofPairs (span : Span) (pairs : List (List Key × Key × Node)) : Except BuildError Node := do
  let step (acc : TableInfo × List (Key × Node)) (p : List Key × Key × Node) :=
    addKeyval .inline none p.1 p.2.1 p.2.2 acc.1 acc.2
  let (info, entries) ← pairs.foldlM step ({ inline := true }, [])
  pure (.table { info with span := some span } entries)

/-- The state of a document being built: the tables finished so far, and the table whose header
came last, with its path and whether it is an element of an array of tables. -/
structure Builder where
  root : List (Key × Node) := []
  current : TableInfo := {}
  currentEntries : List (Key × Node) := []
  currentPath : List Key := []
  currentIsArray : Bool := false
  deriving Inhabited

namespace Builder

/-- The error for a header naming a table already defined: the key as the format writes it,
and the path of the table it was to go in. -/
def redefined (path : List Key) (k : Key) : BuildError :=
  .duplicateKey (keyText k.name) (some (path.map (·.name)))

/-- Adds a key and value to the current table; the value's end stretches the table's span. -/
def keyval (b : Builder) (path : List Key) (k : Key) (v : Node) : Except BuildError Builder := do
  let current :=
    match b.current.span, v.span? with
    | some s, some vs => { b.current with span := some ⟨s.start, vs.stop⟩ }
    | _, _ => b.current
  let (info, entries) ← addKeyval .dotted (some (b.currentPath.map (·.name))) path k v current
    b.currentEntries
  pure { b with current := info, currentEntries := entries }

/-- Puts the current table in its place: the root's own keys into the root, a header's table
under its path, an element at the end of its array of tables. -/
def finish (b : Builder) : Except BuildError Builder := do
  match b.currentPath.reverse with
  | [] => pure { b with root := b.currentEntries ++ b.root, currentEntries := [] }
  | k :: parentRev =>
    let parent := parentRev.reverse
    let table := Node.table b.current b.currentEntries
    let (_, root, _) ← descend .header (fun pinfo pentries => do
        match lookup? pentries k.name with
        | some (_, .tables items) =>
          if b.currentIsArray then pure (pinfo, setEntry pentries k (.tables (items ++ [table])), ())
          else throw (redefined parent k)
        | some (_, .table cinfo _) =>
          if cinfo.implicit && !b.currentIsArray then pure (pinfo, setEntry pentries k table, ())
          else throw (redefined parent k)
        | some _ => throw (redefined parent k)
        | none =>
          pure (pinfo, pentries ++ [(k, if b.currentIsArray then .tables [table] else table)], ()))
      (b.currentPath.map (·.name)) 0 parent {} b.root
    pure { b with root, currentEntries := [], current := {}, currentPath := [] }

/-- Starts the table of a `[path]` header that spans `span`. -/
def header (b : Builder) (path : List Key) (span : Span) : Except BuildError Builder := do
  let b ← b.finish
  match path.reverse with
  | [] => pure b
  | k :: parentRev =>
    let parent := parentRev.reverse
    -- a table made on the way to a longer header is taken over, and leaves its place
    let (_, root, taken) ← descend .header (fun pinfo pentries => do
        match lookup? pentries k.name with
        | none => pure (pinfo, pentries, [])
        | some (_, .table cinfo centries) =>
          if cinfo.implicit && !cinfo.dotted then pure (pinfo, dropEntry pentries k.name, centries)
          else throw (redefined parent k)
        | some _ => throw (redefined parent k))
      (path.map (·.name)) 0 parent {} b.root
    pure
      { root, current := { span := some span }, currentEntries := taken, currentPath := path,
        currentIsArray := false }

/-- Starts a new element of the array of tables of a `[[path]]` header that spans `span`. -/
def arrayHeader (b : Builder) (path : List Key) (span : Span) : Except BuildError Builder := do
  let b ← b.finish
  match path.reverse with
  | [] => pure b
  | k :: parentRev =>
    let parent := parentRev.reverse
    let (_, root, _) ← descend .header (fun pinfo pentries => do
        match lookup? pentries k.name with
        | none => pure (pinfo, pentries ++ [(k, .tables [])], ())
        | some (_, .tables _) => pure (pinfo, pentries, ())
        | some _ => throw (redefined parent k))
      (path.map (·.name)) 0 parent {} b.root
    pure
      { root, current := { span := some span }, currentEntries := [], currentPath := path,
        currentIsArray := true }

end Builder

end VectorCapture.Toml
