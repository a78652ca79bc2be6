import VectorCapture.Toml.Parse
import VectorCapture.Settings
import VectorCapture.Text.Quoted
/-!
# Configuration files

A configuration is a TOML document with two optional tables: `harness`, the settings of a
campaign (`max-run-bytes`, `max-accepted-runs`, `seed`), and `output`, where vectors are
written (`dir`). A key that is not one of these is refused, and a missing one takes its default.

A table of settings may also be written as an array of values in the order of its fields, the
missing ones taking their defaults. A seed is `"clock"`, or a table with one entry: `fixed` with
a count, or `clock` with an empty table or array.

An error points at the value it is about, or at the innermost enclosing value or key that
stands in the text when that value does not.
-/

namespace VectorCapture

open Toml

/-- What a configuration file holds. -/
structure Config where
  /-- The settings of the campaign. -/
  harness : Settings := {}
  /-- The directory that vectors are written to. -/
  outputDir : String := "./vectors"
  deriving Repr, Inhabited

namespace Config

/-- A result that points where its error does, or at `span` when the error points nowhere. -/
def orAt {α : Type} (span : Option Span) (r : Except Toml.Error α) : Except Toml.Error α :=
  r.mapError fun e => if e.span.isNone then { e with span } else e

/-- A double as an error about a value shows it: its text, with `.0` when it has no point. -/
def floatText (d : Decimal.Double) : String :=
  match d with
  | .finite .. => let t := d.text; if t.contains '.' then t else t ++ ".0"
  | _ => d.text

/-- How an error about a value of the wrong kind describes the value. -/
def unexpected : Node → String
  | .scalar (.str s) _ => "string " ++ Text.quote .text s
  | .scalar (.int i) _ => "integer `" ++ toString i ++ "`"
  | .scalar (.float d) _ => "floating point `" ++ floatText d ++ "`"
  | .scalar (.bool b) _ => "boolean `" ++ toString b ++ "`"
  | .scalar (.datetime _) _ => "map"
  | .array .. => "sequence"
  | .tables _ => "sequence"
  | .table .. => "map"

/-- The error for a value of the wrong kind. -/
def wrongType {α : Type} (n : Node) (expecting : String) : Except Toml.Error α :=
  .error { message := "invalid type: " ++ unexpected n ++ ", expected " ++ expecting }

/-- A count that is not negative; `expecting` names its type in errors. -/
def readCount (expecting : String) (n : Node) : Except Toml.Error Nat :=
  orAt n.span? <|
    match n with
    | .scalar (.int i) _ =>
      if i ≥ 0 then .ok i.toNat
      else .error { message := "invalid value: integer `" ++ toString i ++ "`, expected " ++ expecting }
    | other => wrongType other expecting

/-- A path, which is any string. -/
def readPath (n : Node) : Except Toml.Error String :=
  orAt n.span? <|
    match n with
    | .scalar (.str s) _ => .ok s
    | other => wrongType other "path string"

/-- The names of the variants of a seed, as errors list them. -/
def seedVariants : String := "expected `fixed` or `clock`"

/-- The value of the `clock` variant of a seed, which must be empty. A non-empty array written
in a value is refused with the words used for a table. -/
def readUnit (n : Node) : Except Toml.Error Unit :=
  match n with
  | .tables items =>
    if items.isEmpty then .ok () else .error { message := "expected empty array", span := n.span? }
  | .array items span =>
    if items.isEmpty then .ok () else .error { message := "expected empty table", span := some span }
  | .table info entries =>
    if entries.isEmpty then .ok () else .error { message := "expected empty table", span := info.span }
  | other => .error { message := "expected table, found " ++ other.typeName, span := other.span? }

/-- A seed: `"clock"`, or a table whose one entry names the variant. -/
def readSeed (n : Node) : Except Toml.Error SeedMode :=
  orAt n.span? <|
    match n with
    | .scalar (.str s) _ =>
      if s == "clock" then .ok .clock
      else if s == "fixed" then
        .error { message := "invalid type: unit variant, expected newtype variant" }
      else .error { message := "unknown variant `" ++ s ++ "`, " ++ seedVariants }
    | .table info entries =>
      match entries with
      | [] => .error { message := "wanted exactly 1 element, found 0 elements", span := info.span }
      | [(k, v)] =>
        if k.name == "fixed" then (readCount "u64" v).map fun c => .fixed c.toUInt64
        else if k.name == "clock" then (readUnit v).map fun _ => .clock
        else .error { message := "unknown variant `" ++ k.name ++ "`, " ++ seedVariants, span := k.span }
      | _ => .error { message := "wanted exactly 1 element, more than 1 element", span := info.span }
    | other => .error { message := "wanted string or table", span := other.span? }

/-- A field of a structure read from a table: its key, and how its value sets it. -/
structure Field (α : Type) where
  name : String
  read : Node → α → Except Toml.Error α

/-- The keys of a structure as an error lists them. -/
def expectedFields (names : List String) : String :=
  let quoted := names.map fun n => "`" ++ n ++ "`"
  match quoted with
  | [] => "there are no fields"
  | [a] => "expected " ++ a
  | [a, b] => "expected " ++ a ++ " or " ++ b
  | _ => "expected one of " ++ String.intercalate ", " quoted

/-- Sets the fields named by the entries of a table, in order; an unknown key is refused at the
key. -/
def readEntries {α : Type} (fields : List (Field α)) (init : α) (entries : List (Key × Node)) :
    Except Toml.Error α :=
  let step (acc : α) (entry : Key × Node) : Except Toml.Error α :=
    let (k, v) := entry
    match fields.find? (·.name == k.name) with
    | none =>
      .error { message := "unknown field `" ++ k.name ++ "`, " ++ expectedFields (fields.map (·.name)),
               span := k.span }
    | some f => orAt (v.span?.or (some k.span)) (f.read v acc)
  entries.foldlM step init

/-- A structure named `name`, from a table or from an array of its fields in order. -/
def readStruct {α : Type} (name : String) (fields : List (Field α)) (init : α) (n : Node) :
    Except Toml.Error α :=
  let inOrder (items : List Node) : Except Toml.Error α :=
    (fields.zip items).foldlM (fun acc (f, item) => orAt item.span? (f.read item acc)) init
  orAt n.span? <|
    match n with
    | .table _ entries => readEntries fields init entries
    | .array items _ => inOrder items
    | .tables items => inOrder items
    | .scalar (.datetime _) _ =>
      .error { message := "unknown field `$__toml_private_datetime`, " ++
                 expectedFields (fields.map (·.name)) }
    | other => wrongType other ("struct " ++ name)

/-- The fields of the settings of a campaign. -/
def settingsFields : List (Field Settings) :=
  [ ⟨"max-run-bytes", fun n s => (readCount "usize" n).map fun c => { s with maxRunBytes := c }⟩,
    ⟨"max-accepted-runs", fun n s => (readCount "u64" n).map fun c => { s with maxAcceptedRuns := c }⟩,
    ⟨"seed", fun n s => (readSeed n).map fun m => { s with seed := m }⟩ ]

/-- The fields of the output section. -/
def outputFields : List (Field String) :=
  [⟨"dir", fun n _ => readPath n⟩]

/-- The sections of a configuration. -/
def configFields : List (Field Config) :=
  [ ⟨"harness", fun n c => (readStruct "HarnessSettings" settingsFields {} n).map
      fun h => { c with harness := h }⟩,
    ⟨"output", fun n c => (readStruct "OutputConfig" outputFields "./vectors" n).map
      fun d => { c with outputDir := d }⟩ ]

/-- The configuration that a TOML text describes, or the first error in it. -/
def ofToml (text : String) : Except Toml.Error Config := do
  let root ← Toml.parse text
  readEntries configFields {} root

end Config

end VectorCapture
