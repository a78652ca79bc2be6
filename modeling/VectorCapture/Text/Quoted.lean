import VectorCapture.Text.Printable
/-!
# Quoted text

Text that stands inside a message is shown between delimiters, with the characters that would
be ambiguous or invisible written as escapes:

* the null character, tab, carriage return and line feed as `\0`, `\t`, `\r` and `\n`, and the
  backslash doubled;
* the delimiter itself behind a backslash;
* a grapheme extender, or any character that is not printable, as `\u` followed by its code
  point in lower-case hexadecimal between braces;
* every other character as itself.

Text and paths are quoted alike, between double quotes; a single character stands between
apostrophes. The two styles differ only in their delimiter and in which quote they escape.
-/

namespace VectorCapture.Text

/-- How a piece of text is quoted: its delimiter and which quote characters get a backslash. -/
structure QuoteStyle where
  /-- The character written before and after the text. -/
  delimiter : Char
  /-- Whether an apostrophe is written with a backslash. -/
  escapeApostrophe : Bool
  /-- Whether a double quote is written with a backslash. -/
  escapeDoubleQuote : Bool

/-- The apostrophe. -/
def apostrophe : Char := Char.ofNat 39

/-- Text between double quotes; the apostrophe stands as itself. -/
def QuoteStyle.text : QuoteStyle := ⟨'"', false, true⟩

/-- One character between apostrophes; the double quote stands as itself. -/
def QuoteStyle.char : QuoteStyle := ⟨apostrophe, true, false⟩

/-- A lower-case hexadecimal digit. -/
def hexDigit (n : Nat) : Char :=
  if n < 10 then Char.ofNat (48 + n) else Char.ofNat (87 + n)

/-- The lower-case hexadecimal digits of a number, without leading zeros. -/
def hexDigits (n : Nat) : List Char :=
  if n < 16 then [hexDigit n] else hexDigits (n / 16) ++ [hexDigit (n % 16)]

/-- The escape of a code point: a backslash, `u`, and its hexadecimal digits in braces. -/
def unicodeEscape (c : Char) : List Char :=
  ['\\', 'u', Char.ofNat 123] ++ hexDigits c.toNat ++ [Char.ofNat 125]

/-- How one character is written inside quoted text. -/
def escapeChar (st : QuoteStyle) (c : Char) : List Char :=
  if c = '\x00' then ['\\', '0']
  else if c = '\t' then ['\\', 't']
  else if c = '\r' then ['\\', 'r']
  else if c = '\n' then ['\\', 'n']
  else if c = '\\' then ['\\', '\\']
  else if c = '"' ∧ st.escapeDoubleQuote then ['\\', '"']
  else if c = apostrophe ∧ st.escapeApostrophe then ['\\', apostrophe]
  else if isGraphemeExtend c then unicodeEscape c
  else if isPrintable c then [c]
  else unicodeEscape c

/-- The characters of `cs` quoted in style `st`. -/
def quoteChars (st : QuoteStyle) (cs : List Char) : List Char :=
  st.delimiter :: cs.flatMap (escapeChar st) ++ [st.delimiter]

/-- A text quoted in style `st`. -/
def quote (st : QuoteStyle) (s : String) : String :=
  String.ofList (quoteChars st s.toList)

end VectorCapture.Text
