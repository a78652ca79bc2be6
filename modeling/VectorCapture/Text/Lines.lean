/-!
# Splitting text into lines

A text is cut at each line feed. A line ended by a line feed also loses one carriage return
just before it, so both line ends count; a carriage return anywhere else is kept. The piece
after the last line feed is a line only if it is not empty, so a text that ends with a line
feed has no empty last line, and the empty text has no lines at all.
-/

namespace VectorCapture.Text

/-- The line that ended with a line feed, less one carriage return at its end. -/
def dropReturn (line : List Char) : List Char :=
  match line.reverse with
  | '\r' :: rest => rest.reverse
  | _ => line

/-- The lines of `cs`, where `cur` holds the reversed characters of the line begun so far. -/
def linesFrom : List Char → List Char → List (List Char)
  | [], cur => if cur.isEmpty then [] else [cur.reverse]
  | '\n' :: rest, cur => dropReturn cur.reverse :: linesFrom rest []
  | c :: rest, cur => linesFrom rest (c :: cur)

/-- The lines of a text. -/
def lines (cs : List Char) : List (List Char) :=
  linesFrom cs []

end VectorCapture.Text
