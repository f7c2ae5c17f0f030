/-!
# Line breaks

Files end their lines with a line feed, a carriage return or both.  Reading a
file as text turns each of the three into one line feed.
-/

namespace ModalKeymap.Text

/-- The characters of a file with every line break turned into a line feed. -/
def unifyLineBreaks : List Char → List Char
  | [] => []
  | '\r' :: '\n' :: rest => '\n' :: unifyLineBreaks rest
  | '\r' :: rest => '\n' :: unifyLineBreaks rest
  | character :: rest => character :: unifyLineBreaks rest

end ModalKeymap.Text
