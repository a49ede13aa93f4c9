/-!
Text patterns with two wild cards: `%` for any run of characters and `_` for exactly one. ASCII
letters match in either case, every other character only itself. A match keeps what may be left of
the text after each part of the pattern, longest first.
-/

set_option autoImplicit false
set_option relaxedAutoImplicit false

namespace Provenance.Text

/-- The ends of a text, from the whole of it to the empty one. -/
def ends : List Char → List (List Char)
  | [] => [[]]
  | c :: rest => (c :: rest) :: ends rest

/-- What is left of a text after a character that is no wild card. -/
def afterLetter? (letter : Char) : List Char → Option (List Char)
  | [] => none
  | c :: rest => if letter.toLower == c.toLower then some rest else none

/-- What may be left after one more character of the pattern. Everything that may be left is an end
of the longest that may be. -/
def afterSign (sign : Char) (left : List (List Char)) : List (List Char) :=
  if sign = '%' then
    match left with
    | [] => []
    | longest :: _ => ends longest
  else if sign = '_' then left.filterMap List.tail?
  else left.filterMap (afterLetter? sign)

def like (pattern text : List Char) : Bool :=
  (pattern.foldl (fun left sign ↦ afterSign sign left) [text]).contains []

/-- The part of a text before its first NUL, which is all that a pattern match sees. -/
def untilNul (text : List Char) : List Char := text.takeWhile (· != '\x00')

end Provenance.Text
