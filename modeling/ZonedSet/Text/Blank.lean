/-
ZonedSet.Text.Blank — white space, lines, and the first word of a text.

Mount tables and attribute files are read word by word. A word ends at any character with the
Unicode property White_Space, which is wider than `Char.isWhitespace`: it has the vertical tab,
the form feed, the next-line control and the spaces outside ASCII too.
-/

namespace ZonedSet.Text

/-- The property White_Space. -/
def isBlank (c : Char) : Bool :=
  let n := c.toNat
  (9 ≤ n && n ≤ 13) || n == 0x20 || n == 0x85 || n == 0xA0 || n == 0x1680 ||
    (0x2000 ≤ n && n ≤ 0x200A) || n == 0x2028 || n == 0x2029 || n == 0x202F ||
    n == 0x205F || n == 0x3000

/-- The first maximal run of characters that are not blank. -/
def firstWord? (text : List Char) : Option (List Char) :=
  match text.dropWhile isBlank with
  | [] => none
  | rest => some (rest.takeWhile fun c => !isBlank c)

/-- The lines of a text, without their line feeds. A line feed at the end starts no further
line. -/
def lines : List Char → List (List Char)
  | [] => []
  | c :: rest =>
    if c = '\n' then [] :: lines rest
    else
      match lines rest with
      | [] => [[c]]
      | line :: more => (c :: line) :: more

end ZonedSet.Text
