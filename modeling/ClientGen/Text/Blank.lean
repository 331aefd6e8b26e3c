import ClientGen.Text.CharSet

/-!
# Blanks and lines

The blank characters, the removal of blanks from the ends of a text, and the division of
a text into lines. Texts are lists of characters here, so that each operation is a
recursion on the data.

The set of blanks is wider than the ASCII one: it holds the separators `U+001C` to
`U+001F`, the next-line control `U+0085` and the spaces of Unicode. The set of line breaks
is a part of it.
-/

namespace ClientGen.Text

/-- The blank characters. -/
def blanks : CharSet where
  intervals :=
    [(0x09, 0x0D), (0x1C, 0x20), (0x85, 0x85), (0xA0, 0xA0), (0x1680, 0x1680), (0x2000, 0x200A),
     (0x2028, 0x2029), (0x202F, 0x202F), (0x205F, 0x205F), (0x3000, 0x3000)]

/-- Whether a character is a blank. -/
def isBlank (c : Char) : Bool :=
  blanks.contains c

/-- Whether a character ends a line. A carriage return followed by a line feed is one
break, see `splitLines`. -/
def isLineBreak (c : Char) : Bool :=
  (CharSet.mk [(0x0A, 0x0D), (0x1C, 0x1E), (0x85, 0x85), (0x2028, 0x2029)]).contains c

/-- Drop the longest final part of a list whose elements all satisfy `p`. -/
def dropEndWhile {α : Type} (p : α → Bool) (s : List α) : List α :=
  (s.reverse.dropWhile p).reverse

/-- Remove the blanks at the end of a text. -/
def stripEnd (s : List Char) : List Char :=
  dropEndWhile isBlank s

/-- Remove the blanks at both ends of a text. -/
def strip (s : List Char) : List Char :=
  stripEnd (s.dropWhile isBlank)

/-- Whether a text is empty or has blanks only. -/
def isAllBlank (s : List Char) : Bool :=
  s.all isBlank

/-- Put a character in front of the first line of a list of lines. -/
def consFirst (c : Char) : List (List Char) → List (List Char)
  | [] => [[c]]
  | l :: ls => (c :: l) :: ls

/-- **The lines of a text**, without their breaks. A break at the very end does not open
another line, and the empty text has no lines. -/
def splitLines : List Char → List (List Char)
  | [] => []
  | '\r' :: '\n' :: cs => [] :: splitLines cs
  | c :: cs => if isLineBreak c then [] :: splitLines cs else consFirst c (splitLines cs)

/-- The pieces of a text between the occurrences of one character; always at least one. -/
def splitOnChar (sep : Char) : List Char → List (List Char)
  | [] => [[]]
  | c :: cs => if c = sep then [] :: splitOnChar sep cs else consFirst c (splitOnChar sep cs)

theorem splitOnChar_ne_nil (sep : Char) (s : List Char) : splitOnChar sep s ≠ [] := by
  cases s with
  | nil => simp [splitOnChar]
  | cons c cs =>
    unfold splitOnChar
    split
    · simp
    · cases splitOnChar sep cs <;> simp [consFirst]

/-- Whether `part` occurs in `s` as consecutive characters. -/
def occursIn (part : List Char) : List Char → Bool
  | [] => part.isEmpty
  | c :: cs => part.isPrefixOf (c :: cs) || occursIn part cs

/-- Whether the characters of one string occur consecutively in another. -/
def contains (s part : String) : Bool :=
  occursIn part.toList s.toList

end ClientGen.Text
