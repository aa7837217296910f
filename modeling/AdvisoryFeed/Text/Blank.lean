import AdvisoryFeed.Text.Spans

/-!
# Blanks

The blanks of Unicode 14, removing them from the two ends of a text (`strip`), and splitting a text
at them (`words`).
-/

namespace AdvisoryFeed.Text

/-- The blanks: spaces, tabs, line ends and the four ASCII information separators. -/
def blankSpans : Spans :=
  [(0x9, 0xd), (0x1c, 0x20), (0x85, 0x85), (0xa0, 0xa0), (0x1680, 0x1680), (0x2000, 0x200a),
   (0x2028, 0x2029), (0x202f, 0x202f), (0x205f, 0x205f), (0x3000, 0x3000)]

/-- A blank character. -/
def isBlank (c : Char) : Bool :=
  blankSpans.has c

/-- The space separators: the blanks that are neither line ends nor control characters. -/
def spaceSpans : Spans :=
  [(0x20, 0x20), (0xa0, 0xa0), (0x1680, 0x1680), (0x2000, 0x200a), (0x202f, 0x202f),
   (0x205f, 0x205f), (0x3000, 0x3000)]

/-- A space separator. -/
def isSpaceSeparator (c : Char) : Bool :=
  spaceSpans.has c

/-- Removes the characters with property `p` from both ends. -/
def trimBy (p : Char → Bool) (s : List Char) : List Char :=
  ((s.dropWhile p).reverse.dropWhile p).reverse

/-- Removes the blanks from both ends. -/
def strip (s : List Char) : List Char :=
  trimBy isBlank s

/-- The words of a text: its longest pieces without blanks. -/
def words (s : List Char) : List (List Char) :=
  go s []
where
  /-- Collects the words of the rest of a text, the current one held in reverse. -/
  go : List Char → List Char → List (List Char)
    | [], word => if word.isEmpty then [] else [word.reverse]
    | c :: s, word =>
      if isBlank c then
        if word.isEmpty then go s [] else word.reverse :: go s []
      else go s (c :: word)

end AdvisoryFeed.Text
