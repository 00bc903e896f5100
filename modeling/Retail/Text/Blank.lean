import Retail.Text.Ranges

/-!
# White space

The characters that separate words, and the words between them.

## Main definitions

* `isBlank`: the characters with the White_Space property
* `trimBlank`: the text without the blanks around it
* `words`: the maximal runs of other characters
-/

namespace Retail

namespace Text

/-- The ranges of the characters with the White_Space property. -/
def blankRanges : List (Nat × Nat) :=
  [(0x09, 0x0D), (0x20, 0x20), (0x85, 0x85), (0xA0, 0xA0), (0x1680, 0x1680), (0x2000, 0x200A),
    (0x2028, 0x2029), (0x202F, 0x202F), (0x205F, 0x205F), (0x3000, 0x3000)]

/-- The characters with the White_Space property. -/
def isBlank : Char → Bool := inRanges blankRanges

/-- The characters without the blanks before and after them. -/
def trimBlank (chars : List Char) : List Char :=
  ((chars.dropWhile isBlank).reverse.dropWhile isBlank).reverse

/-- The words of a text, given the characters of the word that is being read. -/
def wordsFrom (word : List Char) : List Char → List (List Char)
  | [] => if word.isEmpty then [] else [word.reverse]
  | c :: rest =>
    if isBlank c then
      if word.isEmpty then wordsFrom [] rest else word.reverse :: wordsFrom [] rest
    else wordsFrom (c :: word) rest

/-- The maximal runs of characters that are not blank. -/
def words (chars : List Char) : List (List Char) := wordsFrom [] chars

end Text

end Retail
