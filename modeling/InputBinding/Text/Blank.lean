import InputBinding.Text.CodeRange

/-!
Blanks and how they are stripped from the ends of a text. `strip` is the operation on characters
that the grammar uses, `trim` the same on strings.
-/

namespace InputBinding.Text

/-- Every white space character and the four information separators U+001C to U+001F. -/
def blankRanges : List (Nat × Nat) := [
  (0x9, 0xd), (0x1c, 0x20), (0x85, 0x85), (0xa0, 0xa0), (0x1680, 0x1680), (0x2000, 0x200a),
  (0x2028, 0x2029), (0x202f, 0x202f), (0x205f, 0x205f), (0x3000, 0x3000)]

def isBlank (char : Char) : Bool :=
  inRanges blankRanges char.toNat

def stripLeft (chars : List Char) : List Char :=
  chars.dropWhile isBlank

def stripRight (chars : List Char) : List Char :=
  (chars.reverse.dropWhile isBlank).reverse

def strip (chars : List Char) : List Char :=
  stripRight (stripLeft chars)

def trim (text : String) : String :=
  String.ofList (strip text.toList)

end InputBinding.Text
