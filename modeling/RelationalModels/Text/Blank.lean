import RelationalModels.Text.Ranges

/-!
# White space

Two classes are in use. `isBlank` is the Unicode property White_Space and is what surrounds a
number in a text. `isSpace` adds the four information separators U+001C to U+001F and is what
separates the words of a select entry.
-/

namespace RelationalModels.Text

def blankTable : Ranges :=
  [(0x9, 0xD), (0x20, 0x20), (0x85, 0x85), (0xA0, 0xA0), (0x1680, 0x1680), (0x2000, 0x200A),
   (0x2028, 0x2029), (0x202F, 0x202F), (0x205F, 0x205F), (0x3000, 0x3000)]

def isBlank (c : Char) : Bool := blankTable.mem c.toNat

/-- White space together with the information separators. -/
def isSpace (c : Char) : Bool := isBlank c || Ranges.mem [(0x1C, 0x1F)] c.toNat

def trimBy (p : Char → Bool) (cs : List Char) : List Char :=
  ((cs.dropWhile p).reverse.dropWhile p).reverse

def trimBlank (cs : List Char) : List Char := trimBy isBlank cs

def trimSpace (cs : List Char) : List Char := trimBy isSpace cs

end RelationalModels.Text
