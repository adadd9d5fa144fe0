import RelationalModels.Text.WordTable

/-!
# Word characters

A word character is a letter or numeral of any script, or an underscore. Names made of word
characters are the ones a select entry may leave unqualified.
-/

namespace RelationalModels.Text

def isAsciiWord (c : Char) : Bool :=
  decide ('a' ≤ c) && decide (c ≤ 'z') || decide ('A' ≤ c) && decide (c ≤ 'Z') ||
    decide ('0' ≤ c) && decide (c ≤ '9') || c == '_'

def isWord (c : Char) : Bool :=
  if c.toNat < 128 then isAsciiWord c else wordTable.mem c.toNat

def isBareName (cs : List Char) : Bool := !cs.isEmpty && cs.all isWord

end RelationalModels.Text
