import RelationalModels.Text.CaseClass
import RelationalModels.Text.CaseTable

/-!
# Case

Full lower and title case. A capital sigma at the end of a word has a lower-case form of its own:
the nearest neighbour on the left that is not case-ignorable is cased, and the nearest one on the
right is not. ASCII-only maps, for comparisons against ASCII words, stand beside them.
-/

namespace RelationalModels.Text

def facesCased (cs : List Char) : Bool :=
  match cs.dropWhile isCaseIgnorable with
  | [] => false
  | c :: _ => isCased c

/-- The lower-case form of a character, given what precedes it (nearest first) and follows it. -/
def lowerChar (before : List Char) (c : Char) (after : List Char) : List Char :=
  if c.toNat = 0x3A3 then
    [if facesCased before && !facesCased after then Char.ofNat 0x3C2 else Char.ofNat 0x3C3]
  else if c.toNat = 0x130 then [Char.ofNat 0x69, Char.ofNat 0x307]
  else
    match applyRuns? lowerRuns c.toNat with
    | some n => [Char.ofNat n]
    | none => [c]

def lowerFrom : List Char → List Char → List Char
  | _, [] => []
  | before, c :: after => lowerChar before c after ++ lowerFrom (c :: before) after

def titleChar (c : Char) : List Char :=
  match titleSequences.lookup c.toNat with
  | some ns => ns.map Char.ofNat
  | none =>
    match applyRuns? titleRuns c.toNat with
    | some n => [Char.ofNat n]
    | none => [c]

def capitalize (s : String) : String :=
  match s.toList with
  | [] => ""
  | c :: rest => String.ofList (titleChar c ++ lowerFrom [c] rest)

def asciiLower (c : Char) : Char :=
  if 'A' ≤ c ∧ c ≤ 'Z' then Char.ofNat (c.toNat + 32) else c

/--
The characters beyond ASCII with an upper-case form in ASCII: the sharp s, the dotless i, the long s
and the ligatures.
-/
def asciiUpperForms : List (Nat × String) :=
  [(0xDF, "SS"), (0x131, "I"), (0x17F, "S"), (0xFB00, "FF"), (0xFB01, "FI"), (0xFB02, "FL"),
   (0xFB03, "FFI"), (0xFB04, "FFL"), (0xFB05, "ST"), (0xFB06, "ST")]

def upperToAscii (c : Char) : List Char :=
  if 'a' ≤ c ∧ c ≤ 'z' then [Char.ofNat (c.toNat - 32)]
  else
    match asciiUpperForms.lookup c.toNat with
    | some form => form.toList
    | none => [c]

def eqIgnoringAsciiCase (s t : String) : Bool :=
  s.toList.map asciiLower == t.toList.map asciiLower

end RelationalModels.Text
