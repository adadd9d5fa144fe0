/-!
# Cutting texts

A text is cut in two at a character, which is left out, or into the parts between all occurrences
of one.
-/

namespace RelationalModels.Text

/-- The characters before the first that satisfies `p`, and those after it when there is one. -/
def cutAt (p : Char → Bool) (cs : List Char) : List Char × Option (List Char) :=
  let before := cs.takeWhile fun c => !p c
  match cs.dropWhile fun c => !p c with
  | [] => (before, none)
  | _ :: after => (before, some after)

def cutAtLast (p : Char → Bool) (cs : List Char) : Option (List Char) × List Char :=
  let (after, before) := cutAt p cs.reverse
  (before.map List.reverse, after.reverse)

def splitOnChar (sep : Char) : List Char → List (List Char)
  | [] => [[]]
  | c :: cs =>
    if c = sep then [] :: splitOnChar sep cs
    else
      match splitOnChar sep cs with
      | [] => [[c]]
      | part :: parts => (c :: part) :: parts

end RelationalModels.Text
