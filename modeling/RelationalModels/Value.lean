import RelationalModels.Decimal.Binary64

/-!
# Dynamic values

Model definitions, query options and rows arrive as data of no fixed shape. A `Value` is such a
datum; its mappings keep the order of their keys. `Value.decEq` decides equality.
-/

namespace RelationalModels

open RelationalModels.Decimal

inductive Value where
  | null
  | bool (b : Bool)
  | int (n : Int)
  | float (x : Binary64)
  | text (s : String)
  | list (items : List Value)
  | map (entries : List (String × Value))
  deriving Inhabited

namespace Value

mutual

def decEq : (a b : Value) → Decidable (a = b)
  | null, null => isTrue rfl
  | bool a, bool b => decidable_of_iff (a = b) (by simp)
  | int a, int b => decidable_of_iff (a = b) (by simp)
  | float a, float b => decidable_of_iff (a = b) (by simp)
  | text a, text b => decidable_of_iff (a = b) (by simp)
  | list a, list b =>
    match decEqItems a b with
    | isTrue h => isTrue (by rw [h])
    | isFalse h => isFalse fun e => h (by injection e)
  | map a, map b =>
    match decEqEntries a b with
    | isTrue h => isTrue (by rw [h])
    | isFalse h => isFalse fun e => h (by injection e)
  | null, bool _ => isFalse nofun
  | null, int _ => isFalse nofun
  | null, float _ => isFalse nofun
  | null, text _ => isFalse nofun
  | null, list _ => isFalse nofun
  | null, map _ => isFalse nofun
  | bool _, null => isFalse nofun
  | bool _, int _ => isFalse nofun
  | bool _, float _ => isFalse nofun
  | bool _, text _ => isFalse nofun
  | bool _, list _ => isFalse nofun
  | bool _, map _ => isFalse nofun
  | int _, null => isFalse nofun
  | int _, bool _ => isFalse nofun
  | int _, float _ => isFalse nofun
  | int _, text _ => isFalse nofun
  | int _, list _ => isFalse nofun
  | int _, map _ => isFalse nofun
  | float _, null => isFalse nofun
  | float _, bool _ => isFalse nofun
  | float _, int _ => isFalse nofun
  | float _, text _ => isFalse nofun
  | float _, list _ => isFalse nofun
  | float _, map _ => isFalse nofun
  | text _, null => isFalse nofun
  | text _, bool _ => isFalse nofun
  | text _, int _ => isFalse nofun
  | text _, float _ => isFalse nofun
  | text _, list _ => isFalse nofun
  | text _, map _ => isFalse nofun
  | list _, null => isFalse nofun
  | list _, bool _ => isFalse nofun
  | list _, int _ => isFalse nofun
  | list _, float _ => isFalse nofun
  | list _, text _ => isFalse nofun
  | list _, map _ => isFalse nofun
  | map _, null => isFalse nofun
  | map _, bool _ => isFalse nofun
  | map _, int _ => isFalse nofun
  | map _, float _ => isFalse nofun
  | map _, text _ => isFalse nofun
  | map _, list _ => isFalse nofun

def decEqItems : (a b : List Value) → Decidable (a = b)
  | [], [] => isTrue rfl
  | x :: xs, y :: ys =>
    match decEq x y, decEqItems xs ys with
    | isTrue h, isTrue t => isTrue (by rw [h, t])
    | isFalse h, _ => isFalse fun e => h (by injection e)
    | _, isFalse t => isFalse fun e => t (by injection e)
  | [], _ :: _ => isFalse nofun
  | _ :: _, [] => isFalse nofun

def decEqEntries : (a b : List (String × Value)) → Decidable (a = b)
  | [], [] => isTrue rfl
  | (k, x) :: xs, (l, y) :: ys =>
    match decEq x y, decEqEntries xs ys with
    | isTrue h, isTrue t =>
      if e : k = l then isTrue (by rw [h, t, e])
      else isFalse fun c => e (by injection c with c; injection c)
    | isFalse h, _ => isFalse fun c => h (by injection c with c; injection c)
    | _, isFalse t => isFalse fun c => t (by injection c)
  | [], _ :: _ => isFalse nofun
  | _ :: _, [] => isFalse nofun

end

instance : DecidableEq Value := decEq

def kindName : Value → String
  | null => "NoneType"
  | bool _ => "bool"
  | int _ => "int"
  | float _ => "float"
  | text _ => "str"
  | list _ => "list"
  | map _ => "dict"

end Value

end RelationalModels
