import RelationalModels.Decimal.Binary64

/-!
# The shortest decimal of a floating point number

The decimals that round to a number fill an interval around it. `shortest` finds the coarsest
decimal grid with a point in that interval, and of its points the nearest one. `Binary64.text`
writes it: positionally, with at least one digit after the point, while the first digit stands
between the fourth place after the point and the sixteenth before it, and with an exponent of at
least two digits otherwise.
-/

namespace RelationalModels.Decimal

/-- The decimal `0.d₁d₂…dₙ * 10 ^ point`, with the digits `d₁d₂…dₙ` read as one integer. -/
structure Digits where
  digits : Nat
  point : Int
  deriving DecidableEq

structure Interval where
  low : Nat
  high : Nat
  den : Nat
  closed : Bool

def Interval.mem (i : Interval) (num den' : Nat) : Bool :=
  if i.closed then decide (i.low * den' ≤ num * i.den) && decide (num * i.den ≤ i.high * den')
  else decide (i.low * den' < num * i.den) && decide (num * i.den < i.high * den')

namespace Binary64

/-- Four times the value of a finite number is this over `2 ^ 1074`. -/
def quadruple (x : Binary64) : Nat := 4 * (x.significand * Nat.pow 2 x.scale)

/-- The decimals that round to a finite positive number: half way to its two neighbours. -/
def rounding (x : Binary64) : Interval :=
  let above := 2 * Nat.pow 2 x.scale
  -- below a power of two the neighbours stand half as far apart
  let below := if x.significand = Nat.pow 2 52 ∧ 0 < x.scale then Nat.pow 2 x.scale else above
  ⟨x.quadruple - below, x.quadruple + above, 4 * Nat.pow 2 1074, x.significand % 2 == 0⟩

def pointFrom (num den : Nat) : Nat → Int → Int
  | 0, p => p
  | fuel + 1, p =>
    let q := p - 1
    let fits := if 0 ≤ q then decide (num < den * Nat.pow 10 q.toNat)
      else decide (num * Nat.pow 10 (-q).toNat < den)
    if fits then pointFrom num den fuel q else p

def point (x : Binary64) : Int :=
  let size (n : Nat) : Int := (Nat.toDigits 10 n).length
  pointFrom x.quadruple (4 * Nat.pow 2 1074) 2 (size x.quadruple - size (4 * Nat.pow 2 1074) + 1)

/--
The point of the grid with `n` digits that is nearest to the number, when it lies in the rounding
interval; of two equally near ones the even one.
-/
def onGrid? (x : Binary64) (n : Nat) : Option Digits :=
  let point := x.point
  let up := Nat.pow 10 (n - point).toNat
  let down := Nat.pow 10 (point - n).toNat
  -- the number in units of the grid is `num / den`
  let num := x.quadruple * up
  let den := 4 * Nat.pow 2 1074 * down
  let here (d : Nat) : Option Digits :=
    if x.rounding.mem (d * down) up then some ⟨d, point⟩ else none
  let q := num / den
  let r := num % den
  if 2 * r < den ∨ (2 * r = den ∧ q % 2 = 0) then here q <|> here (q + 1)
  else here (q + 1) <|> here q

/-- The decimal with the fewest digits, at most `n + fuel`, that rounds to the number. -/
def shortestFrom (x : Binary64) : Nat → Nat → Option (Nat × Digits)
  | 0, _ => none
  | fuel + 1, n =>
    match x.onGrid? n with
    | some d => some (n, d)
    | none => shortestFrom x fuel (n + 1)

def shortest (x : Binary64) : List Char × Int :=
  match x.shortestFrom 17 1 with
  | none => (['0'], 1)
  | some (n, d) =>
    -- rounding up may have carried into a further digit
    let cs := Nat.toDigits 10 d.digits
    (cs.take n, if n < cs.length then d.point + 1 else d.point)

def positional (cs : List Char) (point : Int) : List Char :=
  if point ≤ 0 then '0' :: '.' :: (List.replicate (-point).toNat '0' ++ cs)
  else
    let whole := cs.take point.toNat
    let fraction := cs.drop point.toNat
    whole ++ List.replicate (point.toNat - whole.length) '0' ++
      '.' :: (if fraction.isEmpty then ['0'] else fraction)

def scientific (cs : List Char) (point : Int) : List Char :=
  let e := point - 1
  let magnitude := Nat.toDigits 10 e.natAbs
  let padded := if magnitude.length < 2 then '0' :: magnitude else magnitude
  let tail := cs.drop 1
  cs.take 1 ++ (if tail.isEmpty then [] else '.' :: tail) ++
    'e' :: (if e < 0 then '-' else '+') :: padded

def text (x : Binary64) : String :=
  if x.isNaN then "nan"
  else
    let body :=
      if x.isInfinite then "inf".toList
      else if x.magnitude = 0 then "0.0".toList
      else
        let (cs, point) := x.shortest
        if -4 < point ∧ point ≤ 16 then positional cs point else scientific cs point
    String.ofList (if x.isNegative then '-' :: body else body)

end Binary64

end RelationalModels.Decimal
