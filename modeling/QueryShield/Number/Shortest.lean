import QueryShield.Number.Double

namespace QueryShield.Double

structure Decimal where
  digits : Nat
  exponent : Int
  deriving DecidableEq, Repr

/-- The reals that round to a double, in quarters of its last bit. -/
structure Interval where
  low : Nat
  center : Nat
  high : Nat
  closed : Bool
  exponent : Int

def interval (x : Double) : Interval where
  low := if x.mantissa = Nat.pow 2 52 ∧ leastExponent < x.exponent
    then 4 * x.mantissa - 1 else 4 * x.mantissa - 2
  center := 4 * x.mantissa
  high := 4 * x.mantissa + 2
  closed := x.mantissa % 2 == 0
  exponent := x.exponent - 2

/-- `n` multiples of `10 ^ k`, on a scale where they compare with `Interval.scale`. -/
def Interval.gridPoint (i : Interval) (k : Int) (n : Nat) : Nat :=
  n * Nat.pow 10 k.toNat * Nat.pow 2 (-i.exponent).toNat

def Interval.scale (i : Interval) (k : Int) (quarters : Nat) : Nat :=
  quarters * Nat.pow 2 i.exponent.toNat * Nat.pow 10 (-k).toNat

def Interval.holds (i : Interval) (k : Int) (n : Nat) : Bool :=
  let point := i.gridPoint k n
  let low := i.scale k i.low
  let high := i.scale k i.high
  if i.closed then low ≤ point && point ≤ high else low < point && point < high

def Interval.nearest? (i : Interval) (k : Int) : Option Nat :=
  let center := i.scale k i.center
  let below := center / i.gridPoint k 1
  let above := below + 1
  match i.holds k below, i.holds k above with
  | false, false => none
  | true, false => some below
  | false, true => some above
  | true, true =>
    let down := center - i.gridPoint k below
    let up := i.gridPoint k above - center
    some (if down < up then below else if up < down then above else below + below % 2)

def Interval.search (i : Interval) : Nat → Int → Decimal
  | 0, k => ⟨i.scale k i.center / i.gridPoint k 1, k⟩
  | tries + 1, k =>
    match i.nearest? k with
    | some n => ⟨n, k⟩
    | none => i.search tries (k - 1)

def powerAbove (x : Double) : Int :=
  (((x.mantissa.log2 : Int) + x.exponent + 1) * 30103).fdiv 100000 + 1

def shortest (x : Double) : Decimal :=
  if x.isZero then ⟨0, 0⟩ else x.interval.search 24 x.powerAbove

structure Positional where
  least : Int
  greatest : Int

def positional : Positional := ⟨-5, 15⟩

def withPoint (digits : String) (whole : Int) : String :=
  if whole ≤ 0 then "0." ++ "".pushn '0' (-whole).toNat ++ digits
  else if digits.length ≤ whole.toNat then digits.pushn '0' (whole.toNat - digits.length) ++ ".0"
  else String.ofList (digits.toList.take whole.toNat) ++ "." ++
    String.ofList (digits.toList.drop whole.toNat)

def scientific (digits : String) (power : Int) : String :=
  let sign := if power < 0 then "e-" else "e+"
  let head := String.ofList (digits.toList.take 1)
  let tail := String.ofList (digits.toList.drop 1)
  head ++ (if tail.isEmpty then "" else "." ++ tail) ++ sign ++ toString power.natAbs

def toText (x : Double) : String :=
  let decimal := x.shortest
  let digits := toString decimal.digits
  let power := decimal.exponent + digits.length - 1
  let magnitude :=
    if positional.least ≤ power ∧ power ≤ positional.greatest then withPoint digits (power + 1)
    else scientific digits power
  if x.isNegative then "-" ++ magnitude else magnitude

end QueryShield.Double
