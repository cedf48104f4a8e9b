namespace QueryShield

structure Double where
  bits : UInt64
  deriving DecidableEq, Repr, Inhabited

namespace Double

def leastExponent : Int := -1074

def isNegative (x : Double) : Bool := Nat.pow 2 63 ≤ x.bits.toNat

def exponentField (x : Double) : Nat := x.bits.toNat / Nat.pow 2 52 % Nat.pow 2 11

def fractionField (x : Double) : Nat := x.bits.toNat % Nat.pow 2 52

def isFinite (x : Double) : Bool := x.exponentField != 2047

def mantissa (x : Double) : Nat :=
  if x.exponentField = 0 then x.fractionField else Nat.pow 2 52 + x.fractionField

def exponent (x : Double) : Int :=
  if x.exponentField = 0 then leastExponent else x.exponentField + leastExponent - 1

def isZero (x : Double) : Bool := x.mantissa == 0

def negate (x : Double) : Double := ⟨x.bits + 0x8000000000000000⟩

def roundQuotient (num den : Nat) : Nat :=
  let floor := num / den
  let twice := 2 * (num % den)
  if twice < den then floor
  else if den < twice then floor + 1
  else floor + floor % 2

def infinityBits : Nat := 2047 * Nat.pow 2 52

/-- The double nearest to `num / den`, a tie to the even mantissa. The bits of consecutive
doubles are consecutive numbers, so a mantissa that rounds up to `2 ^ 53` needs no care. -/
def ofRatio (num den : Nat) : Double :=
  if num = 0 ∨ den = 0 then ⟨0⟩
  else
    let guess : Int := (num.log2 : Int) - den.log2 - 52
    let scaledNum (q : Int) : Nat := num * Nat.pow 2 (-q).toNat
    let scaledDen (q : Int) : Nat := den * Nat.pow 2 q.toNat
    let q := if scaledNum guess < Nat.pow 2 52 * scaledDen guess then guess - 1 else guess
    let q := max q leastExponent
    let bits := (q - leastExponent).toNat * Nat.pow 2 52 + roundQuotient (scaledNum q) (scaledDen q)
    ⟨UInt64.ofNat (min bits infinityBits)⟩

def ofNat (n : Nat) : Double := ofRatio n 1

def mulMagnitude (x y : Double) : Double :=
  let q := x.exponent + y.exponent
  ofRatio (x.mantissa * y.mantissa * Nat.pow 2 q.toNat) (Nat.pow 2 (-q).toNat)

def divMagnitude (x y : Double) : Double :=
  let q := x.exponent - y.exponent
  ofRatio (x.mantissa * Nat.pow 2 q.toNat) (y.mantissa * Nat.pow 2 (-q).toNat)

def powerOfTen (n : Nat) : Double := ofNat (Nat.pow 10 n)

def greatestPower : Nat := 308

/-- The magnitude `significand * 10 ^ exponent`: the significand is rounded to a double, which is
then multiplied or divided by a rounded power of ten. Nothing when the result is too large. -/
def ofDecimal? (significand : Nat) (exponent : Int) : Option Double :=
  let start := ofNat significand
  if start.isZero then some start
  else if 0 ≤ exponent then
    if exponent.toNat ≤ greatestPower then
      let product := start.mulMagnitude (powerOfTen exponent.toNat)
      if product.isFinite then some product else none
    else none
  else
    let drop := (-exponent).toNat
    if drop ≤ greatestPower then some (start.divMagnitude (powerOfTen drop))
    else
      let reduced := start.divMagnitude (powerOfTen greatestPower)
      some (reduced.divMagnitude (powerOfTen (min (drop - greatestPower) greatestPower)))

end Double

end QueryShield
