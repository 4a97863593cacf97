/-! Floating-point numbers of 64 bits, as significand and power of two. A decimal is taken to the
nearest number, a tie to the even significand. A number is shown by the fewest digits that read back
as itself, always positionally; among those the nearest ones are taken. -/

namespace Scaffold

inductive Double
  /-- The number `significand * 2 ^ exponent`, negated if `negative`. -/
  | finite (negative : Bool) (significand : Nat) (exponent : Int)
  | infinite (negative : Bool)
  | nan
  deriving DecidableEq, Repr

namespace Double

def leastExponent : Int := -1074

def greatestExponent : Int := 971

def significandLimit : Nat := Nat.pow 2 53

def zero (negative : Bool) : Double :=
  finite negative 0 leastExponent

/-- Whether the number is neither zero nor its negative. -/
def isNonzero : Double → Bool
  | finite _ significand _ => significand != 0
  | infinite _ => true
  | nan => true

def ratio (base value : Nat) (exponent : Int) : Nat × Nat :=
  if 0 ≤ exponent then (value * Nat.pow base exponent.toNat, 1)
  else (value, Nat.pow base (-exponent).toNat)

/-- A quotient rounded to the nearest integer, a tie to the even one. -/
def roundDiv (n d : Nat) : Nat :=
  let q := n / d
  let r := n % d
  if 2 * r < d then q
  else if d < 2 * r then q + 1
  else if q % 2 = 0 then q else q + 1

/-- The greatest `e` with `2 ^ e ≤ n / d`, for positive `n` and `d`. -/
def floorLog (n d : Nat) : Int :=
  let e : Int := (Nat.log2 n : Int) - (Nat.log2 d : Int)
  let scaled := ratio 2 d e
  if n * scaled.2 < scaled.1 then e - 1 else e

def ofRatio (negative : Bool) (n d : Nat) : Double :=
  let exponent := max (floorLog n d - 52) leastExponent
  let scaled := ratio 2 d exponent
  let significand := roundDiv (n * scaled.2) scaled.1
  let carried := significand = significandLimit
  let significand := if carried then significand / 2 else significand
  let exponent := if carried then exponent + 1 else exponent
  if greatestExponent < exponent then infinite negative
  else finite negative significand exponent

/-- The number nearest to `digits * 10 ^ scale`. Decimals far out of range are decided by their
magnitude alone. -/
def ofDecimal (negative : Bool) (digits : Nat) (scale : Int) : Double :=
  if digits = 0 then zero negative
  else
    let magnitude : Int := (Nat.log2 digits : Int) / 4 + scale
    let widest : Int := (Nat.log2 digits : Int) + 1 + scale
    if 400 < magnitude then infinite negative
    else if widest < -400 then zero negative
    else
      let fraction := ratio 10 digits scale
      ofRatio negative fraction.1 fraction.2

/-- Whether `candidate * 10 ^ k` reads back as the number with a significand and an exponent: it
lies between the midpoints to the two neighbours, or on one of them if the significand is even. All
is compared in quarters of the last place. -/
def readsBack (significand : Nat) (exponent : Int) (candidate : Nat) (k : Int) : Bool :=
  let decimal := ratio 10 candidate k
  let quarter := ratio 2 1 (exponent - 2)
  let lowGap := if 2 * significand = significandLimit ∧ leastExponent < exponent then 1 else 2
  let point := decimal.1 * quarter.2
  let unit := quarter.1 * decimal.2
  let low := (4 * significand - lowGap) * unit
  let high := (4 * significand + 2) * unit
  if significand % 2 = 0 then low ≤ point && point ≤ high else low < point && point < high

/-- The decimal that shows a positive number: on the coarsest grid of powers of ten that has a point
reading back, the nearer of the two neighbours, the upper one if they are as near. The search goes
from `k` to finer grids. -/
def shortest (significand : Nat) (exponent : Int) : Nat → Int → Nat × Int
  | 0, k => (significand, k)
  | steps + 1, k =>
    let value := ratio 2 significand exponent
    let grid := ratio 10 1 k
    let n := value.1 * grid.2
    let d := value.2 * grid.1
    let below := n / d
    let nearer := if 2 * (n % d) < d then [below, below + 1] else [below + 1, below]
    match nearer.find? fun candidate =>
        0 < candidate && readsBack significand exponent candidate k with
    | some candidate => (candidate, k)
    | none => shortest significand exponent steps (k - 1)

def pointed (digits : List Char) (places : Nat) : List Char :=
  let padded := List.replicate (places + 1 - digits.length) '0' ++ digits
  padded.take (padded.length - places) ++ '.' :: padded.drop (padded.length - places)

def positional (digits : Nat) (scale : Int) : List Char :=
  let written := Nat.toDigits 10 digits
  if 0 ≤ scale then written ++ List.replicate scale.toNat '0' else pointed written (-scale).toNat

def text : Double → String
  | nan => "NaN"
  | infinite negative => if negative then "-inf" else "inf"
  | finite negative significand exponent =>
    let unsigned :=
      if significand = 0 then ['0']
      else
        let found := shortest significand exponent 800 310
        positional found.1 found.2
    String.ofList (if negative then '-' :: unsigned else unsigned)

end Double
end Scaffold
