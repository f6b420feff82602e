import ProfilePicker.Text.Basic

/-!
# Numbers in 64 bits

A decimal number is kept with 53 significant bits, as the nearest such number, and shown with
the fewest decimal digits that lead back to it. Both directions are exact arithmetic on natural
numbers: a number of 64 bits is a significand times a power of two.
-/
namespace ProfilePicker

/-- A number kept in 64 bits, apart from its sign: a significand below 2 ^ 53 times a power of
two, or a number too large to be kept. -/
inductive Binary64 where
  /-- The significand times two to the exponent. -/
  | finite (significand : Nat) (exponent : Int)
  /-- Beyond the largest number. -/
  | infinite
deriving Repr, DecidableEq

namespace Binary64

/-- The least exponent of two. -/
def leastExponent : Int := -1074

/-- The greatest exponent of two. -/
def greatestExponent : Int := 971

/-- How many significant bits are kept. -/
def precision : Nat := 53

/-- The significands stay below this number. -/
def significandLimit : Nat := Nat.pow 2 precision

/-- A quotient rounded to the nearest whole number, from the middle to the even one. -/
def roundedQuotient (n d : Nat) : Nat :=
  let q := n / d
  let twice := 2 * (n % d)
  if twice < d then q
  else if d < twice then q + 1
  else if q % 2 = 0 then q else q + 1

/-- A quotient times a power of a base, as a quotient. -/
def scaled (base : Nat) (n d : Nat) (exponent : Int) : Nat × Nat :=
  if 0 ≤ exponent then (n * Nat.pow base exponent.toNat, d)
  else (n, d * Nat.pow base (-exponent).toNat)

/-- The kept number nearest to a quotient. -/
def nearest (n d : Nat) : Binary64 :=
  if n = 0 then .finite 0 leastExponent
  else
    let guess : Int := (Nat.log2 n : Int) - (Nat.log2 d : Int) - precision
    let exponentFor (e : Int) : Int := max e leastExponent
    let round (e : Int) : Nat :=
      let (n, d) := scaled 2 n d (-e)
      roundedQuotient n d
    let low := exponentFor guess
    let e := if round low < significandLimit then low else exponentFor (guess + 1)
    let m := round e
    let (m, e) := if m < significandLimit then (m, e) else (m / 2, e + 1)
    if greatestExponent < e then .infinite else .finite m e

/-- The most decimal places, before or after the point, that can matter. -/
def decimalReach : Int := 400

/-- The kept number nearest to a whole number times a power of ten. -/
def ofDecimal (digits : Nat) (exponent : Int) : Binary64 :=
  let magnitude : Int := (Nat.toDigits 10 digits).length + exponent
  if digits = 0 || magnitude < -decimalReach then .finite 0 leastExponent
  else if decimalReach < magnitude then .infinite
  else
    let (n, d) := scaled 10 digits 1 exponent
    nearest n d

/-- Whether a quotient lies below a quotient. -/
def below (a b : Nat × Nat) : Bool := a.1 * b.2 < b.1 * a.2

/-- The bounds of the numbers that lead back to a kept number. -/
def bounds (m : Nat) (e : Int) : (Nat × Nat) × (Nat × Nat) :=
  let least := 2 * m = significandLimit && leastExponent < e
  (if least then scaled 2 (4 * m - 1) 4 e else scaled 2 (2 * m - 1) 2 e, scaled 2 (2 * m + 1) 2 e)

/-- Whether a quotient leads back to a kept number. Its bounds do when the significand is even. -/
def leadsBack (m : Nat) (e : Int) (x : Nat × Nat) : Bool :=
  let (low, high) := bounds m e
  if m % 2 = 0 then !below x low && !below high x else below low x && below x high

/-- The power of ten of the first digit of a quotient that is not zero. -/
def firstPlace (x : Nat × Nat) : Int :=
  let whole := (Nat.toDigits 10 x.1).length
  let part := (Nat.toDigits 10 x.2).length
  let guess : Int := (whole : Int) - (part : Int)
  if below x (scaled 10 1 1 guess) then guess - 1 else guess

/-- The nearer of two whole numbers of a grid, as far as they lead back to the kept number. -/
def onGrid? (m : Nat) (e : Int) (place : Int) : Option Nat :=
  let x := scaled 2 m 1 e
  let (n, d) := scaled 10 x.1 x.2 (-place)
  let lower := n / d
  let back (k : Nat) : Bool := leadsBack m e (scaled 10 k 1 place)
  let nearerFirst := if 2 * (n % d) ≤ d then [lower, lower + 1] else [lower + 1, lower]
  nearerFirst.find? back

/-- The fewest digits that lead back to a kept number, and the power of ten of the last one. A
zero at the end, which comes from rounding up to the next power of ten, is no digit. -/
def shortest (m : Nat) (e : Int) : Nat × Int :=
  let first := firstPlace (scaled 2 m 1 e)
  let places : List Int := (List.range 17).map fun (k : Nat) => first - (k : Int)
  let found := places.findSome? fun place =>
    (onGrid? m e place).map fun digits =>
      if digits % 10 = 0 then (digits / 10, place + 1) else (digits, place)
  found.getD (0, 0)

/-- A whole number times a power of ten, written without an exponent. -/
def positional (digits : Nat) (exponent : Int) : Text :=
  let written := Nat.toDigits 10 digits
  if 0 ≤ exponent then written ++ List.replicate exponent.toNat '0'
  else
    let places := (-exponent).toNat
    let padded := List.replicate (places + 1 - written.length) '0' ++ written
    let cut := padded.length - places
    padded.take cut ++ ['.'] ++ padded.drop cut

/-- A kept number without its sign: as few digits as possible, and no exponent. -/
def shown : Binary64 → Text
  | infinite => "inf"
  | finite m e =>
    if m = 0 then ['0']
    else
      let (digits, place) := shortest m e
      positional digits place

end Binary64

end ProfilePicker
