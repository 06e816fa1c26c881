/-!
# Doubles as exact dyadic numbers

A finite double is plus or minus a natural significand times a power of two.
`Binary.ofFloat?` reads the three parts from the bits, so that rounding rules
can be stated on natural numbers and integers.
-/

namespace UsageLedger.Decimal

/-- The number `± significand · 2 ^ exponent`. -/
structure Binary where
  negative : Bool
  significand : Nat
  exponent : Int
  deriving DecidableEq, Repr

/-- The least significand of a double that is not subnormal. -/
def hiddenBit : Nat := 4503599627370496

/-- The bit of a double that holds its sign. -/
def signBit : Nat := 9223372036854775808

/-- The exponent that subnormal doubles share. -/
def leastExponent : Int := -1074

/-- The infinite double. -/
def infinity : Float := 1.0 / 0.0

/-- The exact value of a finite double; infinities and NaN have none. -/
def Binary.ofFloat? (value : Float) : Option Binary :=
  let bits := value.toBits.toNat
  let fraction := bits % hiddenBit
  let scale := bits / hiddenBit % 2048
  let negative := bits / signBit == 1
  if scale = 2047 then none
  else if scale = 0 then some ⟨negative, fraction, leastExponent⟩
  else some ⟨negative, hiddenBit + fraction, (scale : Int) - 1075⟩

/-- The quotient of two naturals to the nearest natural, a half to the even one. -/
def roundHalfEven (numerator denominator : Nat) : Nat :=
  let quotient := numerator / denominator
  let twice := 2 * (numerator % denominator)
  if twice < denominator then quotient
  else if denominator < twice then quotient + 1
  else quotient + quotient % 2

/-- The value times a natural factor, to the nearest natural, sign aside. -/
def Binary.scaled (value : Binary) (factor : Nat) : Nat :=
  if 0 ≤ value.exponent then
    value.significand * Nat.pow 2 value.exponent.toNat * factor
  else
    roundHalfEven (value.significand * factor) (Nat.pow 2 value.exponent.natAbs)

/-- The number of binary digits of a natural number, which zero has none of. -/
def binarySize (value : Nat) : Nat :=
  if value = 0 then 0 else Nat.log2 value + 1

/-- The bits of the infinite double. -/
def infiniteBits : Nat := 2047 * hiddenBit

/--
The double nearest to `significand · 2 ^ exponent`.  Counted in units of the
last place, the bits of a double are its place among all doubles from zero on.
-/
def nearestDouble (significand : Nat) (exponent : Int) : Float :=
  if significand = 0 then 0.0
  else
    let lastPlace := max (exponent + binarySize significand - 53) leastExponent
    let units :=
      if lastPlace ≤ exponent then
        significand * Nat.pow 2 (exponent - lastPlace).toNat
      else
        roundHalfEven significand (Nat.pow 2 (lastPlace - exponent).toNat)
    let bits := (lastPlace - leastExponent).toNat * hiddenBit + units
    if infiniteBits ≤ bits then infinity else Float.ofBits bits.toUInt64

end UsageLedger.Decimal
