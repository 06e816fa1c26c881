import UsageLedger.Decimal.Binary

/-!
# Numbers of sixty-four binary digits

A wide number is a natural number of at most 64 binary digits times a power of
two.  A product of wide numbers is rounded to the nearest one, a half to the
even one, so that the product of several depends on their order.  `scale`
multiplies by a power of ten in steps of a hundred places, then of ten places,
then of one.
-/

namespace UsageLedger.Decimal

/-- The number `significand · 2 ^ exponent`. -/
structure Wide where
  significand : Nat
  exponent : Int
  deriving DecidableEq, Repr

/-- The binary digits that a wide number has room for. -/
def wideSize : Nat := 64

/-- The wide number nearest to `significand · 2 ^ exponent`. -/
def Wide.round (significand : Nat) (exponent : Int) : Wide :=
  let surplus := binarySize significand - wideSize
  ⟨roundHalfEven significand (Nat.pow 2 surplus), exponent + surplus⟩

/-- The wide number nearest to a product. -/
def Wide.times (first second : Wide) : Wide :=
  Wide.round (first.significand * second.significand)
    (first.exponent + second.exponent)

/-- The wide number nearest to a power of ten. -/
def Wide.powerOfTen (power : Int) : Wide :=
  let size := Nat.pow 10 power.natAbs
  if 0 ≤ power then Wide.round size 0
  else
    let places := wideSize + Nat.log2 size
    ⟨roundHalfEven (Nat.pow 2 places) size, -places⟩

/-- Whether a wide number is at most another one. -/
def Wide.atMost (first second : Wide) : Bool :=
  if first.exponent ≤ second.exponent then
    first.significand ≤
      second.significand * Nat.pow 2 (second.exponent - first.exponent).toNat
  else
    first.significand * Nat.pow 2 (first.exponent - second.exponent).toNat ≤
      second.significand

/-- The greatest natural number that a wide number reaches. -/
def Wide.floor (value : Wide) : Nat :=
  if 0 ≤ value.exponent then
    value.significand * Nat.pow 2 value.exponent.toNat
  else value.significand / Nat.pow 2 value.exponent.natAbs

/-- Multiplies by the same power of ten several times. -/
def Wide.shift (value : Wide) (places : Int) (times : Nat) : Wide :=
  let factor := Wide.powerOfTen places
  Nat.repeat (fun scaled => scaled.times factor) times value

/-- Multiplies by a power of ten: a hundred places at a time, then ten, then one. -/
def Wide.scale (value : Wide) (power : Int) : Wide :=
  let places := power.natAbs
  let direction : Int := if power < 0 then -1 else 1
  let byHundreds := value.shift (direction * 100) (places / 100)
  let byTens := byHundreds.shift (direction * 10) (places % 100 / 10)
  byTens.shift direction (places % 10)

/-- The largest finite double. -/
def Wide.largestDouble : Wide := ⟨9007199254740991, 971⟩

/-- The double nearest to a wide number; what is larger than every finite double is infinite. -/
def Wide.toFloat (value : Wide) : Float :=
  if value.atMost Wide.largestDouble then
    nearestDouble value.significand value.exponent
  else infinity

end UsageLedger.Decimal
