/-!
# Bounds of fixed widths

Ports have 16 bits, pages, limits and retries 32, counts 64, and the integers
of the store and of documents are signed ones of 64 bits.  The bounds are
written out in digits.

Most arithmetic stops at the bounds.  Where it does not it is checked, and a
result that does not fit ends the call that meets it: an `Overflow`.
-/

namespace UsageLedger

/-- The largest natural number of 16 bits. -/
def largest16 : Nat := 65535

/-- The largest natural number of 32 bits. -/
def largest32 : Nat := 4294967295

/-- The largest natural number of 64 bits. -/
def largest64 : Nat := 18446744073709551615

/-- How many natural numbers of 64 bits there are. -/
def modulus64 : Nat := 18446744073709551616

/-- The largest integer of 32 bits. -/
def largestSigned32 : Nat := 2147483647

/-- The largest integer of 64 bits. -/
def largestSigned : Nat := 9223372036854775807

/-- The least integer of 64 bits. -/
def leastSigned : Int := -9223372036854775808

/-- The results that do not fit; a call that meets one breaks off and gives nothing back. -/
inductive Overflow where
  /-- The requests of one date, in 64 bits. -/
  | counts
  /-- The requests in front of a page, as a signed integer of 64 bits. -/
  | offset
  /-- The date that a full import looks back to, in the years of the calendar. -/
  | lookback
  /-- The attempts of a request, in 32 bits. -/
  | attempts
  deriving DecidableEq, Repr

/-- The words with which a call breaks off. -/
def Overflow.text : Overflow → String
  | .counts => "attempt to add with overflow"
  | .offset => "attempt to multiply with overflow"
  | .lookback => "`DateTime - TimeDelta` overflowed"
  | .attempts => "attempt to add with overflow"

end UsageLedger
