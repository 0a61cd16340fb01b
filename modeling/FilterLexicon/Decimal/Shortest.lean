/-!
The shortest decimal number that reads back as a given binary64 number. A finite binary64 number is
`significand * 2 ^ exponent`; the reals that round to it form an interval around it, ends included
when the significand is even. The coarsest decimal grid with a point in that interval gives the
fewest digits, and of two such points the nearer one is taken.
-/

namespace FilterLexicon.Decimal

/-- The number `significand * 2 ^ exponent`. -/
structure Binary where
  significand : Nat
  exponent : Int
  deriving DecidableEq

/-- The number `digits * 10 ^ exponent`. -/
structure Digits where
  digits : Nat
  exponent : Int
  deriving DecidableEq

/-- The magnitude of a finite binary64 number, read from its bits. -/
def Binary.ofBits (bits : Nat) : Binary :=
  let fraction : Nat := bits % (1 <<< 52)
  let power : Nat := (bits >>> 52) % (1 <<< 11)
  if power = 0 then ⟨fraction, -1074⟩ else ⟨(1 <<< 52) + fraction, (power : Int) - 1075⟩

namespace Binary

/-- The distance down to the interval's lower end, in quarters of the last place: half as far when
the next number below has a smaller exponent. -/
def gapBelow (x : Binary) : Nat :=
  if x.significand = 1 <<< 52 ∧ x.exponent > -1074 then 1 else 2

/-- A point of the grid of multiples of `10 ^ power` that rounds to the number, the nearest if
there are two. -/
def onGrid (x : Binary) (power : Int) : Option Nat :=
  let twos := (2 - x.exponent).toNat
  let tens := (-power).toNat
  let quarter := Nat.pow 10 tens <<< (x.exponent - 2 + twos).toNat
  let step := Nat.pow 10 (power + tens).toNat <<< twos
  let value := 4 * x.significand * quarter
  let low := (4 * x.significand - x.gapBelow) * quarter
  let high := (4 * x.significand + 2) * quarter
  let rounds (d : Nat) : Bool :=
    let point := d * step
    (low < point && point < high) || (x.significand % 2 = 0 && (point = low || point = high))
  let below := value / step
  let above := below + 1
  if rounds below && 0 < below then
    if rounds above && above * step - value < value - below * step then some above else some below
  else if rounds above then some above
  else none

/-- The shortest decimal number that rounds to a positive binary64 number. -/
def shortest (x : Binary) : Option Digits :=
  (List.range 640).findSome? fun (i : Nat) =>
    let power : Int := 309 - (i : Int)
    (x.onGrid power).map fun d => ⟨d, power⟩

end Binary
end FilterLexicon.Decimal
