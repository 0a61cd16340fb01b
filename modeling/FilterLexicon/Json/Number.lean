import FilterLexicon.Json.Scan
import FilterLexicon.Decimal.Shortest

/-!
JSON numbers, which are read only to say that one stands where another kind of value is wanted. An
integer that fits into 64 bits, with or without sign, is kept exactly; every other number becomes a
binary64 number.
-/

namespace FilterLexicon.Json

def isDigit (c : Char) : Bool := '0' ≤ c && c ≤ '9'

def digitValue (c : Char) : Nat := c.toNat - '0'.toNat

/-- Whether a digit comes first. -/
def startsWithDigit (s : List Char) : Bool := (s.head?.map isDigit).getD false

/-- Appends digits to a number below `bound` while it stays below; returns also the digits that
are left. -/
def absorb (bound n : Nat) : List Char → Nat × List Char
  | [] => (n, [])
  | c :: cs =>
    let more := 10 * n + digitValue c
    if more < bound then absorb bound more cs else (n, c :: cs)

/-- `value * 10 ^ power` in floating point, or nothing if it is too large. Beyond the greatest
power that can be written, the value is made smaller in steps until it is zero. -/
def scale (value : Float) (power : Int) : Option Float :=
  if power.natAbs ≤ 308 then
    let factor := Float.ofScientific 1 false power.natAbs
    if 0 ≤ power then
      if (value * factor).isInf then none else some (value * factor)
    else some (value / factor)
  else if value == 0 then some value
  else if 0 ≤ power then none
  else scale (value / Float.ofScientific 1 false 308) (power + 308)
termination_by (-power).toNat
decreasing_by omega

/-- Decimal digits as text: positional from `0.00001` up to sixteen digits before the point, and
otherwise with an exponent. -/
def layout (d : Decimal.Digits) : String :=
  let digits := (Nat.toDigits 10 d.digits).reverse.dropWhile (· = '0') |>.reverse
  let count : Int := digits.length
  let zeros := (Nat.toDigits 10 d.digits).length - digits.length
  let exponent := d.exponent + zeros
  let point := count + exponent
  String.ofList <|
    if 0 ≤ exponent ∧ point ≤ 16 then
      digits ++ List.replicate exponent.toNat '0' ++ ['.', '0']
    else if 0 < point ∧ point ≤ 16 then
      digits.take point.toNat ++ ['.'] ++ digits.drop point.toNat
    else if -5 < point ∧ point ≤ 0 then
      ['0', '.'] ++ List.replicate (-point).toNat '0' ++ digits
    else
      digits.take 1 ++ (if digits.length = 1 then [] else '.' :: digits.drop 1) ++ ['e'] ++
        (if point - 1 < 0 then ['-'] else ['+']) ++ Nat.toDigits 10 (point - 1).natAbs

/-- The shortest text of a finite binary64 number. -/
def floatText (value : Float) : String :=
  let bits := value.toBits.toNat
  let sign := if bits < 1 <<< 63 then "" else "-"
  let magnitude := Decimal.Binary.ofBits bits
  if magnitude.significand = 0 then sign ++ "0.0"
  else sign ++ ((magnitude.shortest.map layout).getD "0.0")

/-- A number with a fraction or an exponent, or too large for an integer. -/
def floating (negative : Bool) (significand : Nat) (power : Int) (rest : List Char) :
    Except Fault (Found × List Char) :=
  match scale (Float.ofNat significand) power with
  | some value => .ok (.floating (floatText (if negative then -value else value)), rest)
  | none => .error (.before .numberOutOfRange rest)

/-- Reads an exponent behind its letter. -/
def numberExponent (negative : Bool) (significand : Nat) (power : Int) (s : List Char) :
    Except Fault (Found × List Char) :=
  let (down, s) :=
    match s with
    | '+' :: r => (false, r)
    | '-' :: r => (true, r)
    | _ => (false, s)
  if s.isEmpty then .error (.before .endInValue [])
  else if !startsWithDigit s then .error (.behind .invalidNumber s)
  else
    let rest := s.dropWhile isDigit
    let (exponent, left) := absorb (1 <<< 31) 0 (s.takeWhile isDigit)
    if left.isEmpty then
      floating negative significand (if down then power - exponent else power + exponent) rest
    else if significand ≠ 0 && !down then .error (.before .numberOutOfRange (left.drop 1 ++ rest))
    else floating negative 0 0 rest

/-- Reads a fraction behind its point. Digits that would make the significand too large are
dropped. -/
def numberFraction (negative : Bool) (significand : Nat) (power : Int) (s : List Char) :
    Except Fault (Found × List Char) :=
  let digits := s.takeWhile isDigit
  let rest := s.dropWhile isDigit
  if digits.isEmpty then
    if s.isEmpty then .error (.before .endInValue []) else .error (.behind .invalidNumber s)
  else
    let (significand, left) := absorb (1 <<< 64) significand digits
    let power := power - (digits.length - left.length : Nat)
    match rest with
    | 'e' :: r => numberExponent negative significand power r
    | 'E' :: r => numberExponent negative significand power r
    | _ => floating negative significand power rest

/-- Reads what follows the digits before the point. -/
def numberTail (negative : Bool) (digits rest : List Char) : Except Fault (Found × List Char) :=
  let (significand, left) := absorb (1 <<< 64) 0 digits
  match rest with
  | '.' :: r => numberFraction negative significand left.length r
  | 'e' :: r => numberExponent negative significand left.length r
  | 'E' :: r => numberExponent negative significand left.length r
  | _ =>
    if !left.isEmpty then floating negative significand left.length rest
    else if !negative then .ok (.integer significand, rest)
    else if significand = 0 || 1 <<< 63 < significand then floating true significand 0 rest
    else .ok (.integer (-significand), rest)

/-- Reads a number behind its sign. -/
def number (negative : Bool) : List Char → Except Fault (Found × List Char)
  | [] => .error (.before .endInValue [])
  | '0' :: rest =>
    if startsWithDigit rest then .error (.behind .invalidNumber rest)
    else numberTail negative ['0'] rest
  | c :: rest =>
    if isDigit c then numberTail negative (c :: rest.takeWhile isDigit) (rest.dropWhile isDigit)
    else .error (.behind .invalidNumber (c :: rest))

end FilterLexicon.Json
