import TableCatalog.Text.Basic

/-!
# Decimal numbers and doubles

A decimal number with a point is taken as the nearest number `m * 2 ^ q` with few bits in `m`, a
tie going to the even `m`; the rounding is exact. A number beyond the largest one is infinite.
-/

namespace TableCatalog.Decimal

/-- The numbers `m * 2 ^ q` with `m < 2 ^ precision` and `lowest ≤ q ≤ highest`. -/
structure Format where
  precision : Nat
  lowest : Int
  highest : Int
  deriving DecidableEq, Repr

def single : Format := ⟨24, -149, 104⟩

def double : Format := ⟨53, -1074, 971⟩

inductive Magnitude where
  | finite (m : Nat) (q : Int)
  | infinite
  deriving DecidableEq, Repr

/-- A number with its sign, which zero has too. -/
structure Binary where
  negative : Bool
  magnitude : Magnitude
  deriving DecidableEq, Repr

/-- The integer nearest to a fraction, a tie going to the even one. -/
def roundRatio (num den : Nat) : Nat :=
  let n := num / den
  let twice := 2 * (num % den)
  if den < twice ∨ (twice = den ∧ n % 2 = 1) then n + 1 else n

/-- The double nearest to a natural number, if there were no largest one. -/
def roundInteger (n : Nat) : Nat :=
  let unit := Nat.pow 2 (Nat.log2 n + 1 - double.precision)
  roundRatio n unit * unit

/-- The first natural number that is rounded to infinity when it is taken as a double. -/
def doubleOverflow : Nat := Nat.pow 2 1024 - Nat.pow 2 970

/-- The fraction as a multiple of `2 ^ q`, rounded. -/
def multiple (num den : Nat) (q : Int) : Nat :=
  roundRatio (num * Nat.pow 2 (-q).toNat) (den * Nat.pow 2 q.toNat)

/-- The number of a format that is nearest to a fraction: the multiple with the least `q` that has
few enough bits. -/
def Format.nearest (f : Format) (num den : Nat) : Magnitude :=
  let least := max f.lowest ((Nat.log2 num : Int) - Nat.log2 den - f.precision)
  match [least, least + 1, least + 2].find? fun q => multiple num den q < Nat.pow 2 f.precision with
  | some q => if f.highest < q then .infinite else .finite (multiple num den q) q
  | none => .infinite

/-- A decimal number: its sign, its digits as an integer, and the power of ten they are taken
times. -/
structure Numeral where
  negative : Bool
  digits : Nat
  exponent : Int
  deriving DecidableEq, Repr

def splitSign : List Char → Bool × List Char
  | '-' :: rest => (true, rest)
  | '+' :: rest => (false, rest)
  | cs => (false, cs)

/-- The exponent behind the digits of a number; there may be none. -/
def exponent? (cs : List Char) : Option Int :=
  match cs with
  | [] => some 0
  | c :: rest =>
    if c = 'e' ∨ c = 'E' then
      let (negative, digits) := splitSign rest
      if digits.isEmpty ∨ ¬ digits.all Text.isDigit then none
      else
        let n : Int := Text.decimalValue digits
        some (if negative then -n else n)
    else none

/-- Reads a number with a point: digits before or behind it, and perhaps an exponent. -/
def Numeral.parse? (cs : List Char) : Option Numeral :=
  let (negative, cs) := splitSign cs
  let whole := cs.takeWhile Text.isDigit
  match cs.dropWhile Text.isDigit with
  | '.' :: rest =>
    let fraction := rest.takeWhile Text.isDigit
    if whole.isEmpty ∧ fraction.isEmpty then none
    else (exponent? (rest.dropWhile Text.isDigit)).map fun e =>
      ⟨negative, Text.decimalValue (whole ++ fraction), e - fraction.length⟩
  | _ => none

/-- The number of a format that is nearest to a numeral. Numbers far out of range are not worked
out. -/
def Numeral.round (f : Format) (n : Numeral) : Binary :=
  let places : Int := (Nat.toDigits 10 n.digits).length + n.exponent
  { negative := n.negative
    magnitude :=
      if n.digits = 0 ∨ places < -400 then .finite 0 f.lowest
      else if 400 < places then .infinite
      else f.nearest (n.digits * Nat.pow 10 n.exponent.toNat) (Nat.pow 10 (-n.exponent).toNat) }

/-! ## The shortest decimal text of a double

A double is written with the fewest digits that are read back as the same double; of several such
numbers the one nearest to it is taken, and of two equally near ones the larger size. The digits
are always written in place, without an exponent, and a whole number has no point.
-/

/-- The numbers that are rounded to `m * 2 ^ q`, in units of `2 ^ (q - 2)`: from the first to the
second one, the ends being included if `m` is even. Below a power of two the doubles lie twice as
close. -/
def roundingInterval (m : Nat) (q : Int) : Nat × Nat :=
  (if m = Nat.pow 2 52 ∧ double.lowest < q then 4 * m - 1 else 4 * m - 2, 4 * m + 2)

/-- Whether `n * 10 ^ d` is rounded to `m * 2 ^ q`. -/
def readsBack (m : Nat) (q : Int) (n : Nat) (d : Int) : Bool :=
  let (low, high) := roundingInterval m q
  let decimal := n * Nat.pow 10 d.toNat * Nat.pow 2 (2 - q).toNat
  let unit := Nat.pow 10 (-d).toNat * Nat.pow 2 (q - 2).toNat
  if m % 2 = 0 then low * unit ≤ decimal && decimal ≤ high * unit
  else low * unit < decimal && decimal < high * unit

/-- The multiple of `10 ^ d` nearest to `m * 2 ^ q` among its two neighbours that are read back, if
there is one. Halfway between them the upper one is taken. -/
def neighbour? (m : Nat) (q : Int) (d : Int) : Option Nat :=
  let num := m * Nat.pow 2 q.toNat * Nat.pow 10 (-d).toNat
  let den := Nat.pow 2 (-q).toNat * Nat.pow 10 d.toNat
  let below := num / den
  let above := below + 1
  match readsBack m q below d, readsBack m q above d with
  | true, true => some (if 2 * (num % den) < den then below else above)
  | true, false => some below
  | false, true => some above
  | false, false => none

/-- The digits and the power of ten of the shortest number that is read back, from the power `d`
downwards; `fuel` bounds the number of powers. -/
def shortestFrom (m : Nat) (q : Int) : Nat → Int → Nat × Int
  | 0, d => (0, d)
  | fuel + 1, d =>
    match neighbour? m q d with
    | some n => (n, d)
    | none => shortestFrom m q fuel (d - 1)

/-- Digits in place: `n * 10 ^ d` without an exponent. -/
def positional (n : Nat) (d : Int) : String :=
  let digits := Nat.toDigits 10 n
  if 0 ≤ d then String.ofList (digits ++ List.replicate d.toNat '0')
  else
    let places := (-d).toNat
    let padded := List.replicate (places + 1 - digits.length) '0' ++ digits
    String.ofList (padded.take (padded.length - places)) ++ "." ++
      String.ofList (padded.drop (padded.length - places))

def Magnitude.text : Magnitude → String
  | .infinite => "inf"
  | .finite m q =>
    if m = 0 then "0"
    else
      let (n, d) := shortestFrom m q 700 330
      positional n d

def Binary.text (b : Binary) : String := (if b.negative then "-" else "") ++ b.magnitude.text

/-- A number of 24 bits as one of 53 bits: the same number with as many bits as there are. -/
def Binary.widened (b : Binary) : Binary :=
  match b.magnitude with
  | .infinite => b
  | .finite m q =>
    { b with magnitude := double.nearest (m * Nat.pow 2 q.toNat) (Nat.pow 2 (-q).toNat) }

end TableCatalog.Decimal
