import FillInStory.Number.Binary64
import FillInStory.Text.Basic

/-! # The shortest decimal text of a number

A number is written with the fewest digits from which it is read back, and among those with the nearest.
The numbers that are read back lie between the midpoints to the two neighbours, midpoints included if the
significand is even. On a decimal grid the only candidates are the two points next to the number, so the
grids are tried from the coarsest on.
-/

namespace FillInStory.Binary64

/-- Whether `a / b < c * 10 ^ p`. -/
def belowDecimal (a b c : Nat) (p : Int) : Bool := a * tenTo (-p).toNat < c * tenTo p.toNat * b

/-- Whether `c * 10 ^ p` is read back as the number. Quarters of the last place are counted. -/
def readsBack (x : Binary64) (c : Nat) (p : Int) : Bool :=
  let quarter (k : Nat) : Nat × Nat := scaledRatio k 1 (x.exponent - 2)
  let down := if x.significand = twoTo 52 && x.exponent > -1074 then 1 else 2
  let low := quarter (4 * x.significand - down)
  let high := quarter (4 * x.significand + 2)
  let value := (c * tenTo p.toNat, tenTo (-p).toNat)
  let order := fun (s t : Nat × Nat) => s.1 * t.2 < t.1 * s.2
  if x.significand % 2 = 0 then !order value low && !order high value
  else order low value && order value high

/-- The number of digits before the decimal point, zero or less for numbers below a tenth or so: the
least `k` with the number below `10 ^ k`. -/
def magnitude (x : Binary64) : Int :=
  let (n, d) := scaledRatio x.significand 1 x.exponent
  let guess : Int := ((n.log2 : Int) - d.log2) * 30103 / 100000
  if belowDecimal n d 1 (guess - 1) then guess - 1
  else if belowDecimal n d 1 guess then guess
  else if belowDecimal n d 1 (guess + 1) then guess + 1
  else guess + 2

/-- A point of the grid of multiples of `10 ^ p` that is read back as the number, the nearer of two. -/
def onGrid? (x : Binary64) (p : Int) : Option Nat :=
  let (n, d) := scaledRatio x.significand 1 x.exponent
  let a := n * tenTo (-p).toNat
  let b := d * tenTo p.toNat
  let below := a / b
  match x.readsBack below p, x.readsBack (below + 1) p with
  | true, true => some (roundedQuotient a b)
  | true, false => some below
  | false, true => some (below + 1)
  | false, false => none

/-- Tries grids of more and more digits. -/
def shortestFrom (x : Binary64) (magnitude : Int) : (more : Nat) → (digits : Nat) → Nat × Int
  | 0, digits => ((x.onGrid? (magnitude - digits)).getD 0, magnitude - digits)
  | more + 1, digits =>
    match x.onGrid? (magnitude - digits) with
    | some c => if c % 10 = 0 then (c / 10, magnitude - digits + 1) else (c, magnitude - digits)
    | none => shortestFrom x magnitude more (digits + 1)

/-- The digits and the exponent of ten of the shortest decimal that is read back as a number that is not
zero; seventeen digits always suffice. -/
def shortest (x : Binary64) : Nat × Int := shortestFrom x x.magnitude 16 1

/-- The digits of a number with a decimal point after the first `point` of them, with zeros in between
where that lies outside, or an exponent with its sign where too many zeros would be needed. -/
def placePoint (digits : Text) (point : Int) : Text :=
  if 0 < point && point ≤ 16 then
    if digits.length ≤ point.toNat then
      digits ++ List.replicate (point.toNat - digits.length) '0' ++ ".0"
    else digits.take point.toNat ++ '.' :: digits.drop point.toNat
  else if -5 < point && point ≤ 0 then "0." ++ List.replicate (-point).toNat '0' ++ digits
  else
    let mantissa : Text :=
      match digits with
      | [d] => [d]
      | d :: rest => d :: '.' :: rest
      | [] => []
    let power := point - 1
    mantissa ++ 'e' :: (if power < 0 then '-' else '+') :: Text.decimal power.natAbs

def text (x : Binary64) : Text :=
  if x.significand = 0 then "0.0"
  else
    let (digits, p) := x.shortest
    placePoint (Text.decimal digits) ((Text.decimal digits).length + p)

end FillInStory.Binary64
