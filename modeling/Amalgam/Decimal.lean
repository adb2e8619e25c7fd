import Amalgam.Text.Basic

/-! Decimal text for binary fractions. A number m · 2^q stands for all reals that
round to it; it is written with the fewest digits that lie among those, and of
such decimals the nearest. -/
namespace Amalgam

def twoTo (n : Nat) : Nat := Nat.pow 2 n

def tenTo (n : Nat) : Nat := Nat.pow 10 n

inductive Binary where
  | nan
  | infinite (negative : Bool)
  /-- The number ± m · 2^q. -/
  | finite (negative : Bool) (m : Nat) (q : Int)
  deriving DecidableEq, Repr

namespace Binary

def ofFloat (x : Float) : Binary :=
  let bits := x.toBits.toNat
  let negative := bits / twoTo 63 == 1
  let exponent : Nat := bits / twoTo 52 % twoTo 11
  let fraction : Nat := bits % twoTo 52
  if exponent == 0x7FF then if fraction == 0 then .infinite negative else .nan
  else if exponent == 0 then .finite negative fraction (-1074)
  else .finite negative (fraction + twoTo 52) ((exponent : Int) - 1075)

def compareScaled (a : Nat) (p : Int) (d : Nat) (k : Int) : Ordering :=
  compare (a * twoTo p.toNat * tenTo (-k).toNat) (d * tenTo k.toNat * twoTo (-p).toNat)

/-- The largest e with 10^e ≤ m · 2^q, for m > 0. -/
def magnitude (m : Nat) (q : Int) : Int :=
  let whole := m * twoTo q.toNat / twoTo (-q).toNat
  if whole > 0 then (Nat.toDigits 10 whole).length - 1
  else
    match (List.range 400).find? fun (j : Nat) => compareScaled m q 1 (-(j : Int)) != .lt with
    | some j => -(j : Int)
    | none => 0

def quotient (m : Nat) (q k : Int) : Nat :=
  m * twoTo q.toNat * tenTo (-k).toNat / (twoTo (-q).toNat * tenTo k.toNat)

/-- Whether d · 10^k rounds to m · 2^q. Half-way points do so if m is even; below a
power of two the next number is half as far. -/
def roundsTo (m : Nat) (q : Int) (d : Nat) (k : Int) : Bool :=
  let low := if m == twoTo 52 && q > -1074 then 4 * m - 1 else 4 * m - 2
  match compareScaled low (q - 2) d k, compareScaled (4 * m + 2) (q - 2) d k with
  | .lt, .gt => true
  | .eq, _ => m % 2 == 0
  | _, .eq => m % 2 == 0
  | _, _ => false

/-- The nearest decimal of `n` digits that rounds to m · 2^q. -/
def withDigits? (m : Nat) (q : Int) (n : Nat) : Option (Nat × Int) :=
  let k : Int := magnitude m q - n + 1
  let d := quotient m q k
  match roundsTo m q d k, roundsTo m q (d + 1) k with
  | true, true =>
    -- Twice the number lies below d + (d + 1) if d is nearer.
    if compareScaled m (q + 1) (2 * d + 1) k == .lt then some (d, k) else some (d + 1, k)
  | true, false => some (d, k)
  | false, true => some (d + 1, k)
  | false, false => none

/-- Seventeen digits always suffice. -/
def shortest (m : Nat) (q : Int) : Nat × Int :=
  ((List.range 17).findSome? fun n => withDigits? m q (n + 1)).getD (0, 0)

def positional (d : Nat) (k : Int) : Text :=
  let digits := Nat.toDigits 10 d
  let digits := if k < 0 then Text.dropWhileEnd (· == '0') digits else digits
  let point : Int := (Nat.toDigits 10 d).length + k
  let zeros (n : Int) : Text := List.replicate n.toNat '0'
  if 0 ≤ k then digits ++ zeros k
  else if (digits.length : Int) ≤ point then digits ++ zeros (point - digits.length)
  else if 0 < point then digits.take point.toNat ++ '.' :: digits.drop point.toNat
  else '0' :: '.' :: zeros (-point) ++ digits

/-- A whole number is written without a point. -/
def text : Binary → Text
  | .nan => "NaN".toList
  | .infinite negative => (if negative then "-inf" else "inf").toList
  | .finite negative m q =>
    (if negative then ['-'] else []) ++
      if m == 0 then ['0'] else
        let (d, k) := shortest m q
        positional d k

/-- The nearest natural number up to `limit`, halves away from zero. Negative numbers
give zero, and so does what is no number. -/
def toNat (limit : Nat) : Binary → Nat
  | .nan => 0
  | .infinite negative => if negative then 0 else limit
  | .finite true _ _ => 0
  | .finite false m q =>
    min limit ((2 * m * twoTo q.toNat + twoTo (-q).toNat) / (2 * twoTo (-q).toNat))

end Binary
end Amalgam
