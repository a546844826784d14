/-!
The curve `y² = x³ + 7` over the prime field of `fieldPrime`, with its group of prime order
`order`. Points are computed on in projective coordinates, where `(x, y, z)` stands for the point
`(x / z², y / z³)` and `z = 0` for the neutral element.
-/

namespace TokenDesk.Curve

def fieldPrime : Nat :=
  0xFFFFFFFF_FFFFFFFF_FFFFFFFF_FFFFFFFF_FFFFFFFF_FFFFFFFF_FFFFFFFE_FFFFFC2F

def order : Nat := 0xfffffffffffffffffffffffffffffffebaaedce6af48a03bbfd25e8cd0364141

def powMod (base exponent modulus : Nat) : Nat :=
  if h : exponent = 0 then 1 % modulus
  else
    let half := powMod (base * base % modulus) (exponent / 2) modulus
    if exponent % 2 = 1 then half * base % modulus else half
termination_by exponent
decreasing_by omega

def inverse (a prime : Nat) : Nat := powMod a (prime - 2) prime

/-- A point other than the neutral element, by its coordinates. -/
structure Affine where
  x : Nat
  y : Nat
  deriving DecidableEq, Repr

/-- A point in projective coordinates. -/
structure Projective where
  x : Nat
  y : Nat
  z : Nat

def generator : Affine := ⟨
  0x79be667ef9dcbbac55a06295ce870b07029bfcdb2dce28d959f2815b16f81798,
  0x483ada7726a3c4655da4fbfc0e1108a8fd17b448a68554199c47d08ffb10d4b8⟩

namespace Projective

def neutral : Projective := ⟨1, 1, 0⟩

def ofAffine (p : Affine) : Projective := ⟨p.x, p.y, 1⟩

def sub (a b : Nat) : Nat := (a + (fieldPrime - b % fieldPrime)) % fieldPrime

def double (p : Projective) : Projective :=
  let m := fieldPrime
  let yy := p.y * p.y % m
  let s := 4 * p.x * yy % m
  let t := 3 * p.x * p.x % m
  let x := sub (t * t) (2 * s)
  let y := sub (t * sub s x) (8 * yy * yy)
  ⟨x, y, 2 * p.y * p.z % m⟩

def add (p q : Projective) : Projective :=
  if p.z = 0 then q
  else if q.z = 0 then p
  else
    let m := fieldPrime
    let pzz := p.z * p.z % m
    let qzz := q.z * q.z % m
    let u1 := p.x * qzz % m
    let u2 := q.x * pzz % m
    let s1 := p.y * (qzz * q.z % m) % m
    let s2 := q.y * (pzz * p.z % m) % m
    if u1 = u2 then
      if s1 = s2 then double p else neutral
    else
      let h := sub u2 u1
      let r := sub s2 s1
      let hh := h * h % m
      let hhh := h * hh % m
      let v := u1 * hh % m
      let x := sub (r * r) (hhh + 2 * v)
      let y := sub (r * sub v x) (s1 * hhh)
      ⟨x, y, p.z * q.z * h % m⟩

def multiple (n : Nat) (p : Projective) : Projective :=
  if h : n = 0 then neutral
  else
    let half := multiple (n / 2) (double p)
    if n % 2 = 1 then add half p else half
termination_by n
decreasing_by omega

/-- The coordinates of a point, unless it is the neutral element. -/
def toAffine? (p : Projective) : Option Affine :=
  if p.z = 0 then none
  else
    let inv := inverse p.z fieldPrime
    let inv2 := inv * inv % fieldPrime
    some ⟨p.x * inv2 % fieldPrime, p.y * (inv2 * inv % fieldPrime) % fieldPrime⟩

end Projective

/-- The point with a first coordinate whose second one is odd or even as asked, if there is one. -/
def liftX (x : Nat) (odd : Bool) : Option Affine :=
  let square := (x * x % fieldPrime * x + 7) % fieldPrime
  let root := powMod square ((fieldPrime + 1) / 4) fieldPrime
  if root * root % fieldPrime ≠ square then none
  else
    let y := if (root % 2 == 1) = odd then root else fieldPrime - root
    some ⟨x, y⟩

end TokenDesk.Curve
