/-! The curve `y² = x³ + 7` over the field of `2 ^ 256 - 2 ^ 32 - 977` elements, on which accounts have
    their keys. Points are kept in Jacobian coordinates, `(x / z², y / z³)`, with `z = 0` at infinity. -/

namespace SplitterLaunch
namespace Curve

def fieldSize : Nat := Nat.pow 2 256 - Nat.pow 2 32 - 977

/-- The number of points of the curve, hence the bound of secret keys. -/
def order : Nat := 0xFFFFFFFFFFFFFFFFFFFFFFFFFFFFFFFEBAAEDCE6AF48A03BBFD25E8CD0364141

def mul (a b : Nat) : Nat := a * b % fieldSize

def sub (a b : Nat) : Nat := (a + fieldSize - b % fieldSize) % fieldSize

/-- A power in the field, by repeated squaring. -/
def pow (b e : Nat) : Nat :=
  if e = 0 then 1
  else
    let half := pow (mul b b) (e / 2)
    if e % 2 = 1 then mul b half else half
termination_by e
decreasing_by omega

/-- The inverse of a field element other than zero. -/
def inverse (a : Nat) : Nat := pow a (fieldSize - 2)

structure Point where
  x : Nat
  y : Nat
  z : Nat
deriving DecidableEq, Repr

namespace Point

def infinity : Point := ⟨1, 1, 0⟩

/-- The point whose multiples are all points of the curve. -/
def generator : Point :=
  ⟨0x79BE667EF9DCBBAC55A06295CE870B07029BFCDB2DCE28D959F2815B16F81798,
    0x483ADA7726A3C4655DA4FBFC0E1108A8FD17B448A68554199C47D08FFB10D4B8, 1⟩

def double (p : Point) : Point :=
  let a := mul p.x p.x
  let b := mul p.y p.y
  let c := mul b b
  let d := mul 2 (sub (sub (mul (p.x + b) (p.x + b)) a) c)
  let e := mul 3 a
  let x := sub (mul e e) (mul 2 d)
  ⟨x, sub (mul e (sub d x)) (mul 8 c), mul 2 (mul p.y p.z)⟩

/-- The sum of a point and one whose third coordinate is one. -/
def addAffine (p q : Point) : Point :=
  if p.z = 0 then q
  else
    let zz := mul p.z p.z
    let h := sub (mul q.x zz) p.x
    let r := sub (mul q.y (mul p.z zz)) p.y
    if h = 0 then if r = 0 then double p else infinity
    else
      let hh := mul h h
      let hhh := mul h hh
      let v := mul p.x hh
      let x := sub (sub (mul r r) hhh) (mul 2 v)
      ⟨x, sub (mul r (sub v x)) (mul p.y hhh), mul p.z h⟩

/-- The multiple of the generator, from the top one of 256 bits down. -/
def multiple (k : Nat) : Point :=
  (List.range 256).foldr
    (fun i p => let twice := double p; if k.testBit i then addAffine twice generator else twice) infinity

/-- The coordinates of a point other than infinity. -/
def affine (p : Point) : Nat × Nat :=
  let w := inverse p.z
  let ww := mul w w
  (mul p.x ww, mul p.y (mul ww w))

end Point
end Curve
end SplitterLaunch
