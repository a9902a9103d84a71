/-!
The exact remainder of two doubles.
-/

namespace ItemPipeline.Decimal

def remainder (a b : Float) : Float :=
  if b == 0 || a.isInf || a.isNaN || b.isNaN then 0.0 / 0.0
  else if b.isInf then a
  else
    let (m, e) := a.abs.frExp
    let (n, f) := b.abs.frExp
    let p : Int := min e f - 53
    let whole (x : Float) (k : Int) : Nat := (x.scaleB 53).toUInt64.toNat * Nat.pow 2 (k - 53 - p).toNat
    let r := whole m e % whole n f
    let x := (Float.ofNat r).scaleB p
    if a < 0 || (a == 0 && 1 / a < 0) then -x else x

end ItemPipeline.Decimal
