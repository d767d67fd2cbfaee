-- SUMMARY: Multiplication and addition in one step, exactly and for doubles, and the product of vectors that accumulates with it.
import LinearDispatch.Number.Binary64
import LinearDispatch.Number.Exact

/-!
# Fused multiplication and addition

Libraries of linear algebra multiply and add in one step where the processor
can: the product is not rounded before it is added, so by itself it neither
overflows nor loses a digit. Where nothing is rounded, one step is two.
-/
namespace LinearDispatch

/-- Numbers that can be multiplied and added in one step. -/
class Fused (α : Type) where
  /-- `c * x + u`, rounded once at most. -/
  fma : α → α → α → α

instance : Fused Exact where
  fma c x u := c * x + u

namespace Binary64

open Float.Model (UnpackedFloat)

/-- `c * x + u`, where the product of finite numbers is exact. -/
def fuse : UnpackedFloat → UnpackedFloat → UnpackedFloat → UnpackedFloat
  | .finite s m e hm, .finite t n d hn, .finite r k b hk =>
    .add .binary64 (.finite (s * t) (m * n) (e + d) (Nat.mul_pos hm hn)) (.finite r k b hk)
  | .finite s m e hm, .finite t n d hn, .zero _ =>
    .mul .binary64 (.finite s m e hm) (.finite t n d hn)
  | .finite .., .finite .., u => u
  | c, x, u => .add .binary64 (.mul .binary64 c x) u

end Binary64

instance : Fused Float where
  fma c x u := .ofModel (.pack (Binary64.fuse c.toModel.unpack x.toModel.unpack u.toModel.unpack))

/-- The product of two vectors of doubles, accumulated from zero. A lone product is not added to
anything, and keeps the sign of its zero. -/
def Binary64.fusedProduct : InnerProduct Float
  | [x], [y] => x * y
  | xs, ys   => (List.zip xs ys).foldl (fun acc p => Fused.fma p.1 p.2 acc) 0

end LinearDispatch
