/-
Daybook.Proofs.Random.Choice — a choice from something is one of it.

An index for `len` elements lies below `len`, whichever draw it comes from
and whether or not the draw was accepted. So picking from a list gives an
element unless the list is empty.
-/
import Daybook.Random.Selector

namespace Daybook.Selector

theorem scaled_lt {len draw : Nat} (hlen : 0 < len) (hdraw : draw < drawRange) :
    scaled len draw < len :=
  Nat.div_lt_of_lt_mul (Nat.mul_lt_mul_of_pos_right hdraw hlen)

theorem indexWithin_lt {len : Nat} (hlen : 0 < len) (tries : Nat) (s : Selector) :
    (indexWithin len tries s).1 < len := by
  induction tries generalizing s with
  | zero => exact scaled_lt hlen s.next.1.toNat_lt
  | succ tries ih =>
    simp only [indexWithin]
    split
    · exact scaled_lt hlen s.next.1.toNat_lt
    · exact ih _

theorem exists_pick {α : Type} {xs : List α} (hne : xs ≠ []) (s : Selector) :
    ∃ x s', s.pick xs = (some x, s') ∧ x ∈ xs := by
  have hlen : 0 < xs.length := List.length_pos_iff.mpr hne
  have hlt := indexWithin_lt hlen maxTries s
  refine ⟨xs[(indexWithin xs.length maxTries s).1], (indexWithin xs.length maxTries s).2, ?_,
    List.getElem_mem hlt⟩
  simp [pick, index, Nat.pos_iff_ne_zero.mp hlen, List.getElem?_eq_getElem hlt]

end Daybook.Selector
