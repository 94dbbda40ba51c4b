import Mathlib.Algebra.Order.Group.Multiset
import Mathlib.Tactic.Abel

/-!
# The books of a queue

All that entered a queue, in order, what was taken off its front, and what left it otherwise. The
books balance when nothing was lost or made and the order was kept.
-/

namespace Ledger

variable {α : Type*} {entered taken held held' : List α} {gone : Multiset α} {a : α}

/-- What entered is held, was taken, or is gone. -/
structure Balanced (entered taken : List α) (gone : Multiset α) (held : List α) : Prop where
  conserved : (entered : Multiset α) = held + taken + gone
  order : (taken ++ held).Sublist entered

theorem balanced_self (l : List α) : Balanced l [] 0 l where
  conserved := by rw [Multiset.coe_nil, add_zero, add_zero]
  order := List.Sublist.refl _

/-- An item is offered to the queue, and some are lost for it. -/
theorem Balanced.offer {lost : List α} (h : Balanced entered taken gone held)
    (hperm : (held' ++ lost).Perm (held ++ [a])) (hsub : held'.Sublist (held ++ [a])) :
    Balanced (entered ++ [a]) taken (gone + lost) held' where
  conserved := by
    have hcoe : (held : Multiset α) + ([a] : List α) = held' + lost := by
      rw [Multiset.coe_add, Multiset.coe_add]
      exact Multiset.coe_eq_coe.2 hperm.symm
    calc ((entered ++ [a] : List α) : Multiset α)
      _ = held + taken + gone + ([a] : List α) := by rw [← Multiset.coe_add, h.conserved]
      _ = held + ([a] : List α) + taken + gone := by abel
      _ = held' + lost + taken + gone := by rw [hcoe]
      _ = held' + taken + (gone + lost) := by abel
  order := by
    have hback : (taken ++ held').Sublist (taken ++ held ++ [a]) := by
      rw [List.append_assoc]
      exact hsub.append_left _
    exact hback.trans (h.order.append_right _)

/-- The front of the queue is taken. -/
theorem Balanced.take (h : Balanced entered taken gone (a :: held)) :
    Balanced entered (taken ++ [a]) gone held where
  conserved := by
    have hcons : ((a :: held : List α) : Multiset α) = held + ([a] : List α) := by
      rw [Multiset.coe_add]
      exact Multiset.coe_eq_coe.2 (List.perm_append_singleton a held).symm
    rw [h.conserved, hcons, ← Multiset.coe_add]
    abel
  order := by
    rw [List.append_assoc]
    exact h.order

end Ledger
