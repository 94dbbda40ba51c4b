import Mathlib.Algebra.Order.Group.Nat
import Mathlib.Tactic.Common

/-!
# Spaced times

Times are spaced by a period when each is at least a period after the ones before it. A list of
spaced times is no longer than the time it spans allows.
-/

/-- Each time is at least a period after those before it. -/
def Spaced (period : ℕ) (l : List ℕ) : Prop := l.Pairwise fun a b => a + period ≤ b

namespace Spaced

variable {period a b : ℕ} {l : List ℕ}

theorem singleton : Spaced period [a] := List.pairwise_singleton _ _

/-- A time that is a period after all of them may be added. -/
theorem concat (h : Spaced period l) (hb : ∀ a ∈ l, a + period ≤ b) :
    Spaced period (l ++ [b]) := by
  refine List.pairwise_append.2 ⟨h, List.pairwise_singleton _ _, fun a ha c hc => ?_⟩
  rw [List.mem_singleton.1 hc]
  exact hb a ha

/-- **Rate.** Spaced times from `a` to `b` are at most one for each period. -/
theorem rate (h : Spaced period (a :: l)) (hb : ∀ x ∈ a :: l, x ≤ b) :
    a + l.length * period ≤ b := by
  induction l generalizing a with
  | nil =>
    rw [List.length_nil, Nat.zero_mul]
    exact hb a List.mem_cons_self
  | cons c l ih =>
    obtain ⟨hfirst, hrest⟩ := List.pairwise_cons.1 h
    have hstep : a + period ≤ c := hfirst c List.mem_cons_self
    have hlast : c + l.length * period ≤ b :=
      ih hrest fun x hx => hb x (List.mem_cons_of_mem a hx)
    rw [List.length_cons, Nat.succ_mul]
    omega

end Spaced
