import Mathlib.Data.List.Basic

/-!
# Notifications

A cell that tasks wait on. `notifyOne` wakes the task that waits longest, or leaves one permit for
the next. `notifyWaiters` leaves no permit: it wakes the tasks that wait, and the futures that were
created before it, which are known by the number of calls at their creation.
-/

variable {ι : Type*}

structure Notify (ι : Type*) where
  permit : Bool := false
  /-- How often `notifyWaiters` was called. -/
  calls : ℕ := 0
  waiting : List ι := []

namespace Notify

variable (n : Notify ι)

def notifyOne : Notify ι :=
  match n.waiting with
  | [] => { n with permit := true }
  | _ :: rest => { n with waiting := rest }

def notifyWaiters : Notify ι := { n with calls := n.calls + 1, waiting := [] }

/-- The first poll of a future that was created after `created` calls: whether it is ready. -/
def poll (i : ι) (created : ℕ) : Bool × Notify ι :=
  if n.permit then (true, { n with permit := false })
  else if n.calls ≠ created then (true, n)
  else (false, { n with waiting := n.waiting ++ [i] })

variable {n : Notify ι} {i : ι} {created : ℕ}

@[simp] theorem calls_notifyOne : n.notifyOne.calls = n.calls := by
  unfold notifyOne
  split <;> rfl

/-- A poll finds a permit, a call since the creation, or it waits. -/
theorem poll_cases (n : Notify ι) (i : ι) (created : ℕ) :
    (n.permit = true ∧ n.poll i created = (true, { n with permit := false })) ∨
    (n.permit = false ∧ n.calls ≠ created ∧ n.poll i created = (true, n)) ∨
      n.permit = false ∧ n.calls = created ∧
        n.poll i created = (false, { n with waiting := n.waiting ++ [i] }) := by
  unfold poll
  by_cases hp : n.permit = true
  · rw [if_pos hp]
    exact Or.inl ⟨hp, rfl⟩
  rw [if_neg hp]
  by_cases hc : n.calls ≠ created
  · rw [if_pos hc]
    exact Or.inr (Or.inl ⟨Bool.eq_false_iff.2 hp, hc, rfl⟩)
  · rw [if_neg hc]
    exact Or.inr (Or.inr ⟨Bool.eq_false_iff.2 hp, not_not.1 hc, rfl⟩)

end Notify
