import Mathlib.Data.List.DropRight
import Mathlib.Tactic.Common

/-!
# The latest value of a log

A cell that some entries of a log reset, some write and the others leave as it is. What the cell
holds after a log is read off the log: the last value that was written since the last reset.
-/

namespace Latest

variable {σ α β : Type*} {reset : α → Bool} {write : α → Option β} {log : List α} {a : α}

/-- The entries after the last reset. -/
def since (reset : α → Bool) (log : List α) : List α := log.rtakeWhile (!reset ·)

/-- The last value written since the last reset. -/
def latest (reset : α → Bool) (write : α → Option β) (log : List α) : Option β :=
  ((since reset log).filterMap write).getLast?

theorem since_concat :
    since reset (log ++ [a]) = if reset a then [] else since reset log ++ [a] := by
  unfold since
  rw [List.rtakeWhile_concat]
  cases reset a <;> rfl

theorem latest_concat : latest reset write (log ++ [a]) =
    if reset a then none else (write a).or (latest reset write log) := by
  unfold latest
  rw [since_concat]
  cases reset a with
  | true => rfl
  | false =>
    rw [if_neg Bool.false_ne_true, if_neg Bool.false_ne_true, List.filterMap_append,
      List.getLast?_append]
    cases h : write a <;> simp [h]

/-- **The cell.** A field that every step resets, writes or leaves alone holds the latest value. -/
theorem cell_foldl {f : σ → α → σ} {cell : σ → Option β} {s : σ}
    (hcell : ∀ s a, cell (f s a) = if reset a then none else (write a).or (cell s))
    (hs : cell s = none) : cell (log.foldl f s) = latest reset write log := by
  induction log using List.reverseRecOn with
  | nil => exact hs
  | append_singleton log a ih => rw [List.foldl_concat, hcell, ih, latest_concat]

/-- A field that no step resets starts from what it held. -/
theorem value_foldl {f : σ → α → σ} {value : σ → β} {s : σ}
    (hvalue : ∀ s a, value (f s a) = (write a).getD (value s)) :
    value (log.foldl f s) = (latest (fun _ => false) write log).getD (value s) := by
  induction log using List.reverseRecOn with
  | nil => rfl
  | append_singleton log a ih =>
    rw [List.foldl_concat, hvalue, ih, latest_concat, if_neg Bool.false_ne_true]
    cases write a <;> rfl

end Latest
