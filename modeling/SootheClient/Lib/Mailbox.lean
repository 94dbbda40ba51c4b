import SootheClient.Lib.Lts

/-!
# Bounded mailboxes

A mailbox takes offers while it has room and gives them out in order. It keeps what was taken from
it; taken and waiting together are its history, which only an accepted offer extends.
-/

/-- A queue of bounded length, with what was taken from it. -/
structure Mailbox (α : Type*) (capacity : ℕ) where
  waiting : List α
  taken : List α
  fits : waiting.length ≤ capacity

namespace Mailbox

variable {α : Type*} {capacity : ℕ}

/-- What can happen to a mailbox. -/
inductive Op (α : Type*) where
  | offer (a : α)
  | take

def empty : Mailbox α capacity := ⟨[], [], Nat.zero_le _⟩

/-- An offer is accepted while there is room, and is lost otherwise. -/
def offer (m : Mailbox α capacity) (a : α) : Mailbox α capacity :=
  if h : m.waiting.length < capacity then
    { m with
      waiting := m.waiting ++ [a]
      fits := by rw [List.length_append]; exact h }
  else m

/-- The first item is taken out; there is none when nothing waits. -/
def take (m : Mailbox α capacity) : Option (Mailbox α capacity) :=
  match h : m.waiting with
  | [] => none
  | a :: rest =>
    some
      { waiting := rest
        taken := m.taken ++ [a]
        fits := by
          have hfits := m.fits
          rw [h] at hfits
          exact Nat.le_of_succ_le hfits }

def step (m : Mailbox α capacity) : Op α → Option (Mailbox α capacity)
  | .offer a => some (m.offer a)
  | .take => m.take

/-- All that was accepted, in order. -/
def history (m : Mailbox α capacity) : List α := m.taken ++ m.waiting

/-- What the operation adds to the history. -/
def accepts (m : Mailbox α capacity) : Op α → List α
  | .offer a => if m.waiting.length < capacity then [a] else []
  | .take => []

variable {m m' : Mailbox α capacity} {a : α} {op : Op α} {ops : List (Op α)}

@[simp] theorem history_empty : (empty : Mailbox α capacity).history = [] := rfl

theorem history_offer : (m.offer a).history = m.history ++ m.accepts (.offer a) := by
  unfold offer accepts history
  split_ifs
  · exact (List.append_assoc _ _ _).symm
  · exact (List.append_nil _).symm

theorem take_eq_some (h : m.take = some m') :
    ∃ a, m.waiting = a :: m'.waiting ∧ m'.taken = m.taken ++ [a] := by
  unfold take at h
  split at h
  · cases h
  · rename_i a rest hw
    obtain rfl := Option.some.inj h
    exact ⟨a, hw, rfl⟩

theorem history_take (h : m.take = some m') : m'.history = m.history := by
  obtain ⟨a, hw, ht⟩ := take_eq_some h
  unfold history
  rw [ht, hw, List.append_assoc]
  rfl

/-- Every operation extends the history by what it accepts. -/
theorem history_step (h : step m op = some m') : m'.history = m.history ++ m.accepts op := by
  cases op with
  | offer a =>
    obtain rfl := Option.some.inj h
    exact history_offer
  | take => exact (history_take h).trans (List.append_nil _).symm

/-- So after a run the history is made of all that was accepted. -/
theorem history_exec (h : Lts.exec step m ops = some m') :
    m'.history = m.history ++ Lts.collect step accepts m ops :=
  Lts.collect_inv (G := fun _ _ => True) (I := fun l m => m.history = l)
    (fun l s a t hI _ hstep => by rw [← hI]; exact history_step hstep) rfl
    (Lts.guarded_of_forall fun _ _ => trivial) h

end Mailbox
