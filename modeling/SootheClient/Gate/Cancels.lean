import Mathlib.Logic.Function.Basic
import SootheClient.Gate.QueryGate
import SootheClient.Lib.Lts

/-!
# Calls on all keys of a gate

Any number of tasks call the operations of one gate, on any keys and with any callbacks. A label
is one critical section of the gate or, after that of a `cancel`, one step of its call: the sender
is called, its future completes or times out, the local callback runs.

`number` and `made` are ghost: the callbacks that `acquire` and `replace_cancel` put into the gate
are numbered in their order.
-/

namespace SootheClient.Gate

open Function (update)

/-- A local callback that was put into the gate. -/
structure Registration (C : Type*) where
  number : ℕ
  callback : C

/-- Where a `cancel` call is, with its key and what it took out of the gate. -/
inductive CancelCall (C D : Type*) where
  | idle
  /-- A sender was taken; it is called next. -/
  | taken (key : String) (c : Option (Registration C)) (d : D)
  /-- The sender's future is awaited, for 10 s at most. -/
  | sending (key : String) (c : Option (Registration C)) (d : D)
  /-- The local callback is next. -/
  | callback (key : String) (c : Option (Registration C))
  | done

/-- How the wait for a sender's future ends. -/
inductive Wait where
  | completed
  | timedOut

/-- The gate with the `cancel` calls, and the local callbacks that ran, with their call and key. -/
structure Traffic (C D : Type*) where
  gate : QueryGate (Registration C) D := .new
  call : ℕ → CancelCall C D := fun _ => .idle
  ran : List (ℕ × String × Registration C) := []
  made : List (String × C) := []

namespace Traffic

variable {C D : Type*}

/-- A step of a task; `j` is a `cancel` call. -/
inductive Label (C D : Type*) where
  | acquire (key : String) (cancel : C) (sendCancel : Option D)
  | replaceCancel (key : String) (cancel : C)
  | setSendCancel (key : String) (sendCancel : D)
  | release (key : String)
  /-- `cancel` is called: its critical section. -/
  | cancel (j : ℕ) (key : String)
  /-- The sender taken out is called. -/
  | sendCancel (j : ℕ)
  | sendDone (j : ℕ) (wait : Wait)
  /-- The local callback taken out is called. -/
  | localCancel (j : ℕ)

/-- The key whose entries a step is about. -/
def Label.key : Label C D → Option String
  | .acquire key _ _ | .replaceCancel key _ | .setSendCancel key _ | .release key
  | .cancel _ key => some key
  | .sendCancel _ | .sendDone _ _ | .localCancel _ => none

variable (s : Traffic C D)

/-- The next registration. -/
def register (c : C) : Registration C := ⟨s.made.length, c⟩

/-- `acquire`: a busy key is left as it is. -/
def acquireStep (key : String) (c : C) (d? : Option D) : Traffic C D :=
  match s.gate.acquire key (s.register c) d? with
  | .error _ => s
  | .ok g => { s with gate := g, made := s.made ++ [(key, c)] }

def replaceStep (key : String) (c : C) : Traffic C D :=
  { s with
    gate := s.gate.replaceCancel key (s.register c)
    made := if s.gate.isActive key then s.made ++ [(key, c)] else s.made }

/-- The critical section of a `cancel` call, and the branches that follow it. -/
def cancelStep (j : ℕ) (key : String) : Traffic C D :=
  let taken := s.gate.takeCancel key
  { s with
    gate := taken.2
    call := update s.call j
      (match taken.1 with
      | (none, none) => .done
      | (c, some d) => .taken key c d
      | (c, none) => .callback key c) }

/-- The local callback of a `cancel` call. -/
def localStep (j : ℕ) (key : String) (c : Option (Registration C)) : Traffic C D :=
  { s with
    call := update s.call j .done
    ran := s.ran ++ (c.map fun r => (j, key, r)).toList }

/-- One step of one task. -/
def step : Label C D → Option (Traffic C D)
  | .acquire key c d? => some (s.acquireStep key c d?)
  | .replaceCancel key c => some (s.replaceStep key c)
  | .setSendCancel key d => some { s with gate := s.gate.setSendCancel key d }
  | .release key => some { s with gate := s.gate.release key }
  | .cancel j key =>
    match s.call j with
    | .idle => some (s.cancelStep j key)
    | _ => none
  | .sendCancel j =>
    match s.call j with
    | .taken key c d => some { s with call := update s.call j (.sending key c d) }
    | _ => none
  | .sendDone j _ =>
    match s.call j with
    | .sending key c _ => some { s with call := update s.call j (.callback key c) }
    | _ => none
  | .localCancel j =>
    match s.call j with
    | .callback key c => some (s.localStep j key c)
    | _ => none

end Traffic

end SootheClient.Gate
