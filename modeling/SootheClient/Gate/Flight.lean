import Mathlib.Logic.Function.Basic
import SootheClient.Lib.Lts
import SootheClient.Gate.QueryGate

/-!
# Turns and cancels on one session

Any number of `TurnRunner::execute` calls, of `QueryGate::acquire` calls followed by
`TurnRunner::execute_reserved`, and of `QueryGate::cancel` calls share one gate and one session id.
A label is one atomic step of one call: a critical section of the gate, or the code of a call
between two awaits. `run_turn` may return from every place after its start.

`owner`, `revoked`, `cancelOf` and `sendOf` are ghost: which call's reservation the gate holds,
whose reservation a cancel took out, and the callbacks a call last registered for itself.
-/

namespace SootheClient.Gate

open Function (update)

/-- Who made a callback: the caller of `acquire`, or `run_turn` with its wrapper. -/
inductive Stage where
  | reserve
  | run
  deriving DecidableEq, Repr

/-- A local cancel callback or a daemon-cancel sender, by the turn that registered it. -/
structure Token where
  turn : ℕ
  stage : Stage
  deriving DecidableEq, Repr

/-- How a turn's call ends. -/
inductive Outcome where
  /-- `query busy`. -/
  | busy
  /-- `ExecuteReserved requires an active QueryGate reservation`. -/
  | inactive
  /-- `query cancelled`. -/
  | cancelled
  /-- Every other exit of `run_turn`. -/
  | other
  deriving DecidableEq, Repr

/-- Where a turn's call is. -/
inductive Pc where
  /-- Not called. -/
  | idle
  /-- The caller's own `acquire` succeeded; `execute_reserved` is not called yet. -/
  | reserved
  /-- `execute_reserved` saw an active reservation; `replace_cancel` is next. -/
  | checked
  /-- `run_turn` is next. -/
  | entering
  /-- In `run_turn`, before `set_send_cancel` (the pool's `acquire`). -/
  | poolAcquire
  /-- In `run_turn`, past `set_send_cancel`. -/
  | registered
  /-- In `run_turn`'s loop: the input is sent. -/
  | looping
  /-- `run_turn` returned; `release` is next. -/
  | returned (r : Outcome)
  | done (r : Outcome)
  deriving DecidableEq, Repr

/-- The body of `run_turn` has started and not returned. -/
def Pc.live : Pc → Bool
  | .poolAcquire | .registered | .looping => true
  | _ => false

/-- Between the start of `execute`'s or `execute_reserved`'s work and its final `release`. -/
def Pc.unfinished : Pc → Bool
  | .checked | .entering | .poolAcquire | .registered | .looping | .returned _ => true
  | _ => false

/-- A reservation was made and not yet given back by the call itself. -/
def Pc.holding (p : Pc) : Bool := p.unfinished || p = .reserved

/-- Where a `QueryGate::cancel` call is; it carries the callbacks it took out of the gate. -/
inductive CancelPc where
  | idle
  /-- A sender was taken; it is called next. -/
  | taken (c : Option Token) (d : Token)
  /-- The sender's future is awaited, for 10 s at most. -/
  | sending (c : Option Token) (d : Token)
  /-- The local callback is next. -/
  | callback (c : Option Token)
  | done
  deriving DecidableEq, Repr

/-- The gate with all calls on the session. -/
structure Flight where
  gate : QueryGate Token Token
  pc : ℕ → Pc
  /-- The `cancelled` flag of a turn. -/
  flag : ℕ → Bool
  cancelPc : ℕ → CancelPc
  /-- The senders called so far, with the `cancel` call. -/
  sends : List (ℕ × Token)
  /-- The local callbacks called so far, with the `cancel` call. -/
  locals : List (ℕ × Token)
  owner : Option ℕ
  revoked : ℕ → Bool
  cancelOf : ℕ → Option Token
  sendOf : ℕ → Option Token

/-- No call was made yet. -/
def init : Flight where
  gate := .new
  pc _ := .idle
  flag _ := false
  cancelPc _ := .idle
  sends := []
  locals := []
  owner := none
  revoked _ := false
  cancelOf _ := none
  sendOf _ := none

/-- A step of a call: `i` is a turn's call, `j` a cancel's. -/
inductive Label where
  /-- `execute` is called: the flag is made, then `gate.acquire`. -/
  | execute (i : ℕ)
  /-- The application calls `gate.acquire`, with or without a sender. -/
  | reserve (i : ℕ) (withSend : Bool)
  /-- `execute_reserved` is called: its `is_active` check. -/
  | executeReserved (i : ℕ)
  | replaceCancel (i : ℕ)
  | runTurn (i : ℕ)
  | setSendCancel (i : ℕ)
  | sendInput (i : ℕ)
  /-- The body of `run_turn` returns. -/
  | finish (i : ℕ) (r : Outcome)
  | release (i : ℕ)
  /-- `cancel` is called: its critical section. -/
  | cancel (j : ℕ)
  /-- The sender taken out is called. -/
  | sendCancel (j : ℕ)
  /-- The sender's future completed, or 10 s went by. -/
  | sendDone (j : ℕ)
  /-- The local callback taken out is called. -/
  | localCancel (j : ℕ)
  deriving DecidableEq, Repr

namespace Flight

variable (sid : String) (s : Flight)

/-- A call's `acquire`, with its callback `c`, its sender `d?` and the place it goes on at. -/
def acquireStep (i : ℕ) (c : Token) (d? : Option Token) (next : Pc) : Flight :=
  match s.gate.acquire sid c d? with
  | .error _ => { s with pc := update s.pc i (.done .busy) }
  | .ok g =>
    { s with
      gate := g
      pc := update s.pc i next
      owner := some i
      cancelOf := update s.cancelOf i (some c)
      sendOf := update s.sendOf i d? }

/-- The critical section of a `cancel` call, and the branches that follow it. -/
def cancelStep (j : ℕ) : Flight :=
  let taken := s.gate.takeCancel sid
  { s with
    gate := taken.2
    cancelPc := update s.cancelPc j
      (match taken.1 with
      | (none, none) => .done
      | (c, some d) => .taken c d
      | (c, none) => .callback c)
    owner := none
    revoked := match s.owner with
      | some i => update s.revoked i true
      | none => s.revoked }

/-- The local callback of a `cancel` call; `run_turn`'s wrapper made one that sets its flag. -/
def localStep (j : ℕ) (c : Option Token) : Flight :=
  match c with
  | none => { s with cancelPc := update s.cancelPc j .done }
  | some t =>
    { s with
      cancelPc := update s.cancelPc j .done
      flag := if t.stage = .run then update s.flag t.turn true else s.flag
      locals := s.locals ++ [(j, t)] }

/-- One step of one call. -/
def step : Label → Option Flight
  | .execute i =>
    if s.pc i = .idle then some (s.acquireStep sid i ⟨i, .run⟩ none .entering) else none
  | .reserve i withSend =>
    if s.pc i = .idle then
      some (s.acquireStep sid i ⟨i, .reserve⟩ (if withSend then some ⟨i, .reserve⟩ else none)
        .reserved)
    else none
  | .executeReserved i =>
    if s.pc i = .reserved then
      some { s with
        pc := update s.pc i (if s.gate.isActive sid then .checked else .done .inactive) }
    else none
  | .replaceCancel i =>
    if s.pc i = .checked then
      some { s with
        gate := s.gate.replaceCancel sid ⟨i, .run⟩
        pc := update s.pc i .entering
        cancelOf := update s.cancelOf i (some ⟨i, .run⟩) }
    else none
  | .runTurn i =>
    if s.pc i = .entering then some { s with pc := update s.pc i .poolAcquire } else none
  | .setSendCancel i =>
    if s.pc i = .poolAcquire then
      some { s with
        gate := s.gate.setSendCancel sid ⟨i, .run⟩
        pc := update s.pc i .registered
        sendOf := update s.sendOf i (some ⟨i, .run⟩) }
    else none
  | .sendInput i =>
    if s.pc i = .registered then some { s with pc := update s.pc i .looping } else none
  | .finish i r =>
    if (s.pc i).live ∧ (r = .cancelled → s.pc i = .looping ∧ s.flag i = true) then
      some { s with pc := update s.pc i (.returned r) }
    else none
  | .release i =>
    match s.pc i with
    | .returned r =>
      some { s with
        gate := s.gate.release sid
        pc := update s.pc i (.done r)
        owner := none }
    | _ => none
  | .cancel j => if s.cancelPc j = .idle then some (s.cancelStep sid j) else none
  | .sendCancel j =>
    match s.cancelPc j with
    | .taken c d =>
      some { s with
        cancelPc := update s.cancelPc j (.sending c d)
        sends := s.sends ++ [(j, d)] }
    | _ => none
  | .sendDone j =>
    match s.cancelPc j with
    | .sending c _ => some { s with cancelPc := update s.cancelPc j (.callback c) }
    | _ => none
  | .localCancel j =>
    match s.cancelPc j with
    | .callback c => some (s.localStep j c)
    | _ => none

/-- The turns whose `run_turn` body has started and not returned. -/
def Live (i : ℕ) : Prop := (s.pc i).live = true

/-- A turn whose reservation a cancel took out is still on its way to its own `release`. -/
def Orphan (i : ℕ) : Prop := s.revoked i = true ∧ (s.pc i).unfinished = true

end Flight

end SootheClient.Gate
