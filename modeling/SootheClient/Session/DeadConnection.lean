import SootheClient.Frame.Bare
import SootheClient.Session.Steps

/-!
# Turns on a dead connection

Once the connection is down and the queue empty, every read comes back at once without a frame.
The main loop takes the connection for lost only when the query has started.
-/

namespace SootheClient.Session

open SootheClient.Frame

/-- The loop id after a status frame. -/
def adopted (loopId : String) (frame : Json) : String :=
  match frame.getStr "loop_id" with
  | some lid => if lid ≠ "" then lid else loopId
  | none => loopId

/-- The loop id after a frame of an unstarted query; `none` for a running status or an error of the
session's loop. -/
def passing (loopId : String) (frame : Json) : Option String :=
  if otherLoop loopId frame then some loopId
  else if frame.getStrD "type" = "error" then none
  else if frame.getStrD "type" = "status" then
    if frame.getStrD "state" = "running" then none else some (adopted loopId frame)
  else some loopId

/-- The ticks bring a running status or an error of the session's loop. Until then a status frame
can name the loop. -/
def starts (loopId : String) : List Tick → Bool
  | [] => false
  | .frame ev :: ts =>
    match passing loopId (inner ev) with
    | none => true
    | some loopId => starts loopId ts
  | _ :: ts => starts loopId ts

/-- `n` reads of a dead connection. -/
def dead (n : ℕ) : List Tick := List.replicate n (.silence false)

/-- No running status has been read. -/
structure Unstarted (loopId : String) (s : TurnLoop) : Prop where
  loop : s.expectedLoopId = loopId
  started : s.queryStarted = false
  unbound : s.expectedTurnId = none

variable {earlyDrop : List Json → String → Json → Bool} {L : String} {s s' : TurnLoop} {d : Drain}
  {ev : Json} {t : Tick} {ticks : List Tick} {dropped n : ℕ}

/-! ## Before the start -/

theorem skipsTurn_unbound {eventType state : String} {t : Option String}
    (hb : s.expectedTurnId = none) : s.skipsTurn eventType state t = false := by
  unfold TurnLoop.skipsTurn
  rw [hb]

theorem skipsLoop_eq (hs : s.expectedLoopId = L) {frame : Json} :
    s.skipsLoop (frame.getStrD "loop_id") = true ↔ otherLoop L frame := by
  unfold TurnLoop.skipsLoop
  rw [hs, Bool.and_eq_true, Bool.and_eq_true, decide_eq_true_eq, decide_eq_true_eq,
    decide_eq_true_eq, and_assoc]
  exact Iff.rfl

theorem adoptLoopId_unstarted (hs : Unstarted L s) {frame : Json} :
    Unstarted (adopted L frame) (s.adoptLoopId frame) := by
  unfold TurnLoop.adoptLoopId adopted
  cases frame.getStr "loop_id" with
  | none => exact hs
  | some lid =>
    by_cases h : lid ≠ ""
    · simp only [if_pos h]
      exact ⟨rfl, hs.started, hs.unbound⟩
    · simp only [if_neg h]
      exact hs

/-- An event before the start is counted, and its chunk kept at most. -/
theorem onEvent_unstarted (hs : Unstarted L s) {frame : Json} {t : Option String} :
    ∃ s', s.onEvent earlyDrop frame t = .next s' ∧ Unstarted L s' := by
  obtain ⟨st, ⟨-, h⟩ | ⟨-, -, h⟩ | ⟨-, -, hall, -⟩⟩ := onEvent_cases
    earlyDrop s frame t
  · exact ⟨_, h, hs.loop, hs.started, hs.unbound⟩
  · exact ⟨_, h, hs.loop, hs.started, hs.unbound⟩
  · unfold isTurnTerminalAllowed at hall
    rw [hs.started] at hall
    cases hall

/-- A status other than running ends nothing before the start. -/
theorem onStatus_unstarted (hs : s.queryStarted = false) {state : String} {t : Option String}
    (hst : state ≠ "running") : s.onStatus state t = .next s := by
  rcases onStatus_cases s state t with
    ⟨hrun, -⟩ | ⟨-, h⟩ | ⟨-, hq, -⟩ | ⟨-, hq, -⟩
  · exact absurd hrun hst
  · exact h
  all_goals cases hs.symm.trans hq

/-- A frame that passes leaves the query unstarted; another one starts it or fails the turn. -/
theorem onFrame_unstarted (earlyDrop : List Json → String → Json → Bool) (ev : Json)
    (hs : Unstarted L s) :
    match passing L (inner ev) with
    | some L' => ∃ s', s.onFrame earlyDrop ev = .next s' ∧ Unstarted L' s'
    | none => (∃ m, s.onFrame earlyDrop ev = .stop (.failed m, s)) ∨
      ∃ s', s.onFrame earlyDrop ev = .next s' ∧ s'.queryStarted = true := by
  unfold passing TurnLoop.onFrame
  simp only
  by_cases hloop : otherLoop L (inner ev)
  · rw [if_pos hloop, if_pos ((skipsLoop_eq hs.loop).2 hloop)]
    exact ⟨s, rfl, hs⟩
  have hturn : ¬ s.skipsTurn ((inner ev).getStrD "type")
      (if (inner ev).getStrD "type" = "status" then (inner ev).getStrD "state" else "")
      (frameTurnId (inner ev)) = true := by
    rw [skipsTurn_unbound hs.unbound]
    decide
  rw [if_neg hloop, if_neg fun h => hloop ((skipsLoop_eq hs.loop).1 h), if_neg hturn]
  by_cases herr : (inner ev).getStrD "type" = "error"
  · rw [if_pos herr, if_pos herr]
    exact Or.inl ⟨_, rfl⟩
  rw [if_neg herr, if_neg herr]
  by_cases hst : (inner ev).getStrD "type" = "status"
  · rw [if_pos hst, if_pos hst, if_pos hst]
    by_cases hrun : (inner ev).getStrD "state" = "running"
    · rw [if_pos hrun, hrun]
      exact Or.inr ⟨_, rfl, observeRunning_queryStarted⟩
    · rw [if_neg hrun, onStatus_unstarted (adoptLoopId_unstarted hs).started hrun]
      exact ⟨_, rfl, adoptLoopId_unstarted hs⟩
  rw [if_neg hst, if_neg hst]
  by_cases hcmd : (inner ev).getStrD "type" = "command_response"
  · rw [if_pos hcmd]
    obtain ⟨c, hc⟩ := onCommandResponse_with s (inner ev)
    rw [hc]
    exact ⟨_, rfl, hs.loop, hs.started, hs.unbound⟩
  rw [if_neg hcmd]
  by_cases hev : (inner ev).getStrD "type" = "event"
  · rw [if_neg fun h => h hev]
    exact onEvent_unstarted hs
  · rw [if_pos hev]
    exact ⟨s, rfl, hs⟩

/-- Without a start the loop reads all ticks and is still unstarted. -/
theorem reach_unstarted (earlyDrop : List Json → String → Json → Bool)
    (hs : Unstarted L s) (h : starts L ticks = false) :
    ∃ L' s', Scan.reach (mainStep earlyDrop none) s ticks = some s' ∧ Unstarted L' s' := by
  induction ticks generalizing L s with
  | nil => exact ⟨L, s, rfl, hs⟩
  | cons t ticks ih =>
    cases t with
    | deadline =>
      have hnext : mainStep earlyDrop none s .deadline = .next s := rfl
      rw [Scan.reach_cons_next hnext]
      exact ih hs h
    | silence alive =>
      have hnext : mainStep earlyDrop none s (.silence alive) = .next s := by
        simp only [mainStep, hs.started]
        rfl
      rw [Scan.reach_cons_next hnext]
      exact ih hs h
    | frame ev =>
      have hstep := onFrame_unstarted earlyDrop ev hs
      unfold starts at h
      cases hp : passing L (inner ev) with
      | none =>
        rw [hp] at h
        cases h
      | some L' =>
        rw [hp] at h hstep
        obtain ⟨s', hs', hun⟩ := hstep
        rw [Scan.reach_cons_next (mainStep_next hs')]
        exact ih hun h

/-! ## After the start -/

/-- Every drain ends at a silence. -/
theorem drain_ends (b : Bool) :
    (Scan.halt (Drain.step earlyDrop L) d (ticks ++ [.silence b])).isSome := by
  rcases Scan.halt_or_reach (Drain.step earlyDrop L) d ticks with ⟨e, cs, h, -⟩ | ⟨d', -, h⟩
  · rw [Scan.halt_append_of_halt h]
    rfl
  · rw [Scan.halt_append_of_reach h]
    rfl

/-- Whatever the main loop left with, the call returns at the next silence. -/
theorem afterMain_returns {left : Leave × TurnLoop} (b : Bool) :
    (afterMain earlyDrop dropped left (ticks ++ [.silence b])).isSome := by
  obtain ⟨leave, s⟩ := left
  cases leave with
  | exit e =>
    cases e with
    | ended endState =>
      simp only [afterMain, Option.isSome_map]
      exact drain_ends b
    | failed message => rfl
  | timedOut message => rfl
  | connectionLost => rfl

/-- A started query returns at the first read of the dead connection. -/
theorem turnFrom_started (hs : s.queryStarted = true) :
    (turnFrom earlyDrop none dropped s (ticks ++ dead 1)).isSome := by
  unfold turnFrom
  rcases Scan.halt_or_reach (mainStep earlyDrop none) s ticks with
    ⟨left, rest, h, -⟩ | ⟨s', -, h⟩
  · rw [Scan.halt_append_of_halt h, Option.bind_some]
    exact afterMain_returns false
  · have hs' : s'.queryStarted = true :=
      Scan.reach_invariant (I := fun s => s.queryStarted = true)
        (fun _ _ _ hs _ hstep => mainStep_started hs hstep) hs h
    have hlost : mainStep earlyDrop none s' (.silence false) = .stop (.connectionLost, s') := by
      simp only [mainStep, hs']
      rfl
    rw [Scan.halt_append_of_reach h]
    show (Option.bind (Scan.halt (mainStep earlyDrop none) s' [.silence false]) _).isSome = true
    rw [Scan.halt_cons_stop hlost]
    rfl

/-- Ticks with a start lead to a return. -/
theorem turnFrom_of_starts (hs : Unstarted L s) (h : starts L ticks = true) :
    (turnFrom earlyDrop none dropped s (ticks ++ dead 1)).isSome := by
  induction ticks generalizing L s with
  | nil => cases h
  | cons t ticks ih =>
    cases t with
    | deadline =>
      have hnext : mainStep earlyDrop none s .deadline = .next s := rfl
      unfold turnFrom
      rw [List.cons_append, Scan.halt_cons_next hnext]
      exact ih hs h
    | silence alive =>
      have hnext : mainStep earlyDrop none s (.silence alive) = .next s := by
        simp only [mainStep, hs.started]
        rfl
      unfold turnFrom
      rw [List.cons_append, Scan.halt_cons_next hnext]
      exact ih hs h
    | frame ev =>
      have hstep := onFrame_unstarted earlyDrop ev hs
      unfold starts at h
      unfold turnFrom
      rw [List.cons_append]
      cases hp : passing L (inner ev) with
      | none =>
        rw [hp] at hstep
        obtain ⟨m, hf⟩ | ⟨s', hf, hq⟩ := hstep
        · rw [Scan.halt_cons_stop (mainStep_stop hf)]
          rfl
        · rw [Scan.halt_cons_next (mainStep_next hf)]
          exact turnFrom_started hq
      | some L' =>
        rw [hp] at h hstep
        obtain ⟨s', hf, hun⟩ := hstep
        rw [Scan.halt_cons_next (mainStep_next hf)]
        exact ih hun h

/-- Reads of a dead connection start nothing. -/
theorem starts_dead : starts L (dead n) = false := by
  induction n with
  | zero => rfl
  | succ n ih => exact ih

theorem starts_append_dead : starts L (ticks ++ dead n) = starts L ticks := by
  induction ticks generalizing L with
  | nil => exact starts_dead
  | cons t ticks ih =>
    cases t with
    | deadline | silence alive => exact ih
    | frame ev =>
      simp only [List.cons_append, starts]
      cases passing L (inner ev) with
      | none => rfl
      | some L' => exact ih

/-- Without a start no number of reads of the dead connection leads to a return. -/
theorem turnFrom_of_not_starts (hs : Unstarted L s) (h : starts L ticks = false) :
    turnFrom earlyDrop none dropped s (ticks ++ dead n) = none := by
  obtain ⟨L', s', hreach, -⟩ := reach_unstarted earlyDrop hs
    (starts_append_dead.trans h : starts L (ticks ++ dead n) = false)
  rcases Scan.halt_or_reach (mainStep earlyDrop none) s (ticks ++ dead n) with
    ⟨_, _, -, hnone⟩ | ⟨_, hhalt, -⟩
  · cases hreach.symm.trans hnone
  · unfold turnFrom
    rw [hhalt]
    rfl

/-- **Return on a dead connection.** Without a deadline, after any finite stream on which the
connection then dies for good, the call returns after finitely many iterations if and only if the
stream, peeled, brings a running status or an error of the session's loop. -/
theorem dead_connection (earlyDrop : List Json → String → Json → Bool) (S : DaemonSession)
    (queued late : List Tick) (dropped : ℕ) :
    (∃ n, (iterTurnChunks earlyDrop none S queued (late ++ dead n) dropped).isSome) ↔
      starts S.loopId (peel queued ++ late) = true := by
  have hstart : Unstarted S.loopId S.start := ⟨rfl, rfl, rfl⟩
  unfold iterTurnChunks
  constructor
  · rintro ⟨n, hn⟩
    by_contra hno
    rw [← List.append_assoc, turnFrom_of_not_starts hstart (Bool.eq_false_iff.2 hno)] at hn
    cases hn
  · intro h
    refine ⟨1, ?_⟩
    rw [← List.append_assoc]
    exact turnFrom_of_starts hstart h

/-- The connection dies before the turn has started. -/
theorem dead_connection_fails : ¬ ∀ (earlyDrop : List Json → String → Json → Bool)
    (S : DaemonSession) (queued late : List Tick) (dropped : ℕ),
    ∃ n, (iterTurnChunks earlyDrop none S queued (late ++ dead n) dropped).isSome := by
  intro h
  obtain ⟨n, hn⟩ := h (fun _ _ _ => false) { loopId := "L" } []
    [.frame (statusFrame "idle" none)] 0
  unfold iterTurnChunks at hn
  rw [← List.append_assoc, turnFrom_of_not_starts (L := "L") ⟨rfl, rfl, rfl⟩ (by decide)] at hn
  cases hn

end SootheClient.Session
