import SootheClient.Session.Steps

/-!
# The answer of a turn

What a caller sees of a turn does not depend on its counters: two readers whose locals differ in
the statistics only go on and stop together, in the main loop and in the drain.
-/

namespace SootheClient.Session

open SootheClient.Frame

/-- What a caller sees of a turn: the chunks or the error, and `last_turn_end_state`. -/
def TurnResult.answer (r : TurnResult) : Except String (List TurnChunk) × String :=
  (r.result, r.session.lastTurnEndState)

variable {earlyDrop : List Json → String → Json → Bool} {maxWait : Option ℕ} {L : String}
  {s s' : TurnLoop} {d d' : Drain} {ev frame : Json} {t : Tick} {ticks rest : List Tick}
  {dropped dropped' : ℕ} {st : TurnEventStats}

/-- The locals differ in the statistics only. -/
def SameLocals (s s' : TurnLoop) : Prop := s' = { s with stats := s'.stats }

/-- The drains differ in the statistics only. -/
def SameDrain (d d' : Drain) : Prop := d'.loopId = d.loopId ∧ d'.out = d.out

/-- The exits are the same, and the locals but for the statistics. -/
def SameLeave {ε : Type} (left left' : ε × TurnLoop) : Prop :=
  left.1 = left'.1 ∧ SameLocals left.2 left'.2

/-! ## The main loop -/

theorem onStatus_same {state : String} {t : Option String} :
    Scan.Step.Rel SameLocals SameLeave (s.onStatus state t)
      (({ s with stats := st } : TurnLoop).onStatus state t) := by
  have hrun : ({ s with stats := st } : TurnLoop).observeRunning t =
      { s.observeRunning t with stats := st } := by
    unfold TurnLoop.observeRunning
    cases t with
    | none => rfl
    | some u =>
      by_cases h : ({ s with queryStarted := true } : TurnLoop).rebinds u = true
      · have h' : ({ s with stats := st, queryStarted := true } : TurnLoop).rebinds u = true := h
        simp only [if_pos h, if_pos h']
      · have h' : ¬ ({ s with stats := st, queryStarted := true } : TurnLoop).rebinds u = true := h
        simp only [if_neg h, if_neg h']
  unfold TurnLoop.onStatus
  rw [hrun]
  simp only
  split_ifs
  · exact .next rfl
  · exact .next rfl
  · exact .stop ⟨rfl, rfl⟩
  · exact .next rfl
  · exact .stop ⟨rfl, rfl⟩
  · exact .next rfl

theorem observeChunk_same {ns : List Json} {chunk : TurnChunk} (h : SameLocals s s') :
    SameLocals (s.observeChunk ns chunk) (s'.observeChunk ns chunk) := by
  obtain ⟨st, hst⟩ := observeChunk_eq (s := s) ns chunk
  obtain ⟨st', hst'⟩ := observeChunk_eq (s := s') ns chunk
  rw [hst, hst']
  unfold SameLocals at h ⊢
  rw [h]

theorem onEvent_same {t : Option String} :
    Scan.Step.Rel SameLocals SameLeave (s.onEvent earlyDrop frame t)
      (({ s with stats := st } : TurnLoop).onEvent earlyDrop frame t) := by
  unfold TurnLoop.onEvent
  simp only
  split_ifs
  · exact .next rfl
  · exact .next rfl
  · exact .stop ⟨rfl, observeChunk_same rfl⟩
  · exact .next (observeChunk_same rfl)

theorem adoptLoopId_same :
    ({ s with stats := st } : TurnLoop).adoptLoopId frame =
      { s.adoptLoopId frame with stats := st } := by
  unfold TurnLoop.adoptLoopId
  cases frame.getStr "loop_id" with
  | none => rfl
  | some lid =>
    by_cases h : lid ≠ ""
    · simp only [if_pos h]
    · simp only [if_neg h]

theorem onFrame_same (earlyDrop : List Json → String → Json → Bool) (s : TurnLoop)
    (st : TurnEventStats) (ev : Json) :
    Scan.Step.Rel SameLocals SameLeave (s.onFrame earlyDrop ev)
      (({ s with stats := st } : TurnLoop).onFrame earlyDrop ev) := by
  have hloop : ∀ lid, ({ s with stats := st } : TurnLoop).skipsLoop lid = s.skipsLoop lid :=
    fun _ => rfl
  have hturn : ∀ a b c, ({ s with stats := st } : TurnLoop).skipsTurn a b c = s.skipsTurn a b c :=
    fun _ _ _ => rfl
  unfold TurnLoop.onFrame
  simp only [hloop, hturn, adoptLoopId_same]
  generalize (if (inner ev).getStrD "type" = "status" then (inner ev).getStrD "state" else "") = state
  split_ifs
  · exact .next rfl
  · exact .next rfl
  · exact .stop ⟨rfl, rfl⟩
  · exact onStatus_same
  · refine .next ?_
    unfold TurnLoop.onCommandResponse
    split_ifs <;> rfl
  · exact .next rfl
  · exact onEvent_same

theorem mainStep_same (h : SameLocals s s') :
    Scan.Step.Rel SameLocals SameLeave (mainStep earlyDrop maxWait s t)
      (mainStep earlyDrop maxWait s' t) := by
  rw [h]
  cases t with
  | deadline =>
    cases maxWait with
    | none => exact .next rfl
    | some wait => exact .stop ⟨rfl, rfl⟩
  | frame ev =>
    have hf := onFrame_same earlyDrop s s'.stats ev
    simp only [mainStep]
    generalize s.onFrame earlyDrop ev = x at hf
    generalize TurnLoop.onFrame earlyDrop { s with stats := s'.stats } ev = y at hf
    cases hf with
    | next h => exact .next h
    | stop h => exact .stop ⟨congrArg Leave.exit h.1, h.2⟩
  | silence alive =>
    simp only [mainStep]
    split_ifs
    · exact .stop ⟨rfl, rfl⟩
    · exact .next rfl

/-! ## The drain and the turn -/

theorem drain_same (h : SameDrain d d') :
    Scan.Step.Rel SameDrain SameDrain (Drain.step earlyDrop L d t) (Drain.step earlyDrop L d' t) := by
  cases t with
  | deadline | silence alive => exact .stop h
  | frame ev =>
    show Scan.Step.Rel SameDrain SameDrain (d.onFrame earlyDrop L ev) (d'.onFrame earlyDrop L ev)
    unfold Drain.onFrame
    simp only
    split_ifs
    · exact .next h
    · exact .stop h
    · refine .next ?_
      unfold Drain.adoptLoopId
      cases (inner ev).getStr "loop_id" with
      | none => exact h
      | some lid =>
        by_cases hlid : lid ≠ ""
        · simp only [if_pos hlid]
          exact ⟨rfl, h.2⟩
        · simp only [if_neg hlid]
          exact h
    · exact .next h
    · refine .next ?_
      unfold Drain.onEvent
      simp only
      split_ifs
      · exact h
      · exact ⟨h.1, congrArg (· ++ _) h.2⟩

theorem halt_drain_same (earlyDrop : List Json → String → Json → Bool) (L : String)
    (rest : List Tick) (h : SameDrain d d') :
    Option.Rel (fun p q => SameDrain p.1 q.1 ∧ p.2 = q.2)
      (Scan.halt (Drain.step earlyDrop L) d rest) (Scan.halt (Drain.step earlyDrop L) d' rest) :=
  Scan.halt_rel (fun _ _ _ => drain_same) h

theorem halt_mainStep_same (earlyDrop : List Json → String → Json → Bool)
    (maxWait : Option ℕ) (ticks : List Tick) (h : SameLocals s s') :
    Option.Rel (fun p q => SameLeave p.1 q.1 ∧ p.2 = q.2)
      (Scan.halt (mainStep earlyDrop maxWait) s ticks)
      (Scan.halt (mainStep earlyDrop maxWait) s' ticks) :=
  Scan.halt_rel (fun _ _ _ => mainStep_same) h

theorem afterMain_same {left left' : Leave × TurnLoop} (h : SameLeave left left') :
    (afterMain earlyDrop dropped left rest).map TurnResult.answer =
      (afterMain earlyDrop dropped' left' rest).map TurnResult.answer := by
  obtain ⟨leave, s⟩ := left
  obtain ⟨leave', s'⟩ := left'
  obtain ⟨rfl, hsame⟩ := h
  have hs : s' = { s with stats := s'.stats } := hsame
  clear hsame
  cases leave with
  | exit e =>
    cases e with
    | ended endState =>
      simp only [afterMain, Option.map_map]
      have hdrain : SameDrain s.drain s'.drain := by
        rw [hs]
        exact ⟨rfl, rfl⟩
      have hrel := halt_drain_same earlyDrop s.expectedLoopId rest hdrain
      have hloop : s'.expectedLoopId = s.expectedLoopId := by rw [hs]
      rw [hloop]
      generalize Scan.halt (Drain.step earlyDrop s.expectedLoopId) s.drain rest = x at hrel
      generalize Scan.halt (Drain.step earlyDrop s.expectedLoopId) s'.drain rest = y at hrel
      cases hrel with
      | none => rfl
      | some h =>
        refine congrArg some (Prod.ext ?_ rfl)
        exact congrArg Except.ok h.1.2.symm
    | failed message => rfl
  | timedOut message => rfl
  | connectionLost => rfl

/-- The statistics and the drop counter do not influence the answer. -/
theorem turnFrom_same (h : SameLocals s s') :
    (turnFrom earlyDrop maxWait dropped s ticks).map TurnResult.answer =
      (turnFrom earlyDrop maxWait dropped' s' ticks).map TurnResult.answer := by
  have hrel := halt_mainStep_same earlyDrop maxWait ticks h
  unfold turnFrom
  generalize Scan.halt (mainStep earlyDrop maxWait) s ticks = x at hrel
  generalize Scan.halt (mainStep earlyDrop maxWait) s' ticks = y at hrel
  cases hrel with
  | none => rfl
  | @some q q' h =>
    simp only [Option.bind_some]
    rw [h.2]
    exact afterMain_same h.1

end SootheClient.Session
