import SootheClient.Session.TurnStream

/-!
# What an iteration of the turn loop can do

One inversion lemma for the main loop on a frame, one for the event frames in it and one for the
drain. Facts about runs go by these cases.
-/

namespace SootheClient.Session

open SootheClient.Frame

variable {earlyDrop : List Json → String → Json → Bool} {maxWait : Option ℕ} {L : String}
  {s s' : TurnLoop} {d : Drain} {ev frame : Json} {state : String} {t : Option String}

/-! ## The main loop -/

/-- A frame is skipped, fails the turn, or goes to the handler of its type. -/
theorem onFrame_cases (earlyDrop : List Json → String → Json → Bool) (s : TurnLoop)
    (ev : Json) : s.onFrame earlyDrop ev = .next s ∨
    ((inner ev).getStrD "type" = "error" ∧
      s.onFrame earlyDrop ev = .stop (.failed (errorMessage (inner ev)), s)) ∨
    ((inner ev).getStrD "type" = "status" ∧
      s.skipsLoop ((inner ev).getStrD "loop_id") = false ∧
      s.skipsTurn "status" ((inner ev).getStrD "state") (frameTurnId (inner ev)) = false ∧
      s.onFrame earlyDrop ev = (s.adoptLoopId (inner ev)).onStatus ((inner ev).getStrD "state")
        (frameTurnId (inner ev))) ∨
    ((inner ev).getStrD "type" = "command_response" ∧
      s.onFrame earlyDrop ev = .next (s.onCommandResponse (inner ev))) ∨
    ((inner ev).getStrD "type" = "event" ∧
      s.skipsLoop ((inner ev).getStrD "loop_id") = false ∧
      s.skipsTurn "event" "" (frameTurnId (inner ev)) = false ∧
      s.onFrame earlyDrop ev = s.onEvent earlyDrop (inner ev) (frameTurnId (inner ev))) := by
  unfold TurnLoop.onFrame
  simp only
  by_cases hloop : s.skipsLoop ((inner ev).getStrD "loop_id") = true
  · exact Or.inl (if_pos hloop)
  rw [if_neg hloop]
  have hloop' := Bool.eq_false_iff.2 hloop
  by_cases hst : (inner ev).getStrD "type" = "status"
  · rw [hst, if_pos rfl, if_neg (by decide : "status" ≠ "error"), if_pos rfl]
    by_cases hturn : s.skipsTurn "status" ((inner ev).getStrD "state") (frameTurnId (inner ev)) = true
    · exact Or.inl (if_pos hturn)
    · rw [if_neg hturn]
      exact Or.inr (Or.inr (Or.inl ⟨rfl, hloop', Bool.eq_false_iff.2 hturn, rfl⟩))
  rw [if_neg hst, if_neg hst]
  by_cases hturn : s.skipsTurn ((inner ev).getStrD "type") "" (frameTurnId (inner ev)) = true
  · exact Or.inl (if_pos hturn)
  rw [if_neg hturn]
  by_cases herr : (inner ev).getStrD "type" = "error"
  · exact Or.inr (Or.inl ⟨herr, if_pos herr⟩)
  rw [if_neg herr]
  by_cases hcmd : (inner ev).getStrD "type" = "command_response"
  · exact Or.inr (Or.inr (Or.inr (Or.inl ⟨hcmd, if_pos hcmd⟩)))
  rw [if_neg hcmd]
  by_cases hev : (inner ev).getStrD "type" = "event"
  · rw [if_neg fun h => h hev]
    rw [hev] at hturn ⊢
    exact Or.inr (Or.inr (Or.inr (Or.inr ⟨rfl, hloop', Bool.eq_false_iff.2 hturn, rfl⟩)))
  · exact Or.inl (if_pos hev)

/-- A status that is not skipped goes to its handler. -/
theorem onFrame_status (htype : (inner ev).getStrD "type" = "status")
    (hloop : s.skipsLoop ((inner ev).getStrD "loop_id") = false)
    (hturn : s.skipsTurn "status" ((inner ev).getStrD "state") (frameTurnId (inner ev)) = false) :
    s.onFrame earlyDrop ev = (s.adoptLoopId (inner ev)).onStatus ((inner ev).getStrD "state")
      (frameTurnId (inner ev)) := by
  unfold TurnLoop.onFrame
  simp only
  rw [if_neg (by rw [hloop]; decide), htype, if_pos rfl, if_neg (by rw [hturn]; decide),
    if_neg (by decide), if_pos rfl]

/-- An event that is not skipped goes to its handler. -/
theorem onFrame_event (htype : (inner ev).getStrD "type" = "event")
    (hloop : s.skipsLoop ((inner ev).getStrD "loop_id") = false)
    (hturn : s.skipsTurn "event" "" (frameTurnId (inner ev)) = false) :
    s.onFrame earlyDrop ev = s.onEvent earlyDrop (inner ev) (frameTurnId (inner ev)) := by
  unfold TurnLoop.onFrame
  simp only
  rw [if_neg (by rw [hloop]; decide), htype, if_neg (by decide : ¬ "event" = "status"),
    if_neg (by rw [hturn]; decide), if_neg (by decide), if_neg (by decide), if_neg (by decide),
    if_neg (by decide)]

theorem skipsTurn_running {eventType : String} : s.skipsTurn eventType "running" t = false := by
  unfold TurnLoop.skipsTurn
  cases s.expectedTurnId with
  | none => rfl
  | some e => exact if_neg fun h => h.2 rfl

theorem skipsTurn_status (hst : state ≠ "running") : s.skipsTurn "status" state t =
    (s.expectedTurnId.isSome && !turnIdsMatch s.expectedTurnId t &&
      (t.isSome || !(state == "idle" || state == "stopped"))) := by
  unfold TurnLoop.skipsTurn
  cases s.expectedTurnId with
  | none => rfl
  | some e =>
    simp only
    rw [if_pos ⟨Or.inr trivial, hst⟩]
    by_cases hterm : state = "idle" ∨ state = "stopped"
    · rw [if_pos hterm]
      have : (state == "idle" || state == "stopped") = true := by simpa using hterm
      rw [this]
      cases t <;> simp
    · rw [if_neg hterm]
      have : (state == "idle" || state == "stopped") = false := by simpa using hterm
      rw [this]
      simp

theorem skipsTurn_event : s.skipsTurn "event" "" t =
    (s.expectedTurnId.isSome && !turnIdsMatch s.expectedTurnId t) := by
  unfold TurnLoop.skipsTurn
  cases s.expectedTurnId with
  | none => rfl
  | some e =>
    simp only
    rw [if_pos ⟨Or.inl trivial, by decide⟩, if_neg (by decide)]
    simp

/-- The locals after a chunk, statistics aside. -/
theorem observeChunk_eq (ns : List Json) (chunk : TurnChunk) : ∃ st,
    s.observeChunk ns chunk = { s with
      turnProgressSeen := s.turnProgressSeen || isTurnProgressChunk chunk.mode chunk.data
      stats := st
      out := s.out ++ [chunk] } := by
  unfold TurnLoop.observeChunk
  by_cases h : isTurnProgressChunk chunk.mode chunk.data = true
  · rw [if_pos h, h, Bool.or_true]
    exact ⟨_, rfl⟩
  · rw [if_neg h, Bool.eq_false_iff.2 h, Bool.or_false]
    exact ⟨_, rfl⟩

/-- The chunk is a terminal custom event. -/
def TurnChunk.turnEnd (chunk : TurnChunk) : Bool :=
  chunk.mode = "custom" && isTurnEndCustomData chunk.data

/-- The early filter drops the chunk. -/
def TurnChunk.dropped (earlyDrop : List Json → String → Json → Bool) (chunk : TurnChunk) : Bool :=
  earlyDrop chunk.nsSlice chunk.mode chunk.data

/-- The locals after an event whose chunk is kept, statistics aside. -/
def TurnLoop.observed (s : TurnLoop) (chunk : TurnChunk) (st : TurnEventStats) : TurnLoop :=
  { s with
    turnProgressSeen := s.turnProgressSeen || isTurnProgressChunk chunk.mode chunk.data
    stats := st
    out := s.out ++ [chunk] }

/-- An event, by its chunk. -/
theorem onEvent_eq (earlyDrop : List Json → String → Json → Bool) (s : TurnLoop) (frame : Json)
    (t : Option String) : s.onEvent earlyDrop frame t =
      if (chunkOf frame).dropped earlyDrop then
        .next { s with stats := { s.stats.count (chunkOf frame).mode with
          filteredEarly := (s.stats.count (chunkOf frame).mode).filteredEarly + 1 } }
      else if (chunkOf frame).turnEnd && !isTurnTerminalAllowed s.expectedTurnId
          ((frameTurnId (chunkOf frame).data).or t) s.queryStarted s.turnProgressSeen then
        .next { s with stats := { s.stats.count (chunkOf frame).mode with
          skipped := (s.stats.count (chunkOf frame).mode).skipped + 1 } }
      else if (chunkOf frame).turnEnd then
        .stop (.ended (TurnLoop.endState (chunkOf frame).data),
          ({ s with stats := s.stats.count (chunkOf frame).mode } : TurnLoop).observeChunk
            (chunkOf frame).nsSlice (chunkOf frame))
      else .next (({ s with stats := s.stats.count (chunkOf frame).mode } : TurnLoop).observeChunk
        (chunkOf frame).nsSlice (chunkOf frame)) := rfl

/-- An event is passed over, kept, or ends the turn. -/
theorem onEvent_cases (earlyDrop : List Json → String → Json → Bool) (s : TurnLoop)
    (frame : Json) (t : Option String) : ∃ st,
    (((chunkOf frame).dropped earlyDrop = true ∨ (chunkOf frame).turnEnd = true ∧
        isTurnTerminalAllowed s.expectedTurnId ((frameTurnId (chunkOf frame).data).or t)
          s.queryStarted s.turnProgressSeen = false) ∧
      s.onEvent earlyDrop frame t = .next { s with stats := st }) ∨
    ((chunkOf frame).dropped earlyDrop = false ∧ (chunkOf frame).turnEnd = false ∧
      s.onEvent earlyDrop frame t = .next (s.observed (chunkOf frame) st)) ∨
    ((chunkOf frame).dropped earlyDrop = false ∧ (chunkOf frame).turnEnd = true ∧
      isTurnTerminalAllowed s.expectedTurnId ((frameTurnId (chunkOf frame).data).or t)
        s.queryStarted s.turnProgressSeen = true ∧
      s.onEvent earlyDrop frame t =
        .stop (.ended (TurnLoop.endState (chunkOf frame).data), s.observed (chunkOf frame) st)) := by
  obtain ⟨st, hst⟩ := observeChunk_eq
    (s := { s with stats := s.stats.count (chunkOf frame).mode }) (chunkOf frame).nsSlice
      (chunkOf frame)
  have hobs : ({ s with stats := s.stats.count (chunkOf frame).mode } : TurnLoop).observeChunk
      (chunkOf frame).nsSlice (chunkOf frame) = s.observed (chunkOf frame) st := hst
  rw [onEvent_eq, hobs]
  by_cases hdrop : (chunkOf frame).dropped earlyDrop = true
  · rw [if_pos hdrop]
    exact ⟨_, Or.inl ⟨Or.inl hdrop, rfl⟩⟩
  rw [if_neg hdrop]
  have hdrop' := Bool.eq_false_iff.2 hdrop
  cases hend : (chunkOf frame).turnEnd with
  | false => exact ⟨st, Or.inr (Or.inl ⟨hdrop', rfl, rfl⟩)⟩
  | true =>
    cases hall : isTurnTerminalAllowed s.expectedTurnId
        ((frameTurnId (chunkOf frame).data).or t) s.queryStarted s.turnProgressSeen with
    | false => exact ⟨_, Or.inl ⟨Or.inr ⟨rfl, rfl⟩, rfl⟩⟩
    | true => exact ⟨st, Or.inr (Or.inr ⟨hdrop', rfl, rfl, rfl⟩)⟩

/-- A status ends the turn with the locals it finds, or goes on, observing a running one. -/
theorem onStatus_cases (s : TurnLoop) (state : String) (t : Option String) :
    (state = "running" ∧ s.onStatus state t = .next (s.observeRunning t)) ∨
    (state ≠ "running" ∧ s.onStatus state t = .next s) ∨
    (state = "stopped" ∧ s.queryStarted = true ∧
      (s.expectedTurnId.isSome && !turnIdsMatch s.expectedTurnId t) = false ∧
      s.onStatus state t = .stop (.ended state, s)) ∨
    (state = "idle" ∧ s.queryStarted = true ∧
      isIdleTerminalAllowed s.expectedTurnId t s.queryStarted s.turnProgressSeen s.cancelSeen = true ∧
      s.onStatus state t = .stop (.ended state, s)) := by
  unfold TurnLoop.onStatus
  by_cases hrun : state = "running"
  · exact Or.inl ⟨hrun, if_pos hrun⟩
  rw [if_neg hrun]
  by_cases hstop : state = "stopped" ∧ s.queryStarted = true
  · rw [if_pos hstop]
    by_cases hm : (s.expectedTurnId.isSome && !turnIdsMatch s.expectedTurnId t) = true
    · exact Or.inr (Or.inl ⟨hrun, if_pos hm⟩)
    · exact Or.inr (Or.inr (Or.inl ⟨hstop.1, hstop.2, Bool.eq_false_iff.2 hm, if_neg hm⟩))
  rw [if_neg hstop]
  by_cases hidle : state = "idle" ∧ s.queryStarted = true
  · rw [if_pos hidle]
    by_cases hm : isIdleTerminalAllowed s.expectedTurnId t s.queryStarted s.turnProgressSeen
        s.cancelSeen = true
    · refine Or.inr (Or.inr (Or.inr ⟨hidle.1, hidle.2, hm, if_neg ?_⟩))
      rw [hm]
      decide
    · refine Or.inr (Or.inl ⟨hrun, if_pos ?_⟩)
      rw [Bool.eq_false_iff.2 hm]
      rfl
  · exact Or.inr (Or.inl ⟨hrun, if_neg hidle⟩)

theorem onStatus_stopped : s.onStatus "stopped" t =
    if s.queryStarted then
      if s.expectedTurnId.isSome && !turnIdsMatch s.expectedTurnId t then .next s
      else .stop (.ended "stopped", s)
    else .next s := by
  unfold TurnLoop.onStatus
  rw [if_neg (by decide)]
  by_cases hq : s.queryStarted = true
  · rw [if_pos ⟨rfl, hq⟩, if_pos hq]
  · rw [if_neg fun hc => hq hc.2, if_neg fun hc => hq hc.2, if_neg hq]

theorem onStatus_idle : s.onStatus "idle" t =
    if s.queryStarted then
      if isIdleTerminalAllowed s.expectedTurnId t s.queryStarted s.turnProgressSeen s.cancelSeen then
        .stop (.ended "idle", s)
      else .next s
    else .next s := by
  unfold TurnLoop.onStatus
  rw [if_neg (by decide), if_neg fun hc => absurd hc.1 (by decide)]
  by_cases hq : s.queryStarted = true
  · rw [if_pos ⟨rfl, hq⟩, if_pos hq]
    cases isIdleTerminalAllowed s.expectedTurnId t s.queryStarted s.turnProgressSeen
      s.cancelSeen <;> rfl
  · rw [if_neg fun hc => hq hc.2, if_neg hq]

/-- A status frame changes the loop id only. -/
theorem adoptLoopId_with (s : TurnLoop) (frame : Json) :
    ∃ l, s.adoptLoopId frame = { s with expectedLoopId := l } := by
  unfold TurnLoop.adoptLoopId
  cases frame.getStr "loop_id" with
  | none => exact ⟨s.expectedLoopId, rfl⟩
  | some lid =>
    by_cases h : lid ≠ ""
    · exact ⟨lid, if_pos h⟩
    · exact ⟨s.expectedLoopId, if_neg h⟩

/-- A cancel response changes the cancel flag only. -/
theorem onCommandResponse_with (s : TurnLoop) (frame : Json) :
    ∃ c, s.onCommandResponse frame = { s with cancelSeen := c } := by
  unfold TurnLoop.onCommandResponse
  by_cases h : Text.contains (frame.getStrD "content") "Cancellation requested" = true
  · exact ⟨true, if_pos h⟩
  · exact ⟨s.cancelSeen, if_neg h⟩

/-- A running status changes the binding, the progress flag and the start flag only. -/
theorem observeRunning_with (s : TurnLoop) (t : Option String) : ∃ e p, s.observeRunning t =
    { s with queryStarted := true, expectedTurnId := e, turnProgressSeen := p } := by
  unfold TurnLoop.observeRunning
  cases t with
  | none => exact ⟨s.expectedTurnId, s.turnProgressSeen, rfl⟩
  | some u =>
    by_cases h : ({ s with queryStarted := true } : TurnLoop).rebinds u = true
    · exact ⟨_, _, if_pos h⟩
    · exact ⟨s.expectedTurnId, s.turnProgressSeen, if_neg h⟩

theorem observeRunning_queryStarted : (s.observeRunning t).queryStarted = true := by
  unfold TurnLoop.observeRunning
  cases t with
  | none => rfl
  | some u =>
    simp only
    split_ifs <;> rfl

theorem observeRunning_expectedTurnId :
    (s.observeRunning t).expectedTurnId = s.expectedTurnId ∨
      (s.observeRunning t).expectedTurnId = t := by
  unfold TurnLoop.observeRunning
  cases t with
  | none => exact Or.inl rfl
  | some u =>
    simp only
    split_ifs
    · exact Or.inr rfl
    · exact Or.inr rfl
    · exact Or.inl rfl

/-- **Going on.** After a frame that does not end the turn the loop id, the cancel flag and the
statistics may be new; or a running status was observed; or the chunk of an event of the turn. -/
theorem onFrame_next (h : s.onFrame earlyDrop ev = .next s') :
    (∃ l c st, s' = { s with expectedLoopId := l, cancelSeen := c, stats := st }) ∨
    ((inner ev).getStrD "type" = "status" ∧ (inner ev).getStrD "state" = "running" ∧
      s.skipsLoop ((inner ev).getStrD "loop_id") = false ∧
      ∃ l, s' = ({ s with expectedLoopId := l } : TurnLoop).observeRunning (frameTurnId (inner ev))) ∨
    ((inner ev).getStrD "type" = "event" ∧
      s.skipsLoop ((inner ev).getStrD "loop_id") = false ∧
      s.skipsTurn "event" "" (frameTurnId (inner ev)) = false ∧
      (chunkOf (inner ev)).dropped earlyDrop = false ∧ (chunkOf (inner ev)).turnEnd = false ∧
      ∃ st, s' = s.observed (chunkOf (inner ev)) st) := by
  rcases onFrame_cases earlyDrop s ev with
    hf | ⟨-, hf⟩ | ⟨htype, hloop, -, hf⟩ | ⟨-, hf⟩ | ⟨htype, hloop, hturn, hf⟩
  · obtain rfl := Scan.Step.next.inj (hf.symm.trans h)
    exact Or.inl ⟨_, _, _, rfl⟩
  · cases hf.symm.trans h
  · obtain ⟨l, hl⟩ := adoptLoopId_with s (inner ev)
    rw [hl] at hf
    rcases onStatus_cases { s with expectedLoopId := l } ((inner ev).getStrD "state")
        (frameTurnId (inner ev)) with
      ⟨hrun, hs⟩ | ⟨-, hs⟩ | ⟨-, -, -, hs⟩ | ⟨-, -, -, hs⟩
    · obtain rfl := Scan.Step.next.inj ((hf.trans hs).symm.trans h)
      exact Or.inr (Or.inl ⟨htype, hrun, hloop, l, rfl⟩)
    · obtain rfl := Scan.Step.next.inj ((hf.trans hs).symm.trans h)
      exact Or.inl ⟨l, _, _, rfl⟩
    all_goals cases (hf.trans hs).symm.trans h
  · obtain ⟨c, hc⟩ := onCommandResponse_with s (inner ev)
    rw [hc] at hf
    obtain rfl := Scan.Step.next.inj (hf.symm.trans h)
    exact Or.inl ⟨_, c, _, rfl⟩
  · obtain ⟨st, ⟨-, hs⟩ | ⟨hdrop, hend, hs⟩ | ⟨-, -, -, hs⟩⟩ := onEvent_cases
      earlyDrop s (inner ev) (frameTurnId (inner ev))
    · obtain rfl := Scan.Step.next.inj ((hf.trans hs).symm.trans h)
      exact Or.inl ⟨_, _, st, rfl⟩
    · obtain rfl := Scan.Step.next.inj ((hf.trans hs).symm.trans h)
      exact Or.inr (Or.inr ⟨htype, hloop, hturn, hdrop, hend, st, rfl⟩)
    · cases (hf.trans hs).symm.trans h

/-- **Stopping.** A frame ends the turn as an error, as a status that the gates allow, or as a
terminal event that they allow. -/
theorem onFrame_stop {e : Exit} (h : s.onFrame earlyDrop ev = .stop (e, s')) :
    (e = .failed (errorMessage (inner ev)) ∧ s' = s) ∨
    ((inner ev).getStrD "type" = "status" ∧ (∃ l, s' = { s with expectedLoopId := l }) ∧
      e = .ended ((inner ev).getStrD "state") ∧ s.queryStarted = true ∧
      ((inner ev).getStrD "state" = "stopped" ∨ (inner ev).getStrD "state" = "idle" ∧
        isIdleTerminalAllowed s.expectedTurnId (frameTurnId (inner ev)) s.queryStarted
          s.turnProgressSeen s.cancelSeen = true)) ∨
    ((inner ev).getStrD "type" = "event" ∧
      s.skipsTurn "event" "" (frameTurnId (inner ev)) = false ∧
      e = .ended (TurnLoop.endState (chunkOf (inner ev)).data) ∧
      (chunkOf (inner ev)).dropped earlyDrop = false ∧ (chunkOf (inner ev)).turnEnd = true ∧
      isTurnTerminalAllowed s.expectedTurnId
        ((frameTurnId (chunkOf (inner ev)).data).or (frameTurnId (inner ev))) s.queryStarted
        s.turnProgressSeen = true ∧
      ∃ st, s' = s.observed (chunkOf (inner ev)) st) := by
  rcases onFrame_cases earlyDrop s ev with
    hf | ⟨-, hf⟩ | ⟨htype, -, -, hf⟩ | ⟨-, hf⟩ | ⟨htype, -, hturn, hf⟩
  · cases hf.symm.trans h
  · obtain ⟨rfl, rfl⟩ := Prod.mk.inj (Scan.Step.stop.inj (hf.symm.trans h))
    exact Or.inl ⟨rfl, rfl⟩
  · obtain ⟨l, hl⟩ := adoptLoopId_with s (inner ev)
    rw [hl] at hf
    rcases onStatus_cases { s with expectedLoopId := l } ((inner ev).getStrD "state")
        (frameTurnId (inner ev)) with
      ⟨-, hs⟩ | ⟨-, hs⟩ | ⟨hstop, hq, -, hs⟩ | ⟨hidle, hq, hall, hs⟩
    · cases (hf.trans hs).symm.trans h
    · cases (hf.trans hs).symm.trans h
    · obtain ⟨rfl, rfl⟩ := Prod.mk.inj (Scan.Step.stop.inj ((hf.trans hs).symm.trans h))
      exact Or.inr (Or.inl ⟨htype, ⟨l, rfl⟩, rfl, hq, Or.inl hstop⟩)
    · obtain ⟨rfl, rfl⟩ := Prod.mk.inj (Scan.Step.stop.inj ((hf.trans hs).symm.trans h))
      exact Or.inr (Or.inl ⟨htype, ⟨l, rfl⟩, rfl, hq, Or.inr ⟨hidle, hall⟩⟩)
  · cases hf.symm.trans h
  · obtain ⟨st, ⟨-, hs⟩ | ⟨-, -, hs⟩ | ⟨hdrop, hend, hall, hs⟩⟩ := onEvent_cases
      earlyDrop s (inner ev) (frameTurnId (inner ev))
    · cases (hf.trans hs).symm.trans h
    · cases (hf.trans hs).symm.trans h
    · obtain ⟨rfl, rfl⟩ := Prod.mk.inj (Scan.Step.stop.inj ((hf.trans hs).symm.trans h))
      exact Or.inr (Or.inr ⟨htype, hturn, rfl, hdrop, hend, hall, st, rfl⟩)

theorem mainStep_next (h : s.onFrame earlyDrop ev = .next s') :
    mainStep earlyDrop maxWait s (.frame ev) = .next s' := by
  simp only [mainStep, h]

theorem mainStep_stop {e : Exit} (h : s.onFrame earlyDrop ev = .stop (e, s')) :
    mainStep earlyDrop maxWait s (.frame ev) = .stop (.exit e, s') := by
  simp only [mainStep, h]

theorem onFrame_of_mainStep_next (h : mainStep earlyDrop maxWait s (.frame ev) = .next s') :
    s.onFrame earlyDrop ev = .next s' := by
  cases hf : s.onFrame earlyDrop ev with
  | next s'' => rw [Scan.Step.next.inj ((mainStep_next hf).symm.trans h)]
  | stop p => cases (mainStep_stop hf).symm.trans h

theorem onFrame_of_mainStep_stop {leave : Leave}
    (h : mainStep earlyDrop maxWait s (.frame ev) = .stop (leave, s')) :
    ∃ e, leave = .exit e ∧ s.onFrame earlyDrop ev = .stop (e, s') := by
  cases hf : s.onFrame earlyDrop ev with
  | next s'' => cases (mainStep_next hf).symm.trans h
  | stop p =>
    obtain ⟨rfl, rfl⟩ := Prod.mk.inj (Scan.Step.stop.inj ((mainStep_stop hf).symm.trans h))
    exact ⟨p.1, rfl, rfl⟩

/-- Without a frame the main loop goes on as it was. -/
theorem mainStep_idle {t : Tick} (ht : ∀ ev, t ≠ .frame ev)
    (h : mainStep earlyDrop maxWait s t = .next s') : s' = s := by
  cases t with
  | frame ev => exact absurd rfl (ht ev)
  | deadline =>
    cases maxWait with
    | none => exact (Scan.Step.next.inj h).symm
    | some wait => cases h
  | silence alive =>
    simp only [mainStep] at h
    split_ifs at h
    exact (Scan.Step.next.inj h).symm

/-- A main loop that goes on has read a frame that did not end the turn, or nothing. -/
theorem mainStep_next_cases {t : Tick} (h : mainStep earlyDrop maxWait s t = .next s') :
    s' = s ∨ ∃ ev, t = .frame ev ∧ s.onFrame earlyDrop ev = .next s' := by
  by_cases ht : ∀ ev, t ≠ .frame ev
  · exact Or.inl (mainStep_idle ht h)
  · push Not at ht
    obtain ⟨ev, rfl⟩ := ht
    exact Or.inr ⟨ev, rfl, onFrame_of_mainStep_next h⟩

/-- A bound id stays one that the wire can carry. -/
theorem mainStep_trimmed {t : Tick} (hs : Trimmed s.expectedTurnId)
    (h : mainStep earlyDrop maxWait s t = .next s') : Trimmed s'.expectedTurnId := by
  obtain rfl | ⟨ev, -, hf⟩ := mainStep_next_cases h
  · exact hs
  obtain ⟨l, c, st, rfl⟩ | ⟨-, -, -, l, rfl⟩ | ⟨-, -, -, -, -, st, rfl⟩ := onFrame_next hf
  · exact hs
  · rcases observeRunning_expectedTurnId (s := { s with expectedLoopId := l })
      (t := frameTurnId (inner ev)) with he | he
    · rw [he]
      exact hs
    · rw [he]
      exact trimmed_frameTurnId _
  · exact hs

/-- A started query stays started. -/
theorem mainStep_started {t : Tick} (hs : s.queryStarted = true)
    (h : mainStep earlyDrop maxWait s t = .next s') : s'.queryStarted = true := by
  obtain rfl | ⟨ev, -, hf⟩ := mainStep_next_cases h
  · exact hs
  obtain ⟨l, c, st, rfl⟩ | ⟨-, -, -, l, rfl⟩ | ⟨-, -, -, -, -, st, rfl⟩ := onFrame_next hf
  · exact hs
  · exact observeRunning_queryStarted
  · exact hs

/-! ## The drain -/

/-- The frame is of another loop than the non-empty `loopId`. -/
def otherLoop (loopId : String) (frame : Json) : Prop :=
  loopId ≠ "" ∧ frame.getStrD "loop_id" ≠ "" ∧ frame.getStrD "loop_id" ≠ loopId

instance (loopId : String) (frame : Json) : Decidable (otherLoop loopId frame) :=
  inferInstanceAs (Decidable (_ ∧ _))

/-- The drain appends the chunk of the frame. -/
def Drained (earlyDrop : List Json → String → Json → Bool) (loopId : String) (frame : Json) :
    Prop :=
  ¬ otherLoop loopId frame ∧ frame.getStrD "type" = "event" ∧
    (chunkOf frame).dropped earlyDrop = false

/-- The drain appends a chunk, stops on an error, or leaves the output alone. -/
theorem drain_onFrame_cases (earlyDrop : List Json → String → Json → Bool) (L : String)
    (d : Drain) (ev : Json) :
    (Drained earlyDrop L (inner ev) ∧
      ∃ st, d.onFrame earlyDrop L ev =
        .next { d with out := d.out ++ [chunkOf (inner ev)], stats := st }) ∨
    (¬ Drained earlyDrop L (inner ev) ∧ ((inner ev).getStrD "type" = "error" ∧
      d.onFrame earlyDrop L ev = .stop d ∨
        ∃ l st, d.onFrame earlyDrop L ev = .next { d with loopId := l, stats := st })) := by
  have heq : d.onFrame earlyDrop L ev =
      if otherLoop L (inner ev) then .next d
      else if (inner ev).getStrD "type" = "error" then .stop d
      else if (inner ev).getStrD "type" = "status" then .next (d.adoptLoopId (inner ev))
      else if (inner ev).getStrD "type" ≠ "event" then .next d
      else .next (d.onEvent earlyDrop (inner ev)) := rfl
  rw [heq]
  by_cases hloop : otherLoop L (inner ev)
  · exact Or.inr ⟨fun h => h.1 hloop, Or.inr ⟨d.loopId, d.stats, if_pos hloop⟩⟩
  rw [if_neg hloop]
  by_cases herr : (inner ev).getStrD "type" = "error"
  · refine Or.inr ⟨fun h => ?_, Or.inl ⟨herr, if_pos herr⟩⟩
    exact absurd (herr.symm.trans h.2.1) (by decide)
  rw [if_neg herr]
  by_cases hst : (inner ev).getStrD "type" = "status"
  · rw [if_pos hst]
    refine Or.inr ⟨fun h => ?_, Or.inr ?_⟩
    · exact absurd (hst.symm.trans h.2.1) (by decide)
    · unfold Drain.adoptLoopId
      cases (inner ev).getStr "loop_id" with
      | none => exact ⟨d.loopId, d.stats, rfl⟩
      | some lid =>
        by_cases h : lid ≠ ""
        · exact ⟨lid, d.stats, congrArg Scan.Step.next (if_pos h)⟩
        · exact ⟨d.loopId, d.stats, congrArg Scan.Step.next (if_neg h)⟩
  rw [if_neg hst]
  by_cases hev : (inner ev).getStrD "type" = "event"
  · rw [if_neg fun h => h hev]
    unfold Drain.onEvent
    simp only
    cases hdrop : (chunkOf (inner ev)).dropped earlyDrop with
    | true =>
      refine Or.inr ⟨fun h => ?_, Or.inr ⟨d.loopId, _, congrArg Scan.Step.next (if_pos hdrop)⟩⟩
      exact absurd (hdrop.symm.trans h.2.2) (by decide)
    | false =>
      refine Or.inl ⟨⟨hloop, hev, hdrop⟩, _, congrArg Scan.Step.next (if_neg ?_)⟩
      rw [show earlyDrop (chunkOf (inner ev)).nsSlice (chunkOf (inner ev)).mode
        (chunkOf (inner ev)).data = false from hdrop]
      decide
  · rw [if_pos hev]
    exact Or.inr ⟨fun h => hev h.2.1, Or.inr ⟨d.loopId, d.stats, rfl⟩⟩

end SootheClient.Session
