import SootheClient.Session.Steps
import SootheClient.Turn.Terminals

/-!
# The session and the pool in lockstep

The turn loop of a session and the turn boundary of a pooled connection read the same frames.
`TurnLoop.gate` is the gate that the locals of the loop amount to. A frame is `Aligned` in a gate
when both readers treat it alike there; `step_aligned` is the step of the simulation.
-/

namespace SootheClient.Session

open SootheClient.Frame Turn

/-- The gate that the locals amount to. -/
def TurnLoop.gate (s : TurnLoop) : TurnLifecycleGate where
  sawRunning := s.queryStarted
  sawTurnProgress := s.turnProgressSeen
  expectedTurnId := s.expectedTurnId
  cancellationSeen := s.cancelSeen

/-- `feed_boundary` as a reader: it stops with the reason it returns. -/
def poolStep (b : TurnBoundary) (ev : Json) : Scan.Step TurnBoundary String :=
  match feedBoundary b ev with
  | (b, none) => .next b
  | (_, some reason) => .stop reason

/-- The main loop as a reader, with the default filter. -/
def sessionStep (s : TurnLoop) (ev : Json) : Step := s.onFrame shouldDropStreamChunkEarly ev

/-- The reason of a boundary for an end state of the session. -/
def Exit.reason : Exit → Option String
  | .ended state =>
    if state = "stream_end" ∨ state = "completed" then some TURN_END_STREAM_END
    else if state = "idle" then some TURN_END_IDLE
    else if state = "stopped" then some TURN_END_STOPPED
    else none
  | .failed _ => none

/-- The end state corresponds to the reason. -/
def Corresponds (reason : String) (exit : Exit × TurnLoop) : Prop :=
  exit.1.reason = some reason

/-- A frame of the loop that reports no error. -/
structure OfLoop (loopId : String) (ev : Json) : Prop where
  loop : (inner ev).getStrD "loop_id" = "" ∨ (inner ev).getStrD "loop_id" = loopId
  noError : (inner ev).getStrD "type" ≠ "error"

/-! ## Aligned frames -/

/-- A status that only a reader without regard to case takes for `word`. -/
def Miscased (state word : String) : Prop :=
  Text.eqIgnoreAsciiCase state word = true ∧ state ≠ word

/-- A mis-cased status changes nothing. -/
structure AlignedStatus (g : TurnLifecycleGate) (state : String) (turnId : Option String) :
    Prop where
  running : Miscased state "running" → g.sawRunning = true ∧
    ∀ t, turnId = some t → g.rebinds t = true → g.expectedTurnId = some t
  stopped : Miscased state "stopped" → g.sawRunning = true →
    ∃ e, g.expectedTurnId = some e ∧ turnId ≠ some e
  idle : Miscased state "idle" → g.allowIdleComplete turnId = false

/-- The first progress chunk passes the filter and carries the bound id; a terminal that the gate
allows carries the bound id in the frame too. -/
structure AlignedEvent (g : TurnLifecycleGate) (ns : List Json) (mode : String) (data : Json)
    (frameTurn : Option String) : Prop where
  progress : isTurnProgressChunk mode data = true → g.sawTurnProgress = false →
    shouldDropStreamChunkEarly ns mode data = false ∧
      (g.expectedTurnId = none ∨ frameTurn = g.expectedTurnId)
  turnEnd : mode = "custom" → isTurnEndCustomData data = true →
    g.allowStreamEnd ((frameTurnId data).or frameTurn) = true → frameTurn = g.expectedTurnId

/-- The namespace path of a frame. -/
def namespaceOf (frame : Json) : List Json :=
  (((frame.get "namespace").getD (.arr [])).asArray?).getD []

/-- Both readers treat the message alike in the gate. -/
structure Aligned (g : TurnLifecycleGate) (ev : Json) : Prop where
  status : (inner ev).getStrD "type" = "status" →
    AlignedStatus g ((inner ev).getStrD "state") (frameTurnId (inner ev))
  event : (inner ev).getStrD "type" = "event" →
    AlignedEvent g (namespaceOf (inner ev)) ((inner ev).getStrD "mode")
      (((inner ev).get "data").getD .null) (frameTurnId (inner ev))
  cancel : (inner ev).getStrD "type" = "command_response" →
    Text.contains ((inner ev).getStrD "content") "Cancellation requested" = false

instance (state word : String) : Decidable (Miscased state word) :=
  inferInstanceAs (Decidable (_ ∧ _))

instance (g : TurnLifecycleGate) (state : String) (turnId : Option String) :
    Decidable (AlignedStatus g state turnId) :=
  decidable_of_iff
    ((Miscased state "running" → g.sawRunning = true ∧
      ∀ t ∈ turnId, g.rebinds t = true → g.expectedTurnId = some t) ∧
      (Miscased state "stopped" → g.sawRunning = true →
        ∃ e ∈ g.expectedTurnId, turnId ≠ some e) ∧
      (Miscased state "idle" → g.allowIdleComplete turnId = false))
    ⟨fun h => ⟨h.1, h.2.1, h.2.2⟩, fun h => ⟨h.running, h.stopped, h.idle⟩⟩

instance (g : TurnLifecycleGate) (ns : List Json) (mode : String) (data : Json)
    (frameTurn : Option String) : Decidable (AlignedEvent g ns mode data frameTurn) :=
  decidable_of_iff
    ((isTurnProgressChunk mode data = true → g.sawTurnProgress = false →
      shouldDropStreamChunkEarly ns mode data = false ∧
        (g.expectedTurnId = none ∨ frameTurn = g.expectedTurnId)) ∧
      (mode = "custom" → isTurnEndCustomData data = true →
        g.allowStreamEnd ((frameTurnId data).or frameTurn) = true →
          frameTurn = g.expectedTurnId))
    ⟨fun h => ⟨h.1, h.2⟩, fun h => ⟨h.progress, h.turnEnd⟩⟩

instance (g : TurnLifecycleGate) (ev : Json) : Decidable (Aligned g ev) :=
  decidable_of_iff
    (((inner ev).getStrD "type" = "status" →
      AlignedStatus g ((inner ev).getStrD "state") (frameTurnId (inner ev))) ∧
      ((inner ev).getStrD "type" = "event" →
        AlignedEvent g (namespaceOf (inner ev)) ((inner ev).getStrD "mode")
          (((inner ev).get "data").getD .null) (frameTurnId (inner ev))) ∧
      ((inner ev).getStrD "type" = "command_response" →
        Text.contains ((inner ev).getStrD "content") "Cancellation requested" = false))
    ⟨fun h => ⟨h.1, h.2.1, h.2.2⟩, fun h => ⟨h.status, h.event, h.cancel⟩⟩

instance (loopId : String) (ev : Json) : Decidable (OfLoop loopId ev) :=
  decidable_of_iff
    (((inner ev).getStrD "loop_id" = "" ∨ (inner ev).getStrD "loop_id" = loopId) ∧
      (inner ev).getStrD "type" ≠ "error")
    ⟨fun h => ⟨h.1, h.2⟩, fun h => ⟨h.loop, h.noError⟩⟩

/-- The two readers are in corresponding states. -/
structure Synced (loopId : String) (b : TurnBoundary) (s : TurnLoop) : Prop where
  ended : b.ended = false
  gate : s.gate = b.gate
  cancel : s.cancelSeen = false
  trimmed : Frame.Trimmed s.expectedTurnId
  bound : ∀ e, s.expectedTurnId = some e → s.queryStarted = true
  loop : s.expectedLoopId = "" ∨ s.expectedLoopId = loopId

variable {L : String} {b : TurnBoundary} {s : TurnLoop} {ev frame : Json} {c : Call} {r : String}
  {g : TurnLifecycleGate} {state mode : String} {t : Option String} {data : Json}

theorem Synced.expectedTurnId (h : Synced L b s) : s.expectedTurnId = b.gate.expectedTurnId :=
  congrArg TurnLifecycleGate.expectedTurnId h.gate

theorem Synced.queryStarted (h : Synced L b s) : s.queryStarted = b.gate.sawRunning :=
  congrArg TurnLifecycleGate.sawRunning h.gate

theorem Synced.turnProgressSeen (h : Synced L b s) :
    s.turnProgressSeen = b.gate.sawTurnProgress :=
  congrArg TurnLifecycleGate.sawTurnProgress h.gate

theorem Synced.cancellationSeen (h : Synced L b s) : b.gate.cancellationSeen = false :=
  (congrArg TurnLifecycleGate.cancellationSeen h.gate.symm).trans h.cancel

theorem Synced.trimmed_gate (h : Synced L b s) : Frame.Trimmed b.gate.expectedTurnId :=
  h.expectedTurnId ▸ h.trimmed

/-! ## One step of the pool -/

theorem poolStep_of_no_call (h : callOf ev = none) : poolStep b ev = .next b := by
  unfold poolStep
  rw [feedBoundary_eq, h]
  rfl

theorem poolStep_next (hb : b.ended = false) (h : callOf ev = some c)
    (hv : verdict (b.gate.observe c) c = none) :
    poolStep b ev = .next { b with gate := b.gate.observe c } := by
  unfold poolStep
  rw [feedBoundary_next hb h hv]

theorem poolStep_stop (hb : b.ended = false) (h : callOf ev = some c)
    (hv : verdict (b.gate.observe c) c = some r) : poolStep b ev = .stop r := by
  unfold poolStep
  rw [feedBoundary_eq, h]
  show (match b.feed c with | (b, none) => _ | (_, some reason) => _) = _
  rw [feed_eq hb, hv]

/-! ## One step of the session -/

theorem not_skipsLoop (hl : s.expectedLoopId = "" ∨ s.expectedLoopId = L) (hev : OfLoop L ev) :
    s.skipsLoop ((inner ev).getStrD "loop_id") = false := by
  unfold TurnLoop.skipsLoop
  rcases hl with hl | hl <;> rcases hev.loop with h | h <;> simp [hl, h]

/-- The loop id is adopted, nothing else changes. -/
theorem adoptLoopId_eq (hl : s.expectedLoopId = "" ∨ s.expectedLoopId = L) (hev : OfLoop L ev) :
    ∃ l, s.adoptLoopId (inner ev) = { s with expectedLoopId := l } ∧ (l = "" ∨ l = L) := by
  unfold TurnLoop.adoptLoopId
  cases h : (inner ev).getStr "loop_id" with
  | none => exact ⟨s.expectedLoopId, rfl, hl⟩
  | some lid =>
    have hlid : (inner ev).getStrD "loop_id" = lid := by
      unfold Json.getStrD
      rw [h]
      rfl
    by_cases hne : lid ≠ ""
    · exact ⟨lid, if_pos hne, hlid ▸ hev.loop⟩
    · exact ⟨s.expectedLoopId, if_neg hne, hl⟩

theorem sessionStep_of_skips (hl : s.expectedLoopId = "" ∨ s.expectedLoopId = L)
    (hev : OfLoop L ev) (hs : s.skipsTurn ((inner ev).getStrD "type")
      (if (inner ev).getStrD "type" = "status" then (inner ev).getStrD "state" else "")
      (frameTurnId (inner ev)) = true) :
    sessionStep s ev = .next s := by
  unfold sessionStep TurnLoop.onFrame
  simp only
  rw [if_neg (by rw [not_skipsLoop hl hev]; decide), if_pos hs]

theorem sessionStep_status (hl : s.expectedLoopId = "" ∨ s.expectedLoopId = L)
    (hev : OfLoop L ev) (ht : (inner ev).getStrD "type" = "status")
    (hs : s.skipsTurn "status" ((inner ev).getStrD "state") (frameTurnId (inner ev)) = false) :
    sessionStep s ev = (s.adoptLoopId (inner ev)).onStatus ((inner ev).getStrD "state")
      (frameTurnId (inner ev)) :=
  onFrame_status ht (not_skipsLoop hl hev) hs

theorem sessionStep_event (hl : s.expectedLoopId = "" ∨ s.expectedLoopId = L)
    (hev : OfLoop L ev) (ht : (inner ev).getStrD "type" = "event")
    (hs : s.skipsTurn "event" "" (frameTurnId (inner ev)) = false) :
    sessionStep s ev =
      s.onEvent shouldDropStreamChunkEarly (inner ev) (frameTurnId (inner ev)) :=
  onFrame_event ht (not_skipsLoop hl hev) hs

theorem sessionStep_other (hl : s.expectedLoopId = "" ∨ s.expectedLoopId = L)
    (hev : OfLoop L ev) (hst : (inner ev).getStrD "type" ≠ "status")
    (het : (inner ev).getStrD "type" ≠ "event") :
    sessionStep s ev = .next (if (inner ev).getStrD "type" = "command_response" then
      s.onCommandResponse (inner ev) else s) := by
  have hs : s.skipsTurn ((inner ev).getStrD "type") "" (frameTurnId (inner ev)) = false := by
    unfold TurnLoop.skipsTurn
    cases s.expectedTurnId with
    | none => rfl
    | some e => exact if_neg fun h => h.1.elim het hst
  unfold sessionStep TurnLoop.onFrame
  simp only
  rw [if_neg (by rw [not_skipsLoop hl hev]; decide), if_neg hst, if_neg (by rw [hs]; decide),
    if_neg hev.noError, if_neg hst]
  by_cases hc : (inner ev).getStrD "type" = "command_response"
  · rw [if_pos hc, if_pos hc]
  · rw [if_neg hc, if_neg hc, if_pos het]

/-! ## The step lemma -/

theorem rebinds_gate (u : String) : s.rebinds u = s.gate.rebinds u := by
  unfold TurnLoop.rebinds TurnLifecycleGate.rebinds TurnLoop.gate
  cases s.expectedTurnId with
  | none => rfl
  | some e =>
    cases parseTurnGeneration (some u) <;> cases he : parseTurnGeneration (some e) <;> simp [he]

/-- Both observe a running status alike. -/
theorem observeRunning_gate :
    (s.observeRunning t).gate = s.gate.observeStatus "running" t := by
  unfold TurnLoop.observeRunning TurnLifecycleGate.observeStatus
  rw [if_pos (by decide)]
  cases t with
  | none => rfl
  | some u =>
    simp only
    have h : ({ s with queryStarted := true } : TurnLoop).rebinds u = s.gate.rebinds u :=
      rebinds_gate u
    rw [h]
    by_cases hr : s.gate.rebinds u = true
    · rw [if_pos hr, if_pos hr]
      rfl
    · rw [if_neg hr, if_neg hr]
      rfl

theorem observeRunning_expectedLoopId :
    (s.observeRunning t).expectedLoopId = s.expectedLoopId := by
  unfold TurnLoop.observeRunning
  cases t with
  | none => rfl
  | some u =>
    simp only
    split_ifs <;> rfl

theorem observeRunning_cancelSeen : (s.observeRunning t).cancelSeen = s.cancelSeen := by
  unfold TurnLoop.observeRunning
  cases t with
  | none => rfl
  | some u =>
    simp only
    split_ifs <;> rfl

/-- A running status keeps the readers in corresponding states. -/
theorem Synced.observeRunning (h : Synced L b s) (ht : Frame.Trimmed t) :
    Synced L { b with gate := b.gate.observeStatus "running" t } (s.observeRunning t) where
  ended := h.ended
  gate := observeRunning_gate.trans (congrArg (·.observeStatus "running" t) h.gate)
  cancel := observeRunning_cancelSeen.trans h.cancel
  trimmed := by
    rcases observeRunning_expectedTurnId (s := s) (t := t) with he | he
    · rw [he]
      exact h.trimmed
    · rw [he]
      exact ht
  bound _ _ := observeRunning_queryStarted
  loop := by
    rw [observeRunning_expectedLoopId]
    exact h.loop

/-- Adopting the loop id keeps them so, too. -/
theorem Synced.adoptLoopId (h : Synced L b s) (hev : OfLoop L ev) :
    Synced L b (s.adoptLoopId (inner ev)) := by
  obtain ⟨l, heq, hl⟩ := adoptLoopId_eq h.loop hev
  rw [heq]
  exact ⟨h.ended, h.gate, h.cancel, h.trimmed, h.bound, hl⟩

/-- A mis-cased running status that meets the condition changes nothing. -/
theorem observeStatus_of_aligned (hal : AlignedStatus g state t) (h : state ≠ "running") :
    g.observeStatus state t = g := by
  by_cases hr : Text.eqIgnoreAsciiCase state "running" = true
  · obtain ⟨hstart, hbind⟩ := hal.running ⟨hr, h⟩
    cases g with
    | mk run progress expected cancelled =>
      obtain rfl : run = true := hstart
      unfold TurnLifecycleGate.observeStatus
      rw [if_pos hr]
      cases t with
      | none => rfl
      | some u =>
        simp only
        by_cases hreb : TurnLifecycleGate.rebinds ⟨true, progress, expected, cancelled⟩ u = true
        · obtain rfl : expected = some u := hbind u rfl hreb
          rw [if_pos hreb]
          simp
        · rw [if_neg hreb]
  · exact observeStatus_of_not_running (by simpa using hr)

/-- What the pool does with a call. -/
def poolCall (b : TurnBoundary) (c : Call) : Scan.Step TurnBoundary String :=
  match verdict (b.gate.observe c) c with
  | none => .next { b with gate := b.gate.observe c }
  | some reason => .stop reason

theorem poolStep_of_call (hb : b.ended = false) (h : callOf ev = some c) :
    poolStep b ev = poolCall b c := by
  unfold poolCall
  cases hv : verdict (b.gate.observe c) c with
  | none => exact poolStep_next hb h hv
  | some r => exact poolStep_stop hb h hv

theorem poolCall_unchanged (ho : b.gate.observe c = b.gate) (hv : verdict b.gate c = none) :
    poolCall b c = .next b := by
  unfold poolCall
  rw [ho, hv]

theorem onStatus_other (hrun : state ≠ "running") (hstop : state ≠ "stopped")
    (hidle : state ≠ "idle") : s.onStatus state t = .next s := by
  unfold TurnLoop.onStatus
  rw [if_neg hrun, if_neg fun hc => hstop hc.1, if_neg fun hc => hidle hc.1]

/-- A status that is neither running, stopped nor idle for the session ends nothing. -/
theorem verdict_of_aligned (hal : AlignedStatus g state t) (hg : Frame.Trimmed g.expectedTurnId)
    (ht : Frame.Trimmed t) (hstop : state ≠ "stopped") (hidle : state ≠ "idle") :
    verdict g (.status state t) = none := by
  rw [verdict_status]
  by_cases hs : (Text.eqIgnoreAsciiCase state "stopped" && g.sawRunning) = true
  · rw [if_pos hs]
    rw [Bool.and_eq_true] at hs
    obtain ⟨e, he, hne⟩ := hal.stopped ⟨hs.1, hstop⟩ hs.2
    refine if_pos ((mismatch_iff hg ht).2 ?_)
    rw [he]
    exact ⟨Option.some_ne_none e, hne⟩
  · rw [if_neg hs]
    refine if_neg fun hi => ?_
    rw [Bool.and_eq_true] at hi
    rw [hal.idle ⟨hi.1, hidle⟩] at hi
    cases hi.2

/-- A status that the session's turn filter skips changes nothing in the pool. -/
theorem poolCall_of_skipped (h : Synced L b s) (ht : Frame.Trimmed t)
    (hal : AlignedStatus b.gate state t) (hs : s.skipsTurn "status" state t = true) :
    poolCall b (.status state t) = .next b := by
  have hrun : state ≠ "running" := by
    rintro rfl
    rw [skipsTurn_running] at hs
    cases hs
  rw [skipsTurn_status hrun, Bool.and_eq_true, mismatch_iff h.trimmed ht, h.expectedTurnId] at hs
  obtain ⟨⟨hbound, hne⟩, -⟩ := hs
  have hobs : b.gate.observe (.status state t) = b.gate := observeStatus_of_aligned hal hrun
  refine poolCall_unchanged hobs ?_
  by_cases hstop : state = "stopped"
  · subst hstop
    rw [verdict_stoppedFrame ht h.trimmed_gate]
    refine if_neg ?_
    rintro ⟨-, he | he⟩
    · exact hbound he
    · exact hne he.symm
  · by_cases hidle : state = "idle"
    · subst hidle
      have hallow : b.gate.allowIdleComplete t = false := by
        rw [← Bool.not_eq_true]
        intro hi
        unfold TurnLifecycleGate.allowIdleComplete at hi
        rw [h.cancellationSeen, isIdleTerminalAllowed_iff h.trimmed_gate ht] at hi
        obtain ⟨-, -, u, hu, htu⟩ := hi
        exact hne (htu.trans hu.symm)
      rw [verdict_idle_eq, hallow]
      rfl
    · exact verdict_of_aligned hal h.trimmed_gate ht hstop hidle

/-- A status that passes the turn filter is treated alike. -/
theorem onStatus_rel (h : Synced L b s) (ht : Frame.Trimmed t)
    (hal : AlignedStatus b.gate state t) :
    Scan.Step.Rel (Synced L) Corresponds (poolCall b (.status state t)) (s.onStatus state t) := by
  by_cases hrun : state = "running"
  · subst hrun
    unfold poolCall
    rw [verdict_running]
    exact .next (h.observeRunning ht)
  have hobs : b.gate.observe (.status state t) = b.gate := observeStatus_of_aligned hal hrun
  unfold poolCall
  rw [hobs]
  by_cases hstop : state = "stopped"
  · subst hstop
    rw [verdict_stopped_eq, onStatus_stopped, ← h.queryStarted, ← h.expectedTurnId]
    by_cases hq : s.queryStarted = true
    · rw [if_pos hq, if_pos hq]
      by_cases hm : (s.expectedTurnId.isSome && !turnIdsMatch s.expectedTurnId t) = true
      · rw [if_pos hm, if_pos hm]
        exact .next h
      · rw [if_neg hm, if_neg hm]
        exact .stop rfl
    · rw [if_neg hq, if_neg hq]
      exact .next h
  by_cases hidle : state = "idle"
  · subst hidle
    have hallow : b.gate.allowIdleComplete t = isIdleTerminalAllowed s.expectedTurnId t
        s.queryStarted s.turnProgressSeen s.cancelSeen := by
      rw [← h.gate]
      rfl
    rw [verdict_idle_eq, onStatus_idle, hallow]
    by_cases ha : isIdleTerminalAllowed s.expectedTurnId t s.queryStarted s.turnProgressSeen
        s.cancelSeen = true
    · have hq : s.queryStarted = true := by
        rw [h.cancel, isIdleTerminalAllowed_iff h.trimmed ht] at ha
        exact ha.1
      rw [if_pos ha, if_pos ha, if_pos hq]
      exact .stop rfl
    · rw [if_neg ha, if_neg ha, ite_self]
      exact .next h
  · rw [onStatus_other hrun hstop hidle,
      verdict_of_aligned hal h.trimmed_gate ht hstop hidle]
    exact .next h

/-! ### Events -/

/-- Both observe a chunk alike. -/
theorem observeChunk_gate {ns : List Json} {chunk : TurnChunk} :
    (s.observeChunk ns chunk).gate = s.gate.observeEvent chunk.mode chunk.data := by
  unfold TurnLoop.observeChunk TurnLifecycleGate.observeEvent
  by_cases h : isTurnProgressChunk chunk.mode chunk.data = true
  · rw [if_pos h, if_pos h]
    rfl
  · rw [if_neg h, if_neg h]
    rfl

theorem Synced.observeChunk (h : Synced L b s) (ns : List Json) (chunk : TurnChunk) :
    Synced L { b with gate := b.gate.observeEvent chunk.mode chunk.data }
      (s.observeChunk ns chunk) := by
  have hgate : (s.observeChunk ns chunk).gate = b.gate.observeEvent chunk.mode chunk.data :=
    observeChunk_gate.trans (congrArg (·.observeEvent chunk.mode chunk.data) h.gate)
  unfold TurnLoop.observeChunk at hgate ⊢
  by_cases hp : isTurnProgressChunk chunk.mode chunk.data = true
  · rw [if_pos hp] at hgate ⊢
    exact ⟨h.ended, hgate, h.cancel, h.trimmed, h.bound, h.loop⟩
  · rw [if_neg hp] at hgate ⊢
    exact ⟨h.ended, hgate, h.cancel, h.trimmed, h.bound, h.loop⟩

/-- The statistics are not part of the correspondence. -/
theorem Synced.stats (h : Synced L b s) (st : TurnEventStats) :
    Synced L b { s with stats := st } :=
  ⟨h.ended, h.gate, h.cancel, h.trimmed, h.bound, h.loop⟩

/-- An event that the session's turn filter skips changes nothing in the pool. -/
theorem poolCall_of_skipped_event (h : Synced L b s) (ht : Frame.Trimmed t) {ns : List Json}
    (hal : AlignedEvent b.gate ns mode data t) (hs : s.skipsTurn "event" "" t = true) :
    poolCall b (.event mode data t) = .next b := by
  rw [skipsTurn_event, mismatch_iff h.trimmed ht, h.expectedTurnId] at hs
  obtain ⟨hbound, hne⟩ := hs
  refine poolCall_unchanged (observeEvent_eq fun hp => ?_) (verdict_event_none fun hc hend => ?_)
  · rcases (hal.progress hp.1 hp.2).2 with he | he
    · exact hbound he
    · exact hne he
  · rw [← Bool.not_eq_true]
    exact fun ha => hne (hal.turnEnd hc hend ha)

/-- An event that passes the turn filter is treated alike. -/
theorem onEvent_rel (h : Synced L b s)
    (hal : AlignedEvent b.gate (namespaceOf frame) (frame.getStrD "mode")
      ((frame.get "data").getD .null) t) :
    Scan.Step.Rel (Synced L) Corresponds
      (poolCall b (.event (frame.getStrD "mode") ((frame.get "data").getD .null) t))
      (s.onEvent shouldDropStreamChunkEarly frame t) := by
  unfold TurnLoop.onEvent
  generalize hmode : frame.getStrD "mode" = mode at hal ⊢
  generalize hdata : (frame.get "data").getD .null = data at hal ⊢
  simp only
  by_cases hdrop : shouldDropStreamChunkEarly (namespaceOf frame) mode data = true
  · rw [if_pos (show shouldDropStreamChunkEarly
      (((frame.get "namespace").getD (.arr [])).asArray?.getD []) mode data = true from hdrop)]
    have hcustom : mode ≠ "custom" := by
      rintro rfl
      rw [not_drop_custom] at hdrop
      cases hdrop
    have hobs : b.gate.observe (.event mode data t) = b.gate := observeEvent_eq fun hp => by
      rw [(hal.progress hp.1 hp.2).1] at hdrop
      cases hdrop
    rw [poolCall_unchanged hobs (verdict_event_none fun hc => absurd hc hcustom)]
    exact .next ((h.stats _).stats _)
  rw [if_neg (show ¬ shouldDropStreamChunkEarly
    (((frame.get "namespace").getD (.arr [])).asArray?.getD []) mode data = true from hdrop)]
  have hallow : b.gate.allowStreamEnd ((frameTurnId data).or t) =
      isTurnTerminalAllowed s.expectedTurnId ((frameTurnId data).or t) s.queryStarted
        s.turnProgressSeen := by
    rw [← h.gate]
    rfl
  by_cases hend : (mode = "custom" && isTurnEndCustomData data) = true
  · have hcustom : mode = "custom" ∧ isTurnEndCustomData data = true := by simpa using hend
    obtain ⟨rfl, hdataEnd⟩ := hcustom
    have hobs : b.gate.observe (.event "custom" data t) = b.gate :=
      observeEvent_of_not_progress (not_progress_of_turnEnd hdataEnd)
    unfold poolCall
    rw [hobs, verdict_event, hend, Bool.true_and, Bool.true_and, hallow]
    by_cases ha : isTurnTerminalAllowed s.expectedTurnId ((frameTurnId data).or t) s.queryStarted
        s.turnProgressSeen = true
    · rw [if_pos ha, if_neg (by rw [ha]; decide), if_pos rfl]
      refine .stop ?_
      unfold Corresponds TurnLoop.endState
      split_ifs <;> rfl
    · rw [if_neg ha, if_pos (by simpa using ha)]
      exact .next ((h.stats _).stats _)
  · rw [Bool.not_eq_true] at hend
    rw [hend, Bool.false_and, if_neg (by decide), if_neg (by decide)]
    have hv : verdict (b.gate.observe (.event mode data t)) (.event mode data t) = none := by
      refine verdict_event_none fun hc hd => ?_
      rw [hc, hd] at hend
      cases hend
    unfold poolCall
    rw [hv]
    exact .next ((h.stats _).observeChunk _ ⟨_, mode, data⟩)

/-- **Step lemma.** On an aligned frame of the loop the pool and the session go on in
corresponding states or end with corresponding reasons. -/
theorem step_aligned (h : Synced L b s) (hev : OfLoop L ev) (hal : Aligned b.gate ev) :
    Scan.Step.Rel (Synced L) Corresponds (poolStep b ev) (sessionStep s ev) := by
  have htrim := trimmed_frameTurnId (inner ev)
  by_cases hst : (inner ev).getStrD "type" = "status"
  · rw [poolStep_of_call h.ended (callOf_status hst)]
    by_cases hs : s.skipsTurn "status" ((inner ev).getStrD "state") (frameTurnId (inner ev)) = true
    · rw [sessionStep_of_skips h.loop hev (by rw [if_pos hst, hst]; exact hs),
        poolCall_of_skipped h htrim (hal.status hst) hs]
      exact .next h
    · rw [sessionStep_status h.loop hev hst (by simpa using hs)]
      exact onStatus_rel (h.adoptLoopId hev) htrim (hal.status hst)
  by_cases het : (inner ev).getStrD "type" = "event"
  · rw [poolStep_of_call h.ended (callOf_event het)]
    by_cases hs : s.skipsTurn "event" "" (frameTurnId (inner ev)) = true
    · rw [sessionStep_of_skips h.loop hev (by rw [if_neg hst, het]; exact hs),
        poolCall_of_skipped_event h htrim (hal.event het) hs]
      exact .next h
    · rw [sessionStep_event h.loop hev het (by simpa using hs)]
      exact onEvent_rel h (hal.event het)
  · rw [poolStep_of_no_call (callOf_other hst het), sessionStep_other h.loop hev hst het]
    split_ifs with hc
    · unfold TurnLoop.onCommandResponse
      rw [hal.cancel hc]
      exact .next h
    · exact .next h

end SootheClient.Session
