import SootheClient.Frame.Bare
import SootheClient.Turn.Classifier
import SootheClient.Turn.Feed
import SootheClient.Turn.History

/-!
# Status and terminal frames

What the classifier and the boundary make of a status frame and of a terminal: the classifier is
plain about them, and before a running status no terminal ends the boundary.
-/

namespace SootheClient.Turn

open SootheClient.Frame
open Json (Members)

variable {cl : EventClassifier} {fromStr : String → Option Members} {collected : String}
  {msg : Json}

/-! ## The classifier -/

/-- A result that neither adds text nor ends the turn. -/
def Plain (result : ChatEventResult) : Prop := result.content = "" ∧ result.terminal = .continue

theorem plain_default : Plain {} := ⟨rfl, rfl⟩

theorem classify_eq : cl.classify fromStr msg collected =
    cl.processChatEvent fromStr msg collected none := rfl

theorem plain_status (ht : (inner msg).getStr "type" = some "status")
    (hidle : Text.eqIgnoreAsciiCase ((inner msg).getStrD "state") "idle" = true →
      cl.isSubstantiveAssistantReply collected = false) :
    Plain (cl.classify fromStr msg collected) := by
  have hstatus : isStatusMessage (inner msg) = true := by
    unfold isStatusMessage
    rw [ht]
    rfl
  rw [classify_eq]
  unfold EventClassifier.processChatEvent
  rw [unwrapNext_eq_inner]
  simp only
  rw [if_pos hstatus]
  unfold EventClassifier.processStatus
  simp only
  rw [if_neg]
  · exact plain_default
  · intro h
    rw [Bool.and_eq_true, Bool.and_eq_true] at h
    rw [hidle h.1.2] at h
    cases h.2

/-- A replay marker or a thinking step is plain. -/
theorem plain_stepResult {eventType : String} {dataMap : Members} {result : ChatEventResult}
    (h : cl.stepResult eventType dataMap = some result) : Plain result := by
  unfold EventClassifier.stepResult at h
  generalize (if strMember dataMap "type" = "" then eventType else strMember dataMap "type") =
    dataType at h
  by_cases hr : dataType = EVENT_LOOP_HISTORY_REPLAYED
  · obtain rfl := Option.some.inj ((if_pos hr).symm.trans h)
    exact plain_default
  · obtain ⟨step, -, rfl⟩ := Option.map_eq_some_iff.1 ((if_neg hr).symm.trans h)
    exact ⟨rfl, rfl⟩

/-- Without a gate, a terminal payload is plain. -/
theorem plain_turnEndEvent {v : Json} (hm : v.getStrD "mode" = "custom")
    (hend : isTurnEndCustomData ((v.get "data").getD .null) = true) :
    Plain (cl.processEventMessage fromStr v collected none) := by
  unfold EventClassifier.processEventMessage
  simp only
  cases hstep : (normalizeEventData fromStr ((v.get "data").getD .null)).bind
      (cl.stepResult (eventMessageEventType v)) with
  | some result =>
    obtain ⟨dataMap, -, hres⟩ := Option.bind_eq_some_iff.1 hstep
    exact plain_stepResult hres
  | none =>
    simp only
    rw [hm, hend, if_pos (by decide)]
    unfold EventClassifier.turnEndResult
    simp only [Option.any_none, Bool.and_false]
    exact plain_default

theorem plain_turnEnd (ht : (inner msg).getStr "type" = some "event")
    (hm : (inner msg).getStr "mode" = some "custom")
    (hend : isTurnEndCustomData (((inner msg).get "data").getD .null) = true) :
    Plain (cl.classify fromStr msg collected) := by
  have hmode : ((inner msg).get "mode").isSome = true := by
    unfold Json.getStr at hm
    cases hg : (inner msg).get "mode" with
    | none =>
      rw [hg] at hm
      cases hm
    | some v => rfl
  have hstatus : isStatusMessage (inner msg) = false := by
    unfold isStatusMessage
    rw [ht]
    cases hg : (inner msg).get "mode" with
    | none =>
      rw [hg] at hmode
      cases hmode
    | some v => simp
  have htype : (inner msg).getStrD "type" = "event" := by
    unfold Json.getStrD
    rw [ht]
    rfl
  have hmodeD : (inner msg).getStrD "mode" = "custom" := by
    unfold Json.getStrD
    rw [hm]
    rfl
  rw [classify_eq]
  unfold EventClassifier.processChatEvent
  rw [unwrapNext_eq_inner]
  simp only
  rw [hstatus, htype, if_neg (by decide), if_neg (by decide), if_neg (by decide),
    if_pos ⟨Or.inl rfl, hmode⟩]
  exact plain_turnEndEvent hmodeD hend

theorem getStr_of_getStrD {v : Json} {key value : String} (h : v.getStrD key = value)
    (hne : value ≠ "") : v.getStr key = some value := by
  unfold Json.getStrD at h
  cases hg : v.getStr key with
  | none =>
    rw [hg] at h
    exact absurd h.symm hne
  | some w =>
    rw [hg] at h
    exact congrArg some h

theorem not_substantive_empty : cl.isSubstantiveAssistantReply "" = false := by
  unfold EventClassifier.isSubstantiveAssistantReply
  have hlen : (Text.trim "").length = 0 := by decide
  rw [hlen]
  exact decide_eq_false (Nat.not_le.2 cl.runes_pos)

/-- Before any text, a terminal of an earlier turn is plain. -/
theorem plain_stale (h : isStaleTurnEndEvent msg = true) :
    Plain (cl.classify fromStr msg "") := by
  unfold isStaleTurnEndEvent at h
  simp only at h
  split_ifs at h with ht he
  · exact plain_status (getStr_of_getStrD ht (by decide)) fun _ => not_substantive_empty
  · rw [Bool.and_eq_true, decide_eq_true_eq] at h
    exact plain_turnEnd (getStr_of_getStrD he (by decide)) (getStr_of_getStrD h.1 (by decide)) h.2

/-- A running status is plain. -/
theorem plain_running (h : isStatusRunningEvent msg = true) :
    Plain (cl.classify fromStr msg collected) := by
  unfold isStatusRunningEvent at h
  simp only at h
  rw [Bool.and_eq_true, decide_eq_true_eq] at h
  refine plain_status h.1 fun hidle => ?_
  rw [Text.eqIgnoreAsciiCase_congr h.2] at hidle
  exact absurd hidle (by decide)

/-! ## The gate -/

variable {g : TurnLifecycleGate} {state mode : String} {t : Option String} {data : Json}

theorem observeStatus_of_not_running (h : Text.eqIgnoreAsciiCase state "running" = false) :
    g.observeStatus state t = g :=
  if_neg (by rw [h]; decide)

/-- What a running status in any case does to an unbound gate. -/
theorem observeStatus_unbound {g : TurnLifecycleGate}
    (hr : Text.eqIgnoreAsciiCase state "running" = true) (he : g.expectedTurnId = none) :
    g.observeStatus state t = { g with sawRunning := true, expectedTurnId := t } := by
  unfold TurnLifecycleGate.observeStatus
  rw [if_pos hr]
  cases t with
  | none =>
    show ({ g with sawRunning := true } : TurnLifecycleGate) = _
    rw [← he]
  | some u =>
    have hreb : g.rebinds u = true := by
      unfold TurnLifecycleGate.rebinds
      rw [he]
    simp only
    rw [if_pos hreb, he]
    rfl

theorem observeStatus_rebound {g : TurnLifecycleGate} {u : String}
    (hr : Text.eqIgnoreAsciiCase state "running" = true) (hreb : g.rebinds u = true) :
    (g.observeStatus state (some u)).sawRunning = true ∧
      (g.observeStatus state (some u)).expectedTurnId = some u := by
  unfold TurnLifecycleGate.observeStatus
  rw [if_pos hr]
  simp only
  rw [if_pos hreb]
  exact ⟨rfl, rfl⟩

theorem verdict_status : verdict g (.status state t) =
    if Text.eqIgnoreAsciiCase state "stopped" && g.sawRunning then
      if g.expectedTurnId.isSome && !turnIdsMatch g.expectedTurnId t then none
      else some TURN_END_STOPPED
    else if Text.eqIgnoreAsciiCase state "idle" && g.allowIdleComplete t then some TURN_END_IDLE
    else none := rfl

theorem verdict_running : verdict g (.status "running" t) = none := by
  rw [verdict_status, show Text.eqIgnoreAsciiCase "running" "stopped" = false by decide,
    show Text.eqIgnoreAsciiCase "running" "idle" = false by decide]
  rfl

theorem verdict_stopped_eq : verdict g (.status "stopped" t) =
    if g.sawRunning then
      if g.expectedTurnId.isSome && !turnIdsMatch g.expectedTurnId t then none
      else some TURN_END_STOPPED
    else none := by
  rw [verdict_status, show Text.eqIgnoreAsciiCase "stopped" "stopped" = true by decide,
    show Text.eqIgnoreAsciiCase "stopped" "idle" = false by decide, Bool.true_and]
  rfl

theorem verdict_idle_eq : verdict g (.status "idle" t) =
    if g.allowIdleComplete t then some TURN_END_IDLE else none := by
  rw [verdict_status, show Text.eqIgnoreAsciiCase "idle" "stopped" = false by decide,
    show Text.eqIgnoreAsciiCase "idle" "idle" = true by decide, Bool.true_and]
  rfl

theorem verdict_event {frameTurn : Option String} : verdict g (.event mode data frameTurn) =
    if mode = "custom" && isTurnEndCustomData data &&
        g.allowStreamEnd ((frameTurnId data).or frameTurn) then
      some TURN_END_STREAM_END
    else none := rfl

theorem observeEvent_of_progress (h : g.sawTurnProgress = true) :
    g.observeEvent mode data = g := by
  unfold TurnLifecycleGate.observeEvent
  cases g with
  | mk run progress expected cancelled =>
    obtain rfl : progress = true := h
    exact ite_self _

theorem observeEvent_of_not_progress (h : isTurnProgressChunk mode data = false) :
    g.observeEvent mode data = g :=
  if_neg (by rw [h]; decide)

/-- Outside its first progress chunk the gate does not move. -/
theorem observeEvent_eq
    (h : ¬ (isTurnProgressChunk mode data = true ∧ g.sawTurnProgress = false)) :
    g.observeEvent mode data = g := by
  cases hp : g.sawTurnProgress with
  | true => exact observeEvent_of_progress hp
  | false =>
    refine observeEvent_of_not_progress ?_
    rw [← Bool.not_eq_true]
    exact fun hc => h ⟨hc, hp⟩

theorem verdict_event_none
    (h : mode = "custom" → isTurnEndCustomData data = true →
      g.allowStreamEnd ((frameTurnId data).or t) = false) :
    verdict g (.event mode data t) = none := by
  rw [verdict_event]
  refine if_neg fun hc => ?_
  rw [Bool.and_eq_true, Bool.and_eq_true, decide_eq_true_eq] at hc
  rw [h hc.1.1 hc.1.2] at hc
  cases hc.2

/-! ## Bare frames -/

variable {e : String}

theorem callOf_statusFrame {state : String} (ht : Frame.Trimmed t) :
    callOf (statusFrame state t) = some (.status state t) := by
  rw [callOf_status statusFrame_type, statusFrame_state, statusFrame_turnId ht]

theorem isTurnEnd_streamEnd : isTurnEndCustomData (.obj [("type", .str STREAM_END)]) = true := by
  decide

theorem callOf_streamEndFrame (he : Frame.Trimmed (some e)) :
    callOf (streamEndFrame e) =
      some (.event "custom" (.obj [("type", .str STREAM_END)]) (some e)) := by
  rw [callOf_event streamEndFrame_type, streamEndFrame_turnId he, inner_streamEndFrame]
  rfl

/-- What the end of the stream of `e` says of a gate. -/
theorem verdict_streamEndFrame (he : Frame.Trimmed (some e))
    (hg : Frame.Trimmed g.expectedTurnId) :
    verdict g (.event "custom" (.obj [("type", .str STREAM_END)]) (some e)) =
      if g.sawRunning = true ∧ g.sawTurnProgress = true ∧ g.expectedTurnId = some e then
        some TURN_END_STREAM_END
      else none := by
  have hallow : g.allowStreamEnd (some e) = true ↔
      g.sawRunning = true ∧ g.sawTurnProgress = true ∧ g.expectedTurnId = some e := by
    unfold TurnLifecycleGate.allowStreamEnd
    rw [isTurnTerminalAllowed_iff hg he]
    constructor
    · rintro ⟨hr, hp, u, hu, hue⟩
      exact ⟨hr, hp, hu.trans hue.symm⟩
    · rintro ⟨hr, hp, hu⟩
      exact ⟨hr, hp, e, hu, rfl⟩
  rw [verdict_event]
  show (if (true && g.allowStreamEnd (some e)) = true then _ else _) = _
  rw [Bool.true_and]
  simp only [hallow]

/-- What a stop of the turn `t` says of a gate. -/
theorem verdict_stoppedFrame (ht : Frame.Trimmed t) (hg : Frame.Trimmed g.expectedTurnId) :
    verdict g (.status "stopped" t) =
      if g.sawRunning = true ∧ (g.expectedTurnId = none ∨ g.expectedTurnId = t) then
        some TURN_END_STOPPED
      else none := by
  rw [verdict_stopped_eq]
  by_cases hr : g.sawRunning = true
  · rw [if_pos hr]
    by_cases hm : (g.expectedTurnId.isSome && !turnIdsMatch g.expectedTurnId t) = true
    · obtain ⟨hbound, hne⟩ := (mismatch_iff hg ht).1 hm
      rw [if_pos hm, if_neg]
      rintro ⟨-, hn | hn⟩
      · exact hbound hn
      · exact hne hn.symm
    · rw [if_neg hm, if_pos]
      refine ⟨hr, ?_⟩
      by_contra hc
      rw [not_or] at hc
      exact hm ((mismatch_iff hg ht).2 ⟨hc.1, Ne.symm hc.2⟩)
  · rw [if_neg hr, if_neg fun h => hr h.1]

/-! ## The boundary -/

theorem feedBoundary_open {b b' : TurnBoundary} (hb : b.ended = false)
    (h : feedBoundary b msg = (b', none)) : b'.ended = false := by
  rw [feedBoundary_eq] at h
  cases hc : callOf msg with
  | none =>
    rw [hc] at h
    exact congrArg (fun p => p.1.ended) h.symm |>.trans hb
  | some d =>
    rw [hc] at h
    have h' : b.feed d = (b', none) := h
    rw [feed_eq hb] at h'
    cases hv : verdict (b.gate.observe d) d with
    | some reason =>
      rw [hv] at h'
      cases h'
    | none =>
      rw [hv] at h'
      exact congrArg (fun p => p.1.ended) h'.symm |>.trans hb

/-- A call that the observed gate does not end. -/
theorem feedBoundary_next {b : TurnBoundary} {d : Call} (hb : b.ended = false)
    (hc : callOf msg = some d) (hv : verdict (b.gate.observe d) d = none) :
    feedBoundary b msg = ({ b with gate := b.gate.observe d }, none) := by
  rw [feedBoundary_eq, hc]
  show b.feed d = _
  rw [feed_eq hb, hv]

theorem feedBoundary_end {b : TurnBoundary} {d : Call} {reason : String} (hb : b.ended = false)
    (hc : callOf msg = some d) (hv : verdict (b.gate.observe d) d = some reason) :
    (feedBoundary b msg).2 = some reason := by
  rw [feedBoundary_eq, hc]
  show (b.feed d).2 = _
  rw [feed_eq hb, hv]

/-- The call of a terminal of an earlier turn. -/
theorem callOf_stale (h : isStaleTurnEndEvent msg = true) :
    (∃ state turnId, callOf msg = some (.status state turnId) ∧
      (Text.toAsciiLowercase state = "idle" ∨ Text.toAsciiLowercase state = "stopped")) ∨
    ∃ data frameTurn, callOf msg = some (.event "custom" data frameTurn) ∧
      isTurnEndCustomData data = true := by
  unfold isStaleTurnEndEvent at h
  simp only at h
  split_ifs at h with ht he
  · exact Or.inl ⟨_, _, callOf_status ht, by simpa using h⟩
  · rw [Bool.and_eq_true, decide_eq_true_eq] at h
    refine Or.inr ⟨((inner msg).get "data").getD .null, frameTurnId (inner msg), ?_, h.2⟩
    rw [callOf_event he, h.1]

/-- A terminal leaves the gate alone. -/
theorem observe_stale {d : Call} {g : TurnLifecycleGate} (h : isStaleTurnEndEvent msg = true)
    (hc : callOf msg = some d) : g.observe d = g := by
  rcases callOf_stale h with ⟨state, turnId, hd, hstate⟩ | ⟨data, frameTurn, hd, hend⟩
  · obtain rfl := Option.some.inj (hc.symm.trans hd)
    apply observe_of_not_running
    · show Text.eqIgnoreAsciiCase state "running" = false
      rcases hstate with hs | hs <;> rw [Text.eqIgnoreAsciiCase_of_lower hs] <;> decide
    · rfl
  · obtain rfl := Option.some.inj (hc.symm.trans hd)
    apply observe_of_not_running
    · rfl
    · exact Frame.not_progress_of_turnEnd hend

/-- Before a running status nothing ends the boundary. -/
theorem verdict_not_running {g : TurnLifecycleGate} (hg : g.sawRunning = false) (d : Call) :
    verdict g d = none := by
  cases d with
  | status state turnId =>
    show (if _ then _ else _) = _
    rw [hg, Bool.and_false, if_neg (by decide)]
    refine if_neg fun h => ?_
    rw [Bool.and_eq_true] at h
    have hallow := h.2
    unfold TurnLifecycleGate.allowIdleComplete isIdleTerminalAllowed at hallow
    rw [hg] at hallow
    cases hallow
  | event mode data frameTurn =>
    refine if_neg fun h => ?_
    rw [Bool.and_eq_true] at h
    have hallow := h.2
    unfold TurnLifecycleGate.allowStreamEnd isTurnTerminalAllowed at hallow
    rw [hg] at hallow
    cases hallow

theorem feedBoundary_stale {b : TurnBoundary} (hb : b.ended = false)
    (hg : b.gate.sawRunning = false) (h : isStaleTurnEndEvent msg = true) :
    feedBoundary b msg = (b, none) := by
  rcases callOf_stale h with ⟨_, _, hd, -⟩ | ⟨_, _, hd, -⟩ <;>
  · have hobs := observe_stale (g := b.gate) h hd
    rw [feedBoundary_next hb hd (by rw [hobs]; exact verdict_not_running hg _), hobs]

theorem callOf_running (h : isStatusRunningEvent msg = true) :
    ∃ state, callOf msg = some (.status state (frameTurnId (inner msg))) ∧
      Text.eqIgnoreAsciiCase state "running" = true := by
  unfold isStatusRunningEvent at h
  simp only at h
  rw [Bool.and_eq_true, decide_eq_true_eq] at h
  refine ⟨_, callOf_status ?_, h.2⟩
  unfold Json.getStrD
  rw [h.1]
  rfl

theorem verdict_of_running {g : TurnLifecycleGate} {state : String} {turnId : Option String}
    (h : Text.eqIgnoreAsciiCase state "running" = true) :
    verdict g (.status state turnId) = none := by
  show (if _ then _ else _) = _
  rw [Text.eqIgnoreAsciiCase_congr h "stopped", Text.eqIgnoreAsciiCase_congr h "idle"]
  rfl

/-- A call that does not end the boundary only moves its gate. -/
theorem feedBoundary_gate {b b' : TurnBoundary} {d : Call} (hb : b.ended = false)
    (hc : callOf msg = some d) (h : feedBoundary b msg = (b', none)) :
    b' = { b with gate := b.gate.observe d } := by
  cases hv : verdict (b.gate.observe d) d with
  | some reason =>
    have hend := feedBoundary_end hb hc hv
    rw [h] at hend
    cases hend
  | none =>
    rw [feedBoundary_next hb hc hv] at h
    exact (congrArg Prod.fst h).symm

end SootheClient.Turn
