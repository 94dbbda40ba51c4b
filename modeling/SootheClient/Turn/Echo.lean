import SootheClient.Frame.Bare
import SootheClient.Turn.Deltas

/-!
# The echo of an idle status

A status frame and a custom frame that ends a turn carry no text. A classifier that treats an idle
status as a completion answers with the trimmed text collected so far, and the loop takes that
answer in: when trimming removes something, the whole text is appended to itself.
-/

namespace SootheClient.Turn

open SootheClient.Frame

/-- A status frame, or a custom frame that ends a turn. -/
def isTerminalFrame (ev : Json) : Bool :=
  let msg := inner ev
  isStatusMessage msg ||
    (msg.getStrD "mode" = "custom" && isTurnEndCustomData ((msg.get "data").getD .null))

variable {r : TurnRunner} {c : TurnCtx} {s s' : TurnState} {tick : Tick} {ev : Json}
  {collected : String}

namespace TurnRunner

/-- The step adds neither text nor a delta. -/
def AddsNothing (s : TurnState) : Scan.Step TurnState Outcome → Prop
  | .next t => t.collected = s.collected ∧ deltas t.log = deltas s.log
  | .stop o => deltas o.2 = deltas s.log ∧ ∀ text, o.1 = .ok text → text = s.collected

/-- The frame is an idle status that the classifier completes with the text, ungated. -/
def completesIdle (r : TurnRunner) (collected : String) (ev : Json) : Bool :=
  isStatusMessage (inner ev) && Text.eqIgnoreAsciiCase ((inner ev).getStrD "state") "idle" &&
    r.classifier.cfg.treatStatusIdleAsComplete && !r.classifier.cfg.gateTurnEndSignals &&
    r.classifier.isSubstantiveAssistantReply collected

/-- The frame makes the classifier repeat a text that trimming changes. -/
def Echoes (r : TurnRunner) (collected : String) (ev : Json) : Prop :=
  r.completesIdle collected ev = true ∧ Text.trim collected ≠ collected

/-! ## The classifier -/

theorem classify_idle (h : r.completesIdle collected ev = true) :
    r.classifier.classify r.fromStr ev collected =
      EventClassifier.deliverableResult (Text.trim collected) "status.idle" := by
  unfold completesIdle at h
  simp only [Bool.and_eq_true, Bool.not_eq_true'] at h
  obtain ⟨⟨⟨⟨hstatus, hidle⟩, hflag⟩, hgate⟩, hsub⟩ := h
  rw [classify_eq]
  unfold EventClassifier.processChatEvent
  rw [unwrapNext_eq_inner]
  simp only
  rw [if_pos hstatus]
  unfold EventClassifier.processStatus
  simp only
  rw [hflag, hidle, hsub, hgate]
  rfl

theorem plain_status_of_not_idle (hs : isStatusMessage (inner ev) = true)
    (h : r.completesIdle collected ev = false) :
    Plain (r.classifier.classify r.fromStr ev collected) := by
  rw [classify_eq]
  unfold EventClassifier.processChatEvent
  rw [unwrapNext_eq_inner]
  simp only
  rw [if_pos hs]
  unfold EventClassifier.processStatus
  unfold completesIdle at h
  rw [hs] at h
  simp only
  split_ifs with hcond hgate
  · exact plain_default
  · rw [Bool.and_eq_true, Bool.and_eq_true] at hcond
    rw [hcond.1.1, hcond.1.2, hcond.2] at h
    simp at h hgate
    rw [h] at hgate
    cases hgate
  · exact plain_default

/-- A custom frame that ends a turn is plain or a failure, whatever its type. -/
theorem classify_turnEnd (hs : isStatusMessage (inner ev) = false)
    (hm : (inner ev).getStrD "mode" = "custom")
    (hend : isTurnEndCustomData (((inner ev).get "data").getD .null) = true) :
    (r.classifier.classify r.fromStr ev collected).terminal = .failedComplete ∨
      Plain (r.classifier.classify r.fromStr ev collected) := by
  rw [classify_eq]
  unfold EventClassifier.processChatEvent
  rw [unwrapNext_eq_inner]
  simp only [hs, Bool.false_eq_true, if_false]
  split_ifs
  · exact Or.inl rfl
  · exact Or.inr plain_default
  · exact Or.inr (plain_turnEndEvent hm hend)
  · split
    · exact Or.inl rfl
    · exact Or.inr plain_default

/-- Terminal frames complete the idle text, or are plain, or fail. -/
theorem classify_terminal (h : isTerminalFrame ev = true)
    (hidle : r.completesIdle collected ev = false) :
    (r.classifier.classify r.fromStr ev collected).terminal = .failedComplete ∨
      Plain (r.classifier.classify r.fromStr ev collected) := by
  unfold isTerminalFrame at h
  simp only at h
  cases hs : isStatusMessage (inner ev) with
  | true => exact Or.inr (plain_status_of_not_idle hs hidle)
  | false =>
    rw [hs, Bool.false_or, Bool.and_eq_true, decide_eq_true_eq] at h
    exact classify_turnEnd hs h.1 h.2

theorem contentOf_plain (h : (r.classifier.classify r.fromStr ev collected).terminal =
    .failedComplete ∨ Plain (r.classifier.classify r.fromStr ev collected)) :
    r.contentOf collected ev = "" := by
  unfold contentOf
  simp only
  rcases h with hfail | hplain
  · exact if_pos hfail
  · rw [if_neg (by rw [hplain.2]; decide), hplain.1]

theorem deliverableOf_plain (h : (r.classifier.classify r.fromStr ev collected).terminal =
    .failedComplete ∨ Plain (r.classifier.classify r.fromStr ev collected)) :
    r.deliverableOf collected ev = none := by
  have hterm : (r.classifier.classify r.fromStr ev collected).terminal ≠ .deliverableComplete := by
    rcases h with hfail | hplain
    · rw [hfail]
      decide
    · rw [hplain.2]
      decide
  unfold deliverableOf EventClassifier.resolveDeliverableFinalContent
  simp only
  rw [if_pos hterm]
  rfl

theorem contentOf_terminal (h : isTerminalFrame ev = true) :
    r.contentOf collected ev =
      if r.completesIdle collected ev then Text.trim collected else "" := by
  cases hidle : r.completesIdle collected ev with
  | true =>
    unfold contentOf
    rw [classify_idle hidle]
    rfl
  | false => exact contentOf_plain (classify_terminal h hidle)

/-- An idle status is the boundary's to end, not a deliverable. -/
theorem filter_idle (resolved : Option String) :
    resolved.filter (fun _ => !isDaemonTurnEndEvent
      (EventClassifier.deliverableResult (Text.trim collected) "status.idle").completionEvent) =
      none := by
  rw [Option.filter_eq_none_iff]
  intro text _ hend
  have hidle : isDaemonTurnEndEvent "status.idle" = true := by decide
  rw [show (EventClassifier.deliverableResult _ _).completionEvent = "status.idle" from rfl,
    hidle] at hend
  cases hend

/-- No terminal frame is a deliverable. -/
theorem deliverableOf_terminal (h : isTerminalFrame ev = true) :
    r.deliverableOf collected ev = none := by
  cases hidle : r.completesIdle collected ev with
  | true =>
    unfold deliverableOf
    rw [classify_idle hidle]
    exact filter_idle _
  | false => exact deliverableOf_plain (classify_terminal h hidle)

/-- Taking in the trimmed text leaves the text alone when trimming does. -/
theorem collect_trim (h : Text.trim collected = collected) :
    collect collected (Text.trim collected) = (collected, "") := by
  rw [h]
  exact collect_self

theorem collect_trim_of_ne (h : Text.trim collected ≠ collected) (hne : Text.trim collected ≠ "") :
    collect collected (Text.trim collected) =
      (collected ++ Text.trim collected, Text.trim collected) := by
  unfold collect
  rw [if_neg hne, if_neg fun hp => h (Text.startsWith_trim_iff.1 hp)]

/-! ## One iteration -/

theorem addsNothing_of_adds {content : String} {x : Scan.Step TurnState Outcome}
    (hc : collect s.collected content = (s.collected, "")) (h : r.Adds s content none x) :
    AddsNothing s x := by
  unfold Adds at h
  rw [hc, deltaData_empty, List.append_nil] at h
  exact h

theorem processed_eq (hrecv : tick.recv = .frame ev) :
    r.processed c s tick = none ∨ r.processed c s tick = some ev := by
  unfold processed
  split_ifs
  · rw [hrecv]
    simp only
    split_ifs
    · exact Or.inr rfl
    · exact Or.inl rfl
  · exact Or.inl rfl

/-- A frame adds nothing when its content does not and it is no deliverable. -/
theorem addsNothing_of_frame (hrecv : tick.recv = .frame ev)
    (hc : r.processed c s tick = some ev →
      collect s.collected (r.contentOf s.collected ev) = (s.collected, ""))
    (hd : r.deliverableOf s.collected ev = none) : AddsNothing s (r.loopStep c s tick) := by
  have hadds : r.Adds s (r.taken c s tick) (r.delivered c s tick) (r.loopStep c s tick) :=
    adds_loopStep
  unfold taken delivered at hadds
  rcases processed_eq hrecv with hp | hp
  · rw [hp] at hadds
    exact addsNothing_of_adds (collect_empty _) hadds
  · rw [hp] at hadds
    simp only [Option.elim_some, Option.bind_some, hd] at hadds
    exact addsNothing_of_adds (hc hp) hadds

/-- A processed event is processed with the text, the boundary and the log of the state. -/
theorem loopStep_of_processed (h : r.processed c s tick = some ev) :
    ∃ s', s'.armed = true ∧ s'.collected = s.collected ∧ s'.boundary = s.boundary ∧
      s'.log = s.log ∧ r.loopStep c s tick = r.processEvent c s' tick ev := by
  unfold processed at h
  split_ifs at h with hr
  cases hrecv : tick.recv with
  | missing | timedOut | closed =>
    rw [hrecv] at h
    cases h
  | frame msg =>
    rw [hrecv] at h
    simp only at h
    split_ifs at h with hp
    obtain rfl := Option.some.inj h
    rw [loopStep_of_reads hr, hrecv]
    show ∃ s', _ ∧ _ ∧ _ ∧ _ ∧ r.onEvent c s tick msg = _
    unfold onEvent
    by_cases ha : s.armed = true
    · rw [if_pos ha]
      exact ⟨s, ha, rfl, rfl, rfl, rfl⟩
    · rw [eq_false_of_ne_true ha, Bool.false_or, Bool.not_eq_true', Bool.or_eq_false_iff] at hp
      simp only [ha, hp.1, hp.2, Bool.false_eq_true, if_false]
      exact ⟨{ s with armed := true, lastEvent := tick.eventClock }, rfl, rfl, rfl, rfl, rfl⟩

/-- An echo changes the text. -/
theorem text_of_echoes (hp : r.processed c s tick = some ev) (he : r.Echoes s.collected ev) :
    (∃ t, r.loopStep c s tick = .next t ∧ t.collected ≠ s.collected) ∨
      ∃ text log, r.loopStep c s tick = .stop (.ok text, log) ∧ text ≠ s.collected := by
  obtain ⟨hidle, htrim⟩ := he
  have hsub : r.classifier.isSubstantiveAssistantReply s.collected = true := by
    unfold completesIdle at hidle
    rw [Bool.and_eq_true] at hidle
    exact hidle.2
  have hne : Text.trim s.collected ≠ "" := by
    intro h0
    unfold EventClassifier.isSubstantiveAssistantReply at hsub
    rw [h0, decide_eq_true_eq] at hsub
    exact absurd (lt_of_lt_of_le r.classifier.runes_pos hsub) (by decide)
  have hgrown : s.collected ++ Text.trim s.collected ≠ s.collected := by
    intro h
    have hlen := congrArg String.length h
    rw [String.length_append] at hlen
    exact hne (String.length_eq_zero_iff.1 (by omega))
  obtain ⟨s', harmed, hcol, -, -, hstep⟩ := loopStep_of_processed hp
  have hclass : r.classifier.classify r.fromStr ev s'.collected =
      EventClassifier.deliverableResult (Text.trim s.collected) "status.idle" := by
    rw [hcol]
    exact classify_idle hidle
  rw [hstep, processEvent_eq harmed, hclass, if_neg ChatEventTerminal.noConfusion]
  have htext : (r.absorb c { s' with boundary := (feedBoundary s'.boundary ev).1 } tick
      (EventClassifier.deliverableResult (Text.trim s.collected) "status.idle")).collected =
        s.collected ++ Text.trim s.collected := by
    rw [absorb_text]
    show (collect s'.collected (Text.trim s.collected)).1 = _
    rw [hcol, collect_trim_of_ne htrim hne]
  unfold conclude
  rw [filter_idle, htext]
  simp only
  cases (feedBoundary s'.boundary ev).2 with
  | none => exact Or.inl ⟨_, rfl, fun h => hgrown (htext.symm.trans h)⟩
  | some reason =>
    simp only
    rw [if_neg (Text.trim_append_ne (by rwa [Text.trim_trim]))]
    exact Or.inr ⟨_, _, rfl, hgrown⟩

theorem not_addsNothing_of_echoes (hp : r.processed c s tick = some ev)
    (he : r.Echoes s.collected ev) : ¬ AddsNothing s (r.loopStep c s tick) := by
  rcases text_of_echoes hp he with ⟨t, hstep, hne⟩ | ⟨text, log, hstep, hne⟩
  · rw [hstep]
    exact fun h => hne h.1
  · rw [hstep]
    exact fun h => hne (h.2 text rfl)

theorem addsNothing_of_not_echoes (hrecv : tick.recv = .frame ev) (h : isTerminalFrame ev = true)
    (hno : ¬ (r.processed c s tick = some ev ∧ r.Echoes s.collected ev)) :
    AddsNothing s (r.loopStep c s tick) := by
  refine addsNothing_of_frame hrecv (fun hp => ?_) (deliverableOf_terminal h)
  rw [contentOf_terminal h]
  split_ifs with hidle
  · exact collect_trim (by_contra fun hne => hno ⟨hp, hidle, hne⟩)
  · exact collect_empty _

/-- **Terminal frames add text exactly when they echo.** An iteration that receives a terminal
frame adds neither text nor a delta, unless it processes the frame and the frame echoes. -/
theorem terminal_adds_nothing_iff (r : TurnRunner) (c : TurnCtx) (s : TurnState) (tick : Tick)
    (ev : Json) (hrecv : tick.recv = .frame ev) (h : isTerminalFrame ev = true) :
    AddsNothing s (r.loopStep c s tick) ↔
      ¬ (r.processed c s tick = some ev ∧ r.Echoes s.collected ev) := by
  constructor
  · rintro hnothing ⟨hp, he⟩
    exact not_addsNothing_of_echoes hp he hnothing
  · exact addsNothing_of_not_echoes hrecv h

/-- An iteration that receives an idle status of the turn `L:1`. -/
def idleTick : Tick where
  recv := .frame (statusFrame "idle" (some "L:1"))

/-- An armed loop with a text that ends with a blank. -/
def heard : TurnState where
  lastEvent := 0
  collected := "Hello there "
  armed := true
  log := []

/-- With the default classifier an idle status adds nothing. -/
theorem terminal_adds_nothing_attached :
    AddsNothing heard (attached.loopStep (attached.ctx greeting "L" 0) heard idleTick) := by
  refine (terminal_adds_nothing_iff attached (attached.ctx greeting "L" 0) heard idleTick _ rfl
    (by decide)).2 ?_
  rintro ⟨-, hidle, -⟩
  exact absurd hidle (by decide)

/-- A runner that treats an idle status as a completion. -/
def eager : TurnRunner :=
  { attached with
    classifier :=
      { cfg :=
          { deliverablePhases := DEFAULT_DELIVERABLE_PHASES, treatStatusIdleAsComplete := true }
        phases_ne := by decide
        runes_pos := by decide } }

/-- The frames of a turn: running, a chunk that ends with a blank, idle. -/
def spoken : Env where
  acquired := .ok "L"
  ticks :=
    [{ recv := .frame (statusFrame "running" (some "L:1")) },
      { recv := .frame (eventFrame "messages" "L:1"
        (.arr [.obj [("type", .str "AIMessageChunk"), ("content", .str "Hello there ")]])) },
      idleTick]

/-- The idle status of that turn appends the trimmed text to the text. -/
theorem terminal_adds_text : ∃ before s, eager.Iterates greeting spoken "L" before s idleTick ∧
    s.collected = "Hello there " ∧
    (eager.runTurn greeting spoken).map Prod.fst = some (.ok "Hello there Hello there") ∧
    ¬ AddsNothing s (eager.loopStep (eager.ctx greeting "L" 0) s idleTick) := by
  refine ⟨spoken.ticks.take 2, _, ⟨⟨rfl, rfl, rfl, ?_, rfl⟩, ?_⟩, rfl, rfl, ?_⟩
  · exact ⟨[idleTick], rfl⟩
  · exact ⟨[], rfl⟩
  intro h
  have htext := h.2 "Hello there Hello there" rfl
  exact absurd htext (by decide)

end TurnRunner

end SootheClient.Turn
