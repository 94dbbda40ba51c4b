import SootheClient.Frame.Bare
import SootheClient.Turn.Terminals

/-!
# Gated classification

`classify_turn` lets the gate of the turn observe a message and then classifies it. The classifier
unwraps a `next` envelope, the gate does not: a frame that moves the gate does not move it in an
envelope, and the completions gated by it are missed.
-/

namespace SootheClient.Turn

open SootheClient.Frame
open Json (Members)

namespace TurnLifecycleGate

variable (g : TurnLifecycleGate)

/-- `observe`: one decoded message, a status or an event frame. -/
def observeMsg (msg : Json) : TurnLifecycleGate :=
  if msg.getStr "type" = some "status" then
    match msg.getStr "state" with
    | some state => g.observeStatus state (frameTurnId msg)
    | none => g
  else if msg.getStr "type" = some "event" ∨ (msg.get "mode").isSome = true then
    g.observeEvent (msg.getStrD "mode") ((msg.get "data").getD .null)
  else g

/-- The message is a running status, and the gate has seen none or gets bound to another turn. -/
def StartsTurn (msg : Json) : Prop :=
  msg.getStr "type" = some "status" ∧
    (∃ state, msg.getStr "state" = some state ∧
      Text.eqIgnoreAsciiCase state "running" = true) ∧
    (g.sawRunning = false ∨
      ∃ t, frameTurnId msg = some t ∧ g.rebinds t = true ∧ g.expectedTurnId ≠ some t)

/-- The message is the first progress of the turn. -/
def FirstProgress (msg : Json) : Prop :=
  msg.getStr "type" ≠ some "status" ∧
    (msg.getStr "type" = some "event" ∨ (msg.get "mode").isSome = true) ∧
    isTurnProgressChunk (msg.getStrD "mode") ((msg.get "data").getD .null) = true ∧
    g.sawTurnProgress = false

end TurnLifecycleGate

namespace EventClassifier

variable (fromStr : String → Option Members) (cl : EventClassifier)

/-- Observe a message with the gate, if there is one, and classify it. -/
def classifyTurn (msg : Json) (accumulated : String) (gate : Option TurnLifecycleGate) :
    ChatEventResult × Option TurnLifecycleGate :=
  let gate := gate.map (·.observeMsg msg)
  (cl.processChatEvent fromStr msg accumulated gate, gate)

/-- Classify messages one after the other with one gate, each with the text accumulated before it:
the result and the gate after each. -/
def classifyTurns (gate : Option TurnLifecycleGate) :
    List (Json × String) → List (ChatEventResult × Option TurnLifecycleGate)
  | [] => []
  | (msg, accumulated) :: rest =>
    let step := cl.classifyTurn fromStr msg accumulated gate
    step :: classifyTurns step.2 rest

end EventClassifier

/-- The protocol-1 envelope of a frame. -/
def nextFrame (frame : Json) : Json :=
  .obj [("type", .str "next"), ("payload", .obj [("data", frame)])]

/-- A frame that is an object and no envelope. -/
def IsBareFrame (frame : Json) : Prop :=
  frame.asObject?.isSome = true ∧ frame.getStr "type" ≠ some "next"

variable {fromStr : String → Option Members} {cl : EventClassifier} {g : TurnLifecycleGate}
  {frame msg : Json} {accumulated : String} {gate : Option TurnLifecycleGate}

/-! ## The gate -/

theorem observeStatus_eq_self_iff {state : String} {t : Option String}
    (hr : Text.eqIgnoreAsciiCase state "running" = true) :
    g.observeStatus state t = g ↔
      g.sawRunning = true ∧ ∀ u, t = some u → g.rebinds u = true → g.expectedTurnId = some u := by
  have hstart : ({ g with sawRunning := true } : TurnLifecycleGate) = g ↔ g.sawRunning = true := by
    constructor
    · intro h
      exact (congrArg TurnLifecycleGate.sawRunning h).symm
    · intro h
      rw [← h]
  cases t with
  | none =>
    have heq : g.observeStatus state none = { g with sawRunning := true } := if_pos hr
    rw [heq, hstart]
    exact ⟨fun h => ⟨h, fun u hu => nomatch hu⟩, fun h => h.1⟩
  | some u =>
    by_cases hreb : g.rebinds u = true
    · constructor
      · intro h
        obtain ⟨hrun, hbound⟩ := observeStatus_rebound hr hreb
        rw [h] at hrun hbound
        refine ⟨hrun, fun v hv _ => ?_⟩
        rw [hbound, hv]
      · rintro ⟨hrun, hbound⟩
        have he := hbound u rfl hreb
        unfold TurnLifecycleGate.observeStatus
        rw [if_pos hr]
        simp only
        rw [if_pos hreb, he, ← hrun]
        cases g with
        | mk run progress expected cancelled =>
          obtain rfl : expected = some u := he
          obtain rfl : run = true := hrun
          simp
    · have heq : g.observeStatus state (some u) = { g with sawRunning := true } := by
        unfold TurnLifecycleGate.observeStatus
        rw [if_pos hr]
        exact if_neg hreb
      rw [heq, hstart]
      refine ⟨fun h => ⟨h, fun v hv hv' => ?_⟩, fun h => h.1⟩
      obtain rfl := Option.some.inj hv
      exact absurd hv' hreb

theorem observeEvent_eq_self_iff {mode : String} {data : Json} :
    g.observeEvent mode data = g ↔
      ¬ (isTurnProgressChunk mode data = true ∧ g.sawTurnProgress = false) := by
  constructor
  · rintro h ⟨hchunk, hp⟩
    have heq : g.observeEvent mode data = { g with sawTurnProgress := true } := if_pos hchunk
    rw [heq] at h
    have hsaw := congrArg TurnLifecycleGate.sawTurnProgress h
    rw [hp] at hsaw
    cases hsaw
  · exact observeEvent_eq

/-- What moves the gate. -/
theorem observeMsg_eq_self_iff :
    g.observeMsg msg = g ↔ ¬ g.StartsTurn msg ∧ ¬ g.FirstProgress msg := by
  unfold TurnLifecycleGate.observeMsg
  by_cases hs : msg.getStr "type" = some "status"
  · rw [if_pos hs]
    have hprogress : ¬ g.FirstProgress msg := fun h => h.1 hs
    cases hstate : msg.getStr "state" with
    | none =>
      refine ⟨fun _ => ⟨?_, hprogress⟩, fun _ => rfl⟩
      rintro ⟨-, ⟨state, hst, -⟩, -⟩
      rw [hstate] at hst
      cases hst
    | some state =>
      by_cases hr : Text.eqIgnoreAsciiCase state "running" = true
      · simp only
        rw [observeStatus_eq_self_iff hr]
        constructor
        · rintro ⟨hrun, hbound⟩
          refine ⟨?_, hprogress⟩
          rintro ⟨-, -, hno | ⟨t, ht, hreb, hne⟩⟩
          · rw [hrun] at hno
            cases hno
          · exact hne (hbound t ht hreb)
        · rintro ⟨hno, -⟩
          constructor
          · by_contra hrun
            exact hno ⟨hs, ⟨state, hstate, hr⟩, Or.inl (eq_false_of_ne_true hrun)⟩
          · intro u hu hreb
            by_contra hne
            exact hno ⟨hs, ⟨state, hstate, hr⟩, Or.inr ⟨u, hu, hreb, hne⟩⟩
      · refine ⟨fun _ => ⟨?_, hprogress⟩,
          fun _ => observeStatus_of_not_running (eq_false_of_ne_true hr)⟩
        rintro ⟨-, ⟨state', hst, hr'⟩, -⟩
        rw [hstate] at hst
        obtain rfl := Option.some.inj hst
        exact hr hr'
  · rw [if_neg hs]
    have hstart : ¬ g.StartsTurn msg := fun h => hs h.1
    by_cases he : msg.getStr "type" = some "event" ∨ (msg.get "mode").isSome = true
    · rw [if_pos he, observeEvent_eq_self_iff]
      constructor
      · intro h
        exact ⟨hstart, fun hp => h ⟨hp.2.2.1, hp.2.2.2⟩⟩
      · rintro ⟨-, hno⟩ ⟨hchunk, hp⟩
        exact hno ⟨hs, he, hchunk, hp⟩
    · rw [if_neg he]
      exact ⟨fun _ => ⟨hstart, fun hp => he hp.2.1⟩, fun _ => rfl⟩

/-- The gate does not look into an envelope. -/
theorem observeMsg_nextFrame : g.observeMsg (nextFrame frame) = g := rfl

/-! ## The envelope -/

theorem unwrapNext_nextFrame (h : frame.asObject?.isSome = true) :
    unwrapNext (nextFrame frame) = frame := by
  show (if frame.asObject?.isSome = true then frame else _) = _
  rw [if_pos h]

theorem unwrapNext_bare (h : IsBareFrame frame) : unwrapNext frame = frame := by
  rw [unwrapNext_eq_inner]
  exact inner_of_type h.2

/-- The classifier looks into the envelope. -/
theorem processChatEvent_nextFrame (h : IsBareFrame frame) :
    cl.processChatEvent fromStr (nextFrame frame) accumulated gate =
      cl.processChatEvent fromStr frame accumulated gate := by
  unfold EventClassifier.processChatEvent
  rw [unwrapNext_nextFrame h.1, unwrapNext_bare h]

theorem classifyTurn_some : cl.classifyTurn fromStr msg accumulated (some g) =
    (cl.processChatEvent fromStr msg accumulated (some (g.observeMsg msg)),
      some (g.observeMsg msg)) := rfl

theorem classifyTurns_cons {rest : List (Json × String)} :
    cl.classifyTurns fromStr gate ((msg, accumulated) :: rest) =
      cl.classifyTurn fromStr msg accumulated gate ::
        cl.classifyTurns fromStr (cl.classifyTurn fromStr msg accumulated gate).2 rest := rfl

/-- One message: the envelope is transparent when the frame does not move the gate. -/
theorem classifyTurn_nextFrame_iff (h : IsBareFrame frame) :
    cl.classifyTurn fromStr (nextFrame frame) accumulated (some g) =
        cl.classifyTurn fromStr frame accumulated (some g) ↔
      ¬ g.StartsTurn frame ∧ ¬ g.FirstProgress frame := by
  rw [← observeMsg_eq_self_iff, classifyTurn_some, classifyTurn_some,
    processChatEvent_nextFrame h, observeMsg_nextFrame]
  constructor
  · intro heq
    exact (Option.some.inj (congrArg Prod.snd heq)).symm
  · intro heq
    rw [heq]

/-- **Wrapping is transparent when no frame moves the gate.** Messages in envelopes give the
results and the gates of the bare ones exactly when none of them starts a turn or is the first
progress of one. -/
theorem classifyTurns_nextFrame_iff (fromStr : String → Option Members) (cl : EventClassifier)
    (g : TurnLifecycleGate) (frames : List (Json × String))
    (h : ∀ p ∈ frames, IsBareFrame p.1) :
    cl.classifyTurns fromStr (some g) (frames.map fun p => (nextFrame p.1, p.2)) =
        cl.classifyTurns fromStr (some g) frames ↔
      ∀ p ∈ frames, ¬ g.StartsTurn p.1 ∧ ¬ g.FirstProgress p.1 := by
  induction frames with
  | nil =>
    constructor
    · intro _ p hp
      cases hp
    · intro _
      rfl
  | cons p rest ih =>
    obtain ⟨frame, accumulated⟩ := p
    have hbare : IsBareFrame frame := h (frame, accumulated) List.mem_cons_self
    have hrest := ih fun q hq => h q (List.mem_cons_of_mem _ hq)
    have hstep : cl.classifyTurn fromStr (nextFrame frame) accumulated (some g) =
          cl.classifyTurn fromStr frame accumulated (some g) ↔
        ¬ g.StartsTurn frame ∧ ¬ g.FirstProgress frame := classifyTurn_nextFrame_iff hbare
    rw [List.forall_mem_cons, ← hrest, ← hstep, List.map_cons, classifyTurns_cons,
      classifyTurns_cons, List.cons.injEq]
    refine and_congr_right fun heq => ?_
    rw [← heq]
    rfl

/-- A classifier that completes a gated idle status. -/
def gatedIdle : EventClassifier where
  cfg :=
    { deliverablePhases := DEFAULT_DELIVERABLE_PHASES
      treatStatusIdleAsComplete := true
      gateTurnEndSignals := true }
  phases_ne := by decide
  runes_pos := by decide

/-- The messages of a turn: running, a chunk, idle. -/
def answered : List (Json × String) :=
  [(statusFrame "running" (some "L:1"), ""),
    (eventFrame "messages" "L:1"
      (.arr [.obj [("type", .str "AIMessageChunk"), ("content", .str "Hello there")]]), ""),
    (statusFrame "idle" (some "L:1"), "Hello there")]

/-- Messages that do not move the gate. -/
theorem classifyTurns_nextFrame_idle :
    gatedIdle.classifyTurns (fun _ => none) (some {})
        [(nextFrame (statusFrame "idle" (some "L:1")), "Hello there")] =
      gatedIdle.classifyTurns (fun _ => none) (some {})
        [(statusFrame "idle" (some "L:1"), "Hello there")] := by
  refine (classifyTurns_nextFrame_iff (fun _ => none) gatedIdle {}
    [(statusFrame "idle" (some "L:1"), "Hello there")] ?_).2 ?_
  · unfold IsBareFrame
    decide
  · intro p hp
    obtain rfl := List.mem_singleton.1 hp
    constructor
    · rintro ⟨-, ⟨state, hstate, hr⟩, -⟩
      obtain rfl := Option.some.inj hstate
      exact absurd hr (by decide)
    · rintro ⟨hno, -⟩
      exact hno rfl

/-- In envelopes the idle status of the turn no longer completes it. -/
theorem classifyTurns_nextFrame_fails :
    (∀ p ∈ answered, IsBareFrame p.1) ∧
      (gatedIdle.classifyTurns (fun _ => none) (some {}) answered).map (·.1.terminal) =
        [.continue, .continue, .deliverableComplete] ∧
      (gatedIdle.classifyTurns (fun _ => none) (some {})
          (answered.map fun p => (nextFrame p.1, p.2))).map (·.1.terminal) =
        [.continue, .continue, .continue] := by
  refine ⟨?_, by decide, by decide⟩
  unfold IsBareFrame
  decide

end SootheClient.Turn
