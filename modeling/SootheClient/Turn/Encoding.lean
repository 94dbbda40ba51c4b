import SootheClient.Frame.Namespace
import SootheClient.Turn.Gated

/-!
# The classifier and the encodings of namespaces

The classifier reads the namespace of an event as a list or as a string, and joins a list by dots.
So it gives the same results for both encodings.
-/

namespace SootheClient.Turn

open SootheClient.Frame
open Json (Members)

variable {fromStr : String → Option Members} {cl : EventClassifier} {v w msg data : Json}
  {accumulated : String} {gate : Option TurnLifecycleGate}

theorem isStatusMessage_joined (hj : Joined v w) : isStatusMessage w = isStatusMessage v := by
  unfold isStatusMessage
  rw [hj.getStr _ (by decide) (by decide), hj.get "state" (by decide) (by decide),
    hj.get "mode" (by decide) (by decide)]

/-- A list of segments and the string of it name the same event type. -/
theorem eventMessageEventType_joined (hj : Joined v w) :
    eventMessageEventType w = eventMessageEventType v := by
  unfold eventMessageEventType
  rw [hj.get "data" (by decide) (by decide), hj.ns]
  cases ((v.get "data").bind fun d => d.getStr "type").filter (· ≠ "") with
  | some t => rfl
  | none =>
    cases v.get "namespace" with
    | none => rfl
    | some ns =>
      cases hlist : isSegmentList ns with
      | false => rw [Option.map_some, joinSegments_of_not hlist]
      | true =>
        obtain ⟨items, rfl⟩ := isSegmentList_arr hlist
        rw [Option.map_some, joinSegments_of_list hlist]
        rfl

theorem processStatus_joined (hj : Joined v w) :
    cl.processStatus w accumulated gate = cl.processStatus v accumulated gate := by
  unfold EventClassifier.processStatus
  rw [hj.getStrD _ (by decide) (by decide), hj.frameTurnId]

theorem processEnvelopeError_joined (hj : Joined v w) :
    EventClassifier.processEnvelopeError w = EventClassifier.processEnvelopeError v := by
  unfold EventClassifier.processEnvelopeError
  rw [hj.get "error" (by decide) (by decide)]

/-- The loop-tagged message of an event does not depend on the namespace. -/
theorem loopAiMessage_joined (hj : Joined v w) :
    (EventMessage.fromValue w).bind EventMessage.loopAiMessage =
      (EventMessage.fromValue v).bind EventMessage.loopAiMessage := by
  have hget : ∀ key, key ≠ "namespace" → key ≠ "payload" → w.get key = v.get key := hj.get
  have hobj := hj.object
  unfold Json.get at hget
  unfold EventMessage.fromValue
  cases hv : v.asObject? with
  | none =>
    rw [hv] at hobj
    have hw : w.asObject? = none := Option.not_isSome_iff_eq_none.1 (by rw [hobj]; decide)
    rw [hw]
  | some m =>
    rw [hv] at hobj
    obtain ⟨m', hw⟩ := Option.isSome_iff_exists.1 hobj
    rw [hw]
    have hm : ∀ key, key ≠ "namespace" → key ≠ "payload" → m'.get key = m.get key := by
      intro key hns hpayload
      have := hget key hns hpayload
      rw [hv, hw] at this
      exact this
    have hstr : ∀ key, key ≠ "namespace" → key ≠ "payload" → optStr m' key = optStr m key := by
      intro key hns hpayload
      unfold optStr
      rw [hm key hns hpayload]
    have hdata : optValue m' "data" = optValue m "data" := by
      unfold optValue
      rw [hm "data" (by decide) (by decide)]
    simp only [Option.bind_eq_bind, Option.bind_some, Option.bind_assoc]
    rw [hstr "request_id" (by decide) (by decide), hstr "type" (by decide) (by decide),
      hstr "loop_id" (by decide) (by decide), hstr "mode" (by decide) (by decide),
      hstr "timestamp" (by decide) (by decide), hdata]
    rfl

theorem messagesModeAssistantContent_joined (hj : Joined v w) :
    messagesModeAssistantContent w = messagesModeAssistantContent v := by
  unfold messagesModeAssistantContent
  rw [hj.getStr _ (by decide) (by decide), hj.get "data" (by decide) (by decide)]

theorem messagesResult_joined (hj : Joined v w) :
    cl.messagesResult w data = cl.messagesResult v data := by
  unfold EventClassifier.messagesResult EventClassifier.loopMessageResult
  rw [loopAiMessage_joined hj, messagesModeAssistantContent_joined hj]

/-- An event has one result in both encodings. -/
theorem processEventMessage_joined (hj : Joined v w) :
    cl.processEventMessage fromStr w accumulated gate =
      cl.processEventMessage fromStr v accumulated gate := by
  unfold EventClassifier.processEventMessage EventClassifier.turnEndResult
  simp only
  rw [eventMessageEventType_joined hj, hj.getStrD _ (by decide) (by decide),
    hj.get "data" (by decide) (by decide), hj.frameTurnId, messagesResult_joined hj]

/-- **Classification.** A message has one result in both encodings. -/
theorem processChatEvent_dotted (msg : Json) :
    cl.processChatEvent fromStr (dotted msg) accumulated gate =
      cl.processChatEvent fromStr msg accumulated gate := by
  have hj := joined_unwrapNext msg
  unfold EventClassifier.processChatEvent
  simp only
  rw [isStatusMessage_joined hj, processStatus_joined hj, hj.getStrD _ (by decide) (by decide),
    processEnvelopeError_joined hj, hj.get "mode" (by decide) (by decide),
    processEventMessage_joined hj, hj.get "code" (by decide) (by decide),
    hj.get "message" (by decide) (by decide)]

theorem observeMsg_dotted (g : TurnLifecycleGate) (msg : Json) :
    g.observeMsg (dotted msg) = g.observeMsg msg := by
  have hj := joined_dotted msg
  unfold TurnLifecycleGate.observeMsg
  rw [hj.getStr "type" (by decide) (by decide),
    hj.getStr "state" (by decide) (by decide), hj.frameTurnId,
    hj.get "mode" (by decide) (by decide), hj.getStrD _ (by decide) (by decide),
    hj.get "data" (by decide) (by decide)]

theorem classifyTurn_dotted (msg : Json) :
    cl.classifyTurn fromStr (dotted msg) accumulated gate =
      cl.classifyTurn fromStr msg accumulated gate := by
  unfold EventClassifier.classifyTurn
  simp only
  rw [processChatEvent_dotted]
  cases gate with
  | none => rfl
  | some g => rw [Option.map_some, Option.map_some, observeMsg_dotted]

/-- Messages one after the other have the same results in both encodings. -/
theorem classifyTurns_dotted (msgs : List (Json × String)) :
    cl.classifyTurns fromStr gate (msgs.map (Prod.map dotted id)) =
      cl.classifyTurns fromStr gate msgs := by
  induction msgs generalizing gate with
  | nil => rfl
  | cons msg msgs ih =>
    obtain ⟨msg, accumulated⟩ := msg
    rw [List.map_cons]
    unfold EventClassifier.classifyTurns
    simp only [Prod.map, id]
    rw [classifyTurn_dotted, ih]

end SootheClient.Turn
