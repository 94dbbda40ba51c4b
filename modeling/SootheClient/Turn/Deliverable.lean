import SootheClient.Turn.Terminals

/-!
# Deliverable results

`Delivers` says where a deliverable result of the classifier comes from: an idle status, one of the
two readers of `messages` events, or the data of an event of a final name. Whether the result is
then resolved to a reply goes by the name of its completion event and by the length of the text.
-/

namespace SootheClient.Turn

open SootheClient.Frame
open Json (Members)

variable {fromStr : String → Option Members} {cl : EventClassifier} {msg v : Json}
  {accumulated ns dataType name content text : String} {dataMap : Members}
  {result : ChatEventResult}

/-! ## Final data -/

namespace EventClassifier

/-- Data with a content end the turn under the namespace and type. -/
def finalOutput (cl : EventClassifier) (ns dataType : String) : Bool :=
  let isMatch := isNamespaceMatch ns dataType
  if isMatch "soothe.output" || isMatch "responded" then cl.isFinalOutputEvent dataType ns
  else
    !(isMatch "agent_loop.completed" || isMatch "agent_loop.reasoned" ||
      isMatch "loop.completed") && isMatch "final_report"

/-- The data decide the outcome of the event: it is no status, no thinking step and no end of the
turn. -/
structure ByData (fromStr : String → Option Members) (cl : EventClassifier) (v : Json)
    (dataMap : Members) : Prop where
  status : isStatusMessage v = false
  type : v.getStrD "type" = "event" ∨ v.getStrD "type" = ""
  mode : (v.get "mode").isSome = true
  data : normalizeEventData fromStr ((v.get "data").getD .null) = some dataMap
  step : cl.stepResult (eventMessageEventType v) dataMap = none
  turnEnd : (v.getStrD "mode" = "custom" &&
    isTurnEndCustomData ((v.get "data").getD .null)) = false

/-- The event is final by its data, with a content. -/
structure FinalData (fromStr : String → Option Members) (cl : EventClassifier) (v : Json)
    (dataMap : Members) (content : String) : Prop where
  byData : cl.ByData fromStr v dataMap
  content : extractContentFromData dataMap = some content
  final : cl.finalOutput (eventMessageEventType v) (strMember dataMap "type") = true

end EventClassifier

/-- The name under which the data of an event complete the turn. -/
def eventName (v : Json) (dataMap : Members) : String :=
  if strMember dataMap "type" = "" then eventMessageEventType v else strMember dataMap "type"

open EventClassifier (ByData FinalData deliverableResult continueResult)

theorem continue_not_deliverable :
    (continueResult content).terminal ≠ .deliverableComplete := by
  intro h
  cases h

theorem default_not_deliverable : ({} : ChatEventResult).terminal ≠ .deliverableComplete := by
  intro h
  cases h

theorem plain_not_deliverable (h : Plain result) : result.terminal ≠ .deliverableComplete := by
  rw [h.2]
  decide

theorem errorEvent_not_deliverable :
    (EventClassifier.errorEventResult ns dataType dataMap).terminal ≠ .deliverableComplete := by
  have hfailed : ∃ err, EventClassifier.errorEventResult ns dataType dataMap =
      EventClassifier.failedResult err := by
    unfold EventClassifier.errorEventResult
    simp only
    by_cases hm : strMember dataMap "message" ≠ ""
    · exact ⟨_, if_pos hm⟩
    · rw [if_neg hm]
      cases extractContentFromData dataMap with
      | some content => exact ⟨_, rfl⟩
      | none => exact ⟨_, rfl⟩
  obtain ⟨err, h⟩ := hfailed
  rw [h]
  intro hd
  cases hd

/-- What is left of the data of an event without a content is not deliverable. -/
theorem dataResult_of_no_content (hc : extractContentFromData dataMap = none) :
    (cl.dataResult ns dataMap).terminal ≠ .deliverableComplete := by
  unfold EventClassifier.dataResult
  simp only [hc, ite_self]
  split_ifs
  · exact errorEvent_not_deliverable
  · split
    · exact continue_not_deliverable
    · exact default_not_deliverable
  · exact default_not_deliverable

/-- Data with a content are deliverable exactly under a final name. -/
theorem dataResult_of_content (cl : EventClassifier) (ns : String)
    (hc : extractContentFromData dataMap = some content) :
    (cl.finalOutput ns (strMember dataMap "type") = true ∧
      cl.dataResult ns dataMap = deliverableResult content
        (if strMember dataMap "type" = "" then ns else strMember dataMap "type")) ∨
    (cl.finalOutput ns (strMember dataMap "type") = false ∧
      (cl.dataResult ns dataMap).terminal ≠ .deliverableComplete) := by
  unfold EventClassifier.dataResult EventClassifier.finalOutput
  simp only [hc]
  by_cases hout : (isNamespaceMatch ns (strMember dataMap "type") "soothe.output" ||
      isNamespaceMatch ns (strMember dataMap "type") "responded") = true
  · rw [if_pos hout, if_pos hout]
    cases hf : cl.isFinalOutputEvent (strMember dataMap "type") ns with
    | true => exact Or.inl ⟨rfl, rfl⟩
    | false => exact Or.inr ⟨rfl, continue_not_deliverable⟩
  rw [if_neg hout, if_neg hout]
  by_cases hloop : (isNamespaceMatch ns (strMember dataMap "type") "agent_loop.completed" ||
      isNamespaceMatch ns (strMember dataMap "type") "agent_loop.reasoned" ||
      isNamespaceMatch ns (strMember dataMap "type") "loop.completed") = true
  · rw [if_pos hloop, hloop]
    exact Or.inr ⟨rfl, continue_not_deliverable⟩
  rw [if_neg hloop, Bool.eq_false_iff.2 hloop]
  by_cases hreport : isNamespaceMatch ns (strMember dataMap "type") "final_report" = true
  · rw [if_pos hreport, hreport]
    exact Or.inl ⟨rfl, rfl⟩
  rw [if_neg hreport, Bool.eq_false_iff.2 hreport]
  refine Or.inr ⟨rfl, ?_⟩
  simp only
  split_ifs
  · exact errorEvent_not_deliverable
  · split
    · exact continue_not_deliverable
    · exact default_not_deliverable
  · exact default_not_deliverable

theorem dataResult_deliverable (h : (cl.dataResult ns dataMap).terminal = .deliverableComplete) :
    ∃ content, extractContentFromData dataMap = some content ∧
      cl.finalOutput ns (strMember dataMap "type") = true := by
  cases hc : extractContentFromData dataMap with
  | none => exact absurd h (dataResult_of_no_content hc)
  | some content =>
    rcases dataResult_of_content cl ns hc with ⟨hf, -⟩ | ⟨-, hno⟩
    · exact ⟨content, rfl, hf⟩
    · exact absurd h hno

/-! ## Messages -/

/-- Data that are no array have no first message. -/
theorem firstMessage_of_not_array {data : Json} (h : data.asArray? = none) :
    firstMessage data = none := by
  unfold firstMessage
  rw [h]
  rfl

theorem fromValue_data {em : EventMessage} (h : EventMessage.fromValue v = some em) :
    em.data.bind Json.asArray? = (v.get "data").bind Json.asArray? := by
  unfold EventMessage.fromValue at h
  simp only [Option.bind_eq_bind, Option.bind_eq_some_iff] at h
  obtain ⟨m, hm, _, -, _, -, _, -, _, -, _, -, hem⟩ := h
  obtain rfl := Option.some.inj hem
  have hget : v.get "data" = m.get "data" := by
    unfold Json.get
    rw [hm]
    rfl
  rw [hget]
  unfold optValue
  simp only
  split
  · rename_i hnone
    rw [hnone]
  · rename_i hnull
    rw [hnull]
    rfl
  · rename_i hsome
    rw [hsome]

/-- The loop-tagged message is the first of the data. -/
structure LoopFirst (v : Json) (first : Members) (loopMsg : LoopAIMessage) : Prop where
  head : firstMessage ((v.get "data").getD .null) = some first
  type : loopMsg.type = some (((first.get "type").bind Json.asStr?).getD "ai")
  content : loopMsg.content = first.get "content"
  phase : loopMsg.phase = some (strMember first "phase")
  tagged : isLoopAssistantPhase (strMember first "phase") = true

theorem loopFirst_of_loopAiMessage {loopMsg : LoopAIMessage}
    (h : (EventMessage.fromValue v).bind EventMessage.loopAiMessage = some loopMsg) :
    ∃ first, LoopFirst v first loopMsg := by
  obtain ⟨em, hem, hloop⟩ := Option.bind_eq_some_iff.1 h
  unfold EventMessage.loopAiMessage at hloop
  split_ifs at hloop
  simp only [Option.bind_eq_bind] at hloop
  rw [fromValue_data hem] at hloop
  obtain ⟨items, hitems, hloop⟩ := Option.bind_eq_some_iff.1 hloop
  obtain ⟨item, hitem, hloop⟩ := Option.bind_eq_some_iff.1 hloop
  obtain ⟨first, hfirst, hloop⟩ := Option.bind_eq_some_iff.1 hloop
  obtain ⟨data, hdata, harr⟩ := Option.bind_eq_some_iff.1 hitems
  split_ifs at hloop with hblank htag
  obtain rfl := Option.some.inj hloop
  refine ⟨first, ?_, rfl, rfl, rfl, ?_⟩
  · unfold firstMessage
    rw [hdata, Option.getD_some, harr, Option.bind_some, hitem, Option.bind_some, hfirst]
  · rw [Bool.not_eq_true, Bool.not_eq_false'] at htag
    exact htag

/-- A deliverable result of a `messages` event. -/
inductive FromMessage (cl : EventClassifier) (v : Json) : ChatEventResult → Prop
  /-- The typed reader. -/
  | loop (first : Members) (loopMsg : LoopAIMessage)
      (hloop : (EventMessage.fromValue v).bind EventMessage.loopAiMessage = some loopMsg)
      (hfirst : LoopFirst v first loopMsg)
      (hstream : isStreamingMessageType (loopMsg.type.getD "") = false)
      (hphase : cl.isDeliverableLoopPhase (strMember first "phase") = true)
      (hs : cl.isSubstantiveAssistantReply loopMsg.loopAiText = true) :
      FromMessage cl v (deliverableResult loopMsg.loopAiText
        ("soothe.protocol.message." ++ strMember first "phase"))
  /-- The raw reader. -/
  | payload (first : Members) (hfirst : firstMessage ((v.get "data").getD .null) = some first)
      (htype : isTerminalMessageType (strMember first "type") = true ∨ strMember first "type" = "")
      (hphase : cl.isDeliverableLoopPhase (strMember first "phase") = true)
      (hs : cl.isSubstantiveAssistantReply (extractContentFromMessage first) = true) :
      FromMessage cl v (deliverableResult (extractContentFromMessage first)
        ("soothe.protocol.message." ++ strMember first "phase"))

/-- Where a deliverable result comes from. -/
inductive Delivers (fromStr : String → Option Members) (cl : EventClassifier) (v : Json)
    (accumulated : String) : ChatEventResult → Prop
  /-- An idle status completes the accumulated text. -/
  | idle (h : cl.isSubstantiveAssistantReply accumulated = true) :
      Delivers fromStr cl v accumulated (deliverableResult (Text.trim accumulated) "status.idle")
  | message {result : ChatEventResult} (h : FromMessage cl v result) :
      Delivers fromStr cl v accumulated result
  /-- The data of an event of a final name. -/
  | data (dataMap : Members) (content : String) (h : cl.FinalData fromStr v dataMap content) :
      Delivers fromStr cl v accumulated (deliverableResult content (eventName v dataMap))

theorem fromMessage_of_loop (h : cl.loopMessageResult v = some result)
    (hd : result.terminal = .deliverableComplete) : FromMessage cl v result := by
  unfold EventClassifier.loopMessageResult at h
  split at h
  · cases h
  · rename_i loopMsg hloop
    obtain ⟨first, hfirst⟩ := loopFirst_of_loopAiMessage hloop
    simp only [hfirst.phase] at h
    split_ifs at h with hempty hstream hcond
    · obtain rfl := Option.some.inj h
      exact absurd hd continue_not_deliverable
    · obtain rfl := Option.some.inj h
      rw [Bool.and_eq_true] at hcond
      exact .loop first loopMsg hloop hfirst (Bool.eq_false_iff.2 hstream) hcond.1 hcond.2
    · obtain rfl := Option.some.inj h
      exact absurd hd continue_not_deliverable

/-- The raw reader delivers the text of the first message. -/
theorem fromMessage_of_payload
    (h : ((isTerminalMessageType (firstMessagePayload ((v.get "data").getD .null)).1 ||
        (firstMessagePayload ((v.get "data").getD .null)).1 = "") &&
      cl.isDeliverableLoopPhase (firstMessagePayload ((v.get "data").getD .null)).2.2.1 &&
      cl.isSubstantiveAssistantReply (firstMessagePayload ((v.get "data").getD .null)).2.1) = true) :
    FromMessage cl v (deliverableResult (firstMessagePayload ((v.get "data").getD .null)).2.1
      ("soothe.protocol.message." ++ (firstMessagePayload ((v.get "data").getD .null)).2.2.1)) := by
  rw [Bool.and_eq_true, Bool.and_eq_true, Bool.or_eq_true, decide_eq_true_eq] at h
  unfold firstMessagePayload at h ⊢
  cases hfirst : firstMessage ((v.get "data").getD .null) with
  | none =>
    rw [hfirst] at h
    exact absurd h.2 (Bool.eq_false_iff.1 not_substantive_empty)
  | some first =>
    rw [hfirst] at h
    exact .payload first hfirst h.1.1 h.1.2 h.2

theorem fromMessage_of_messages
    (h : cl.messagesResult v ((v.get "data").getD .null) = some result)
    (hd : result.terminal = .deliverableComplete) : FromMessage cl v result := by
  have hcontinue : ∀ {content}, some (continueResult content) = some result →
      FromMessage cl v result := by
    intro content hres
    obtain rfl := Option.some.inj hres
    exact absurd hd continue_not_deliverable
  unfold EventClassifier.messagesResult at h
  simp only at h
  by_cases hstream : ((firstMessagePayload ((v.get "data").getD .null)).2.2.2 &&
      (firstMessagePayload ((v.get "data").getD .null)).2.1 ≠ "" &&
      isStreamingMessageType (firstMessagePayload ((v.get "data").getD .null)).1) = true
  · rw [if_pos hstream] at h
    exact hcontinue h
  rw [if_neg hstream] at h
  cases hloop : cl.loopMessageResult v with
  | some r =>
    rw [hloop] at h
    obtain rfl := Option.some.inj h
    exact fromMessage_of_loop hloop hd
  | none =>
    rw [hloop] at h
    cases hplain : messagesModeAssistantContent v with
    | some content =>
      rw [hplain] at h
      exact hcontinue h
    | none =>
      rw [hplain] at h
      simp only at h
      split_ifs at h with hpayload hcond
      · obtain rfl := Option.some.inj h
        exact fromMessage_of_payload hcond
      · exact hcontinue h

/-! ## The classifier -/

theorem delivers_of_event (hs : isStatusMessage v = false)
    (ht : v.getStrD "type" = "event" ∨ v.getStrD "type" = "") (hm : (v.get "mode").isSome = true)
    (hd : (cl.processEventMessage fromStr v accumulated none).terminal = .deliverableComplete) :
    Delivers fromStr cl v accumulated (cl.processEventMessage fromStr v accumulated none) := by
  unfold EventClassifier.processEventMessage at hd ⊢
  simp only at hd ⊢
  cases hstep : (normalizeEventData fromStr ((v.get "data").getD .null)).bind
      (cl.stepResult (eventMessageEventType v)) with
  | some r =>
    rw [hstep] at hd
    obtain ⟨dataMap, -, hr⟩ := Option.bind_eq_some_iff.1 hstep
    exact absurd hd (plain_not_deliverable (plain_stepResult hr))
  | none =>
    rw [hstep] at hd
    simp only at hd ⊢
    by_cases hend : (v.getStrD "mode" = "custom" &&
        isTurnEndCustomData ((v.get "data").getD .null)) = true
    · rw [if_pos hend] at hd
      unfold EventClassifier.turnEndResult at hd
      simp only [Option.any_none, Bool.and_false] at hd
      exact absurd hd default_not_deliverable
    rw [if_neg hend] at hd ⊢
    split at hd
    · rename_i r hr
      split_ifs at hr
      exact .message (fromMessage_of_messages hr hd)
    · split at hd
      · exact absurd hd default_not_deliverable
      · rename_i dataMap hdata
        obtain ⟨content, hc, hf⟩ := dataResult_deliverable hd
        have hfinal : cl.FinalData fromStr v dataMap content :=
          ⟨⟨hs, ht, hm, hdata, by rw [hdata] at hstep; exact hstep, Bool.eq_false_iff.2 hend⟩,
            hc, hf⟩
        rcases dataResult_of_content cl (eventMessageEventType v) hc with
          ⟨-, heq⟩ | ⟨hno, -⟩
        · rw [heq]
          exact .data dataMap content hfinal
        · rw [hf] at hno
          cases hno

theorem delivers_of_status
    (hd : (cl.processStatus v accumulated none).terminal = .deliverableComplete) :
    Delivers fromStr cl v accumulated (cl.processStatus v accumulated none) := by
  unfold EventClassifier.processStatus at hd ⊢
  simp only at hd ⊢
  by_cases hcond : (cl.cfg.treatStatusIdleAsComplete &&
      Text.eqIgnoreAsciiCase (v.getStrD "state") "idle" &&
      cl.isSubstantiveAssistantReply accumulated) = true
  · rw [if_pos hcond] at hd ⊢
    by_cases hgate : (cl.cfg.gateTurnEndSignals &&
        !(none : Option TurnLifecycleGate).any (·.allowIdleComplete (frameTurnId v))) = true
    · rw [if_pos hgate] at hd
      exact absurd hd default_not_deliverable
    · rw [if_neg hgate]
      rw [Bool.and_eq_true] at hcond
      exact .idle hcond.2
  · rw [if_neg hcond] at hd
    exact absurd hd default_not_deliverable

/-- **Deliverable results.** -/
theorem delivers_of_classify
    (hd : (cl.classify fromStr msg accumulated).terminal = .deliverableComplete) :
    Delivers fromStr cl (inner msg) accumulated (cl.classify fromStr msg accumulated) := by
  rw [classify_eq] at hd ⊢
  unfold EventClassifier.processChatEvent at hd ⊢
  rw [unwrapNext_eq_inner] at hd ⊢
  simp only at hd ⊢
  by_cases hs : isStatusMessage (inner msg) = true
  · rw [if_pos hs] at hd ⊢
    exact delivers_of_status hd
  rw [if_neg hs] at hd ⊢
  by_cases herr : (inner msg).getStrD "type" = "error"
  · rw [if_pos herr] at hd
    cases hd
  rw [if_neg herr] at hd ⊢
  by_cases hreply : ["response", "next", "complete", "receipt_response"].contains
      ((inner msg).getStrD "type") = true
  · rw [if_pos hreply] at hd
    exact absurd hd default_not_deliverable
  rw [if_neg hreply] at hd ⊢
  by_cases hev : ((inner msg).getStrD "type" = "event" ∨ (inner msg).getStrD "type" = "") ∧
      ((inner msg).get "mode").isSome = true
  · rw [if_pos hev] at hd ⊢
    exact delivers_of_event (Bool.eq_false_iff.2 hs) hev.1 hev.2 hd
  · rw [if_neg hev] at hd
    split at hd
    · cases hd
    · exact absurd hd default_not_deliverable

theorem not_array_of_normalize {data : Json}
    (h : normalizeEventData fromStr data = some dataMap) : data.asArray? = none := by
  cases data with
  | obj | str => rfl
  | null | bool | num | arr => cases h

theorem messagesResult_of_not_array (h : ((v.get "data").getD .null).asArray? = none) :
    cl.messagesResult v ((v.get "data").getD .null) = none := by
  have hfirst := firstMessage_of_not_array h
  have hloop : cl.loopMessageResult v = none := by
    unfold EventClassifier.loopMessageResult
    cases hl : (EventMessage.fromValue v).bind EventMessage.loopAiMessage with
    | none => rfl
    | some loopMsg =>
      obtain ⟨first, hf⟩ := loopFirst_of_loopAiMessage hl
      exact absurd (hfirst.symm.trans hf.head) nofun
  have hplain : messagesModeAssistantContent v = none := by
    unfold messagesModeAssistantContent
    split_ifs with hm
    · rfl
    · cases hd : v.get "data" with
      | none => rfl
      | some data =>
        rw [hd] at hfirst
        rw [Option.bind_some, show firstMessage data = none from hfirst]
  unfold EventClassifier.messagesResult firstMessagePayload
  rw [hfirst, hloop, hplain]
  rfl

/-- An event whose data decide it has the outcome of its data. -/
theorem classify_byData (h : cl.ByData fromStr (inner msg) dataMap) :
    cl.classify fromStr msg accumulated =
      cl.dataResult (eventMessageEventType (inner msg)) dataMap := by
  rw [classify_eq]
  unfold EventClassifier.processChatEvent
  rw [unwrapNext_eq_inner]
  simp only
  rw [h.status, if_neg (by decide)]
  rw [if_neg, if_neg, if_pos ⟨h.type, h.mode⟩]
  · unfold EventClassifier.processEventMessage
    simp only
    rw [h.data, Option.bind_some, h.step, h.turnEnd,
      messagesResult_of_not_array (not_array_of_normalize h.data), ite_self]
    rfl
  · rcases h.type with ht | ht
    · rw [ht]
      decide
    · rw [ht]
      decide
  · rcases h.type with ht | ht
    · rw [ht]
      decide
    · rw [ht]
      decide

theorem classify_finalData (h : cl.FinalData fromStr (inner msg) dataMap content) :
    cl.classify fromStr msg accumulated =
      deliverableResult content (eventName (inner msg) dataMap) := by
  rw [classify_byData h.byData]
  rcases dataResult_of_content cl (eventMessageEventType (inner msg)) h.content with
    ⟨-, heq⟩ | ⟨hno, -⟩
  · exact heq
  · exact absurd (h.final.symm.trans hno) (by decide)

/-! ## Names of completion events -/

/-- The completion events that are no message and no output event. -/
def COMPLETION_EVENTS : List String :=
  ["status.idle", "status.stopped", STREAM_END, "idle_timeout", "query_timeout", "stream_closed",
    EVENT_FINAL_REPORT]

/-- The name is that of a completion event, of a message of a deliverable phase, or of an output
event that responded. -/
def EventClassifier.Resolvable (cl : EventClassifier) (name : String) : Prop :=
  Text.trim name ∈ COMPLETION_EVENTS ∨
  (∃ phase ∈ cl.cfg.deliverablePhases, Text.trim name = "soothe.protocol.message." ++ phase) ∨
  (Text.stripPrefix (Text.trim name) "soothe.protocol.message." = none ∧
    Text.contains (Text.trim name) "soothe.output" = true ∧
    Text.contains (Text.trim name) "responded" = true)

theorem mem_completionEvents {t : String} : t ∈ COMPLETION_EVENTS ↔
    ["status.idle", "status.stopped", STREAM_END, "idle_timeout", "query_timeout",
      "stream_closed"].contains t = true ∨ t = EVENT_FINAL_REPORT := by
  rw [List.contains_iff_mem]
  unfold COMPLETION_EVENTS
  simp only [List.mem_cons, List.not_mem_nil, or_false, or_assoc]

theorem isDeliverableCompletionEvent_iff :
    cl.isDeliverableCompletionEvent name = true ↔ cl.Resolvable name := by
  unfold EventClassifier.isDeliverableCompletionEvent EventClassifier.Resolvable
  rw [mem_completionEvents]
  simp only
  generalize Text.trim name = t
  by_cases hempty : t = ""
  · subst hempty
    refine iff_of_false (by simp) ?_
    rintro ((h | h) | ⟨phase, -, h⟩ | ⟨-, h, -⟩)
    · exact absurd h (by decide)
    · exact absurd h (by decide)
    · have hlen := congrArg String.length h
      rw [String.length_append] at hlen
      rw [show "soothe.protocol.message.".length = 24 by decide,
        show "".length = 0 by decide] at hlen
      omega
    · exact absurd h (by decide)
  rw [if_neg hempty]
  by_cases hfixed : ["status.idle", "status.stopped", STREAM_END, "idle_timeout", "query_timeout",
      "stream_closed"].contains t = true
  · rw [if_pos hfixed]
    exact iff_of_true rfl (Or.inl (Or.inl hfixed))
  rw [if_neg hfixed]
  by_cases hreport : t = EVENT_FINAL_REPORT
  · rw [if_pos hreport]
    exact iff_of_true rfl (Or.inl (Or.inr hreport))
  rw [if_neg hreport]
  have hno : ¬ (["status.idle", "status.stopped", STREAM_END, "idle_timeout", "query_timeout",
      "stream_closed"].contains t = true ∨ t = EVENT_FINAL_REPORT) := not_or.2 ⟨hfixed, hreport⟩
  rw [or_iff_right hno]
  cases hs : Text.stripPrefix t "soothe.protocol.message." with
  | some phase =>
    obtain rfl := Text.stripPrefix_eq_some.1 hs
    simp only
    constructor
    · exact fun h => Or.inl ⟨phase, List.contains_iff_mem.1 h, rfl⟩
    · rintro (⟨phase', hmem, heq⟩ | ⟨hnone, -⟩)
      · obtain rfl := Option.some.inj ((Text.stripPrefix_eq_some.2 heq).symm.trans hs)
        exact List.contains_iff_mem.2 hmem
      · cases hnone
  | none =>
    simp only
    rw [Bool.and_eq_true]
    constructor
    · exact fun h => Or.inr ⟨trivial, h⟩
    · rintro (⟨phase, -, heq⟩ | ⟨-, h⟩)
      · rw [Text.stripPrefix_eq_some.2 heq] at hs
        cases hs
      · exact h

/-- A message of a deliverable phase without white space around it is resolvable. -/
theorem resolvable_message {phase : String} (htrim : Text.trim phase = phase)
    (h : cl.isDeliverableLoopPhase phase = true) :
    cl.Resolvable ("soothe.protocol.message." ++ phase) := by
  refine Or.inr (Or.inl ⟨phase, List.contains_iff_mem.1 h, ?_⟩)
  exact Text.trim_append (by decide) (by decide) htrim

/-- The event is final by its data, under a name that the resolver does not know. -/
def EventClassifier.Unresolvable (fromStr : String → Option Members) (cl : EventClassifier)
    (v : Json) : Prop :=
  ∃ dataMap content, cl.FinalData fromStr v dataMap content ∧ ¬ cl.Resolvable (eventName v dataMap)

/-- What is deliverable under a resolvable name, and not blank, is the final reply. -/
theorem resolve_of_resolvable (hd : result.terminal = .deliverableComplete)
    (hname : cl.isDeliverableCompletionEvent result.completionEvent = true)
    (hc : Text.nonBlank result.content = some text) :
    cl.resolveDeliverableFinalContent result accumulated = some text := by
  unfold EventClassifier.resolveDeliverableFinalContent
  rw [if_neg (not_not.2 hd), hname, if_neg (by decide), hc]

/-- **Deliverable results are resolvable.** With phases that have no white space around them, a
deliverable result has a completion event that the resolver accepts, exactly when the event is not
final by its data under a name of another kind; then a content that is not blank is the reply. -/
theorem deliverable_resolvable (fromStr : String → Option Members) (cl : EventClassifier)
    (msg : Json) (accumulated : String)
    (htrim : ∀ phase ∈ cl.cfg.deliverablePhases, Text.trim phase = phase) :
    ((cl.classify fromStr msg accumulated).terminal = .deliverableComplete →
      cl.isDeliverableCompletionEvent (cl.classify fromStr msg accumulated).completionEvent = true ∧
      ∀ text, Text.nonBlank (cl.classify fromStr msg accumulated).content = some text →
        cl.resolveDeliverableFinalContent (cl.classify fromStr msg accumulated) accumulated =
          some text) ↔
      ¬ cl.Unresolvable fromStr (inner msg) := by
  have hphase : ∀ {phase}, cl.isDeliverableLoopPhase phase = true →
      cl.Resolvable ("soothe.protocol.message." ++ phase) := fun h =>
    resolvable_message (htrim _ (List.contains_iff_mem.1 h)) h
  constructor
  · rintro h ⟨dataMap, content, hfinal, hno⟩
    rw [classify_finalData hfinal] at h
    exact hno (isDeliverableCompletionEvent_iff.1 (h rfl).1)
  · intro hno hd
    have hname : cl.isDeliverableCompletionEvent
        (cl.classify fromStr msg accumulated).completionEvent = true := by
      have hdel := delivers_of_classify hd
      generalize cl.classify fromStr msg accumulated = result at hdel
      rw [isDeliverableCompletionEvent_iff]
      cases hdel with
      | idle =>
        show cl.Resolvable "status.idle"
        exact Or.inl (by decide)
      | message h =>
        cases h with
        | loop _ _ _ _ _ hp => exact hphase hp
        | payload _ _ _ hp => exact hphase hp
      | data dataMap content hfinal =>
        by_contra hname
        exact hno ⟨dataMap, content, hfinal, hname⟩
    exact ⟨hname, fun text hc => resolve_of_resolvable hd hname hc⟩

/-- A bare event with data. -/
def bareEvent (mode : String) (data : Json) : Json := .obj [("mode", .str mode), ("data", data)]

/-- An assistant message of a phase. -/
def phaseMessage (type phase content : String) : Json :=
  .obj [("type", .str type), ("phase", .str phase), ("content", .str content)]

/-- A custom event of a type, with a content. -/
def namedEvent (type content : String) : Json :=
  bareEvent "custom" (.obj [("type", .str type), ("content", .str content)])

/-- The answer of a goal is resolvable. -/
theorem deliverable_resolvable_answer :
    EventClassifier.withDefaults.isDeliverableCompletionEvent
      (EventClassifier.withDefaults.classify (fun _ => none)
        (bareEvent "messages" (.arr [phaseMessage "ai" "goal_completion" "The answer is 42."]))
        "").completionEvent = true := by
  refine ((deliverable_resolvable (fun _ => none) .withDefaults _ "" (by decide +kernel)).2 ?_ ?_).1
  · rintro ⟨dataMap, content, hfinal, -⟩
    exact absurd hfinal.byData.data nofun
  · decide

/-- The output of a phase that has another verb than `responded`. -/
theorem deliverable_resolvable_fails : ¬ ∀ (fromStr : String → Option Members)
    (cl : EventClassifier) (msg : Json) (accumulated : String),
    (∀ phase ∈ cl.cfg.deliverablePhases, Text.trim phase = phase) →
    (cl.classify fromStr msg accumulated).terminal = .deliverableComplete →
    cl.isDeliverableCompletionEvent (cl.classify fromStr msg accumulated).completionEvent =
      true := by
  intro h
  have hname := h (fun _ => none) .withDefaults
    (namedEvent "soothe.output.quiz.delivered" "The answer is 42.") "" (by decide) (by decide +kernel)
  exact absurd hname (by decide +kernel)

/-! ## The length of final replies -/

/-- The event is final by its data under a resolvable name, with a short text that is not blank. -/
def EventClassifier.ShortReply (fromStr : String → Option Members) (cl : EventClassifier)
    (v : Json) : Prop :=
  ∃ dataMap content, cl.FinalData fromStr v dataMap content ∧
    cl.Resolvable (eventName v dataMap) ∧ Text.trim content ≠ "" ∧
    (Text.trim content).length < cl.cfg.minDeliverableRunes

theorem isSubstantive_iff : cl.isSubstantiveAssistantReply text = true ↔
    cl.cfg.minDeliverableRunes ≤ (Text.trim text).length := by
  unfold EventClassifier.isSubstantiveAssistantReply
  rw [decide_eq_true_eq]

/-- A resolved reply is the text of the result, or the accumulated text and long enough. -/
theorem resolve_cases
    (h : cl.resolveDeliverableFinalContent result accumulated = some text) :
    result.terminal = .deliverableComplete ∧
      cl.isDeliverableCompletionEvent result.completionEvent = true ∧
      (Text.nonBlank result.content = some text ∨ cl.isSubstantiveAssistantReply text = true) := by
  unfold EventClassifier.resolveDeliverableFinalContent at h
  by_cases hd : result.terminal = .deliverableComplete
  · rw [if_neg (not_not.2 hd)] at h
    cases hname : cl.isDeliverableCompletionEvent result.completionEvent with
    | false =>
      rw [hname] at h
      cases h
    | true =>
      rw [hname, if_neg (by decide)] at h
      refine ⟨hd, rfl, ?_⟩
      cases hc : Text.nonBlank result.content with
      | some t =>
        rw [hc] at h
        exact Or.inl h
      | none =>
        rw [hc] at h
        cases ha : Text.nonBlank accumulated with
        | none =>
          rw [ha] at h
          cases h
        | some acc =>
          rw [ha] at h
          simp only at h
          split_ifs at h with hs
          exact Or.inr (Option.some.inj h ▸ hs)
  · rw [if_pos hd] at h
    cases h

theorem substantive_of_nonBlank (hs : cl.isSubstantiveAssistantReply content = true)
    (h : Text.nonBlank content = some text) : cl.isSubstantiveAssistantReply text = true := by
  unfold Text.nonBlank at h
  split_ifs at h
  obtain rfl := Option.some.inj h
  rw [isSubstantive_iff, Text.trim_trim]
  exact isSubstantive_iff.1 hs

/-- **Final replies are substantive.** What is resolved has the length that a final reply needs,
exactly when the event is not final by its data with a shorter text. -/
theorem final_reply_substantive (fromStr : String → Option Members) (cl : EventClassifier)
    (msg : Json) (accumulated : String) :
    (∀ text, cl.resolveDeliverableFinalContent (cl.classify fromStr msg accumulated) accumulated =
        some text → cl.cfg.minDeliverableRunes ≤ (Text.trim text).length) ↔
      ¬ cl.ShortReply fromStr (inner msg) := by
  constructor
  · rintro h ⟨dataMap, content, hfinal, hname, hne, hlt⟩
    rw [classify_finalData hfinal] at h
    have hc : Text.nonBlank content = some (Text.trim content) := if_neg hne
    have hlen := h _ (resolve_of_resolvable rfl (isDeliverableCompletionEvent_iff.2 hname) hc)
    rw [Text.trim_trim] at hlen
    omega
  · intro hno text htext
    obtain ⟨hd, hname, hcases⟩ := resolve_cases htext
    rw [← isSubstantive_iff]
    rcases hcases with hc | hs
    · have hdel := delivers_of_classify hd
      generalize cl.classify fromStr msg accumulated = result at hdel hname hc
      cases hdel with
      | idle hs =>
        refine substantive_of_nonBlank ?_ hc
        rw [isSubstantive_iff]
        show _ ≤ (Text.trim (Text.trim accumulated)).length
        rw [Text.trim_trim]
        exact isSubstantive_iff.1 hs
      | message h =>
        cases h with
        | loop _ _ _ _ _ _ hs => exact substantive_of_nonBlank hs hc
        | payload _ _ _ _ hs => exact substantive_of_nonBlank hs hc
      | data dataMap content hfinal =>
        have hc : Text.nonBlank content = some text := hc
        rw [isSubstantive_iff]
        by_contra hlt
        have hne : Text.trim content ≠ "" := fun hblank => by
          rw [show Text.nonBlank content = none from if_pos hblank] at hc
          cases hc
        have htrim : Text.trim text = Text.trim content := by
          obtain rfl := Option.some.inj ((if_neg hne).symm.trans hc)
          exact Text.trim_trim content
        rw [htrim, not_le] at hlt
        exact hno ⟨dataMap, content, hfinal, isDeliverableCompletionEvent_iff.1 hname, hne, hlt⟩
    · exact hs

/-- A short final report is resolved. -/
theorem final_reply_substantive_fails : ¬ ∀ (fromStr : String → Option Members)
    (cl : EventClassifier) (msg : Json) (accumulated text : String),
    cl.resolveDeliverableFinalContent (cl.classify fromStr msg accumulated) accumulated =
      some text → cl.cfg.minDeliverableRunes ≤ (Text.trim text).length := by
  intro h
  have hlen := h (fun _ => none) .withDefaults (namedEvent EVENT_FINAL_REPORT "Done.") "" "Done."
    (by decide +kernel)
  exact absurd hlen (by decide)

end SootheClient.Turn
