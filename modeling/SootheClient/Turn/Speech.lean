import SootheClient.Turn.FilteredText
import SootheClient.Turn.Terminals

/-!
# What a frame says

Whether the classifier takes text or a failure from a frame is read off the frame, by its kind and
the strings it carries. Only an idle status asks for the text collected before.
-/

namespace SootheClient.Turn

open SootheClient.Frame
open Json (Members)
open EventClassifier (continueResult deliverableResult failedResult)

variable {cl : EventClassifier} {fromStr : String → Option Members} {collected ns : String}
  {msg v data : Json} {dataMap : Members} {dataType : String}

/-! ## The text of a frame -/

/-- Names of events whose data is a reply. -/
def REPLY_NAMES : List String :=
  ["soothe.output", "responded", "agent_loop.completed", "agent_loop.reasoned", "loop.completed",
    "final_report"]

/-- Names of events whose data is a delta. -/
def DELTA_NAMES : List String :=
  ["stream", "progress", EVENT_TOOL_CALL_UPDATES_BATCH, EVENT_STREAM_TOOL_CALL_UPDATE]

/-- One of the names is part of the type of the data or of the namespace. -/
def Named (names : List String) (ns : String) (dataMap : Members) : Prop :=
  ∃ name ∈ names, Text.contains (strMember dataMap "type") name = true ∨
    Text.contains ns name = true

/-- A string under one of the content keys, outside the metadata of a subscription. -/
def KeyedText (m : Members) : Prop :=
  isSubscriptionMetadataMap m = false ∧ ∃ key ∈ CONTENT_KEYS, strMember m key ≠ ""

/-- A reply in the data or in data nested in it. -/
def ReplyText (dataMap : Members) : Prop :=
  KeyedText dataMap ∨ (isSubscriptionMetadataMap dataMap = false ∧
    ∃ nested ∈ (dataMap.get "data").bind Json.asObject?, KeyedText nested)

/-- The data of a named event: a reply, an error or a delta. -/
def DataSpeaks (ns : String) (dataMap : Members) : Prop :=
  (Named REPLY_NAMES ns dataMap ∧ ReplyText dataMap) ∨ Named ["soothe.error."] ns dataMap ∨
    (Named DELTA_NAMES ns dataMap ∧ strMember dataMap "delta" ≠ "")

/-- A first message with text of its own, or one whose loop phase lets the typed reader find text
in it. -/
def MessageSpeaks (v data : Json) : Prop :=
  (∃ first ∈ firstMessage data, ownText first ≠ "" ∨ blocksText first ≠ "") ∨
    ∃ loopMsg ∈ (EventMessage.fromValue v).bind EventMessage.loopAiMessage, loopMsg.loopAiText ≠ ""

/-- A replay marker or a thinking step. -/
def IsStep (cl : EventClassifier) (eventType : String) (dataMap : Members) : Prop :=
  let dataType := if strMember dataMap "type" = "" then eventType else strMember dataMap "type"
  dataType = EVENT_LOOP_HISTORY_REPLAYED ∨
    (extractThinkingStep cl.cfg.thinkingStepEvents dataType dataMap).isSome = true

/-- An event that is no step and no terminal, with a message or with data that say something. -/
def EventSpeaks (cl : EventClassifier) (fromStr : String → Option Members) (v : Json) : Prop :=
  let data := (v.get "data").getD .null
  let ns := eventMessageEventType v
  (∀ dataMap ∈ normalizeEventData fromStr data, ¬ IsStep cl ns dataMap) ∧
    ¬ (v.getStrD "mode" = "custom" ∧ isTurnEndCustomData data = true) ∧
    ((v.getStrD "mode" = "messages" ∧ MessageSpeaks v data) ∨
      ∃ dataMap ∈ normalizeEventData fromStr data, DataSpeaks ns dataMap)

/-- An idle status that is taken for a reply while the collected text has white space around it. -/
def IdleSpeaks (cl : EventClassifier) (collected : String) (v : Json) : Prop :=
  cl.cfg.treatStatusIdleAsComplete = true ∧ cl.cfg.gateTurnEndSignals = false ∧
    Text.eqIgnoreAsciiCase (v.getStrD "state") "idle" = true ∧
    cl.cfg.minDeliverableRunes ≤ (Text.trim collected).length ∧ Text.trim collected ≠ collected

/-- The frame carries text or a failure: by its kind a status, an error, a reply to a request, an
event, or a bare error object. -/
def Speaks (cl : EventClassifier) (fromStr : String → Option Members) (collected : String)
    (msg : Json) : Prop :=
  let v := inner msg
  if isStatusMessage v then IdleSpeaks cl collected v
  else if v.getStrD "type" = "error" then True
  else if v.getStrD "type" ∈ ["response", "next", "complete", "receipt_response"] then False
  else if (v.getStrD "type" = "event" ∨ v.getStrD "type" = "") ∧ (v.get "mode").isSome = true then
    EventSpeaks cl fromStr v
  else (v.get "code").isSome = true ∧ (v.get "message").isSome = true

instance (names : List String) (ns : String) (m : Members) : Decidable (Named names ns m) :=
  inferInstanceAs (Decidable (∃ name ∈ names, _ ∨ _))

instance (m : Members) : Decidable (KeyedText m) :=
  inferInstanceAs (Decidable (_ ∧ ∃ key ∈ CONTENT_KEYS, _))

instance (m : Members) : Decidable (ReplyText m) :=
  inferInstanceAs (Decidable (_ ∨ (_ ∧ ∃ nested ∈ (m.get "data").bind Json.asObject?, _)))

instance (ns : String) (m : Members) : Decidable (DataSpeaks ns m) :=
  inferInstanceAs (Decidable ((_ ∧ _) ∨ _ ∨ (_ ∧ _)))

instance (v data : Json) : Decidable (MessageSpeaks v data) :=
  inferInstanceAs (Decidable ((∃ first ∈ firstMessage data, _) ∨
    ∃ loopMsg ∈ (EventMessage.fromValue v).bind EventMessage.loopAiMessage, _))

instance (eventType : String) (m : Members) : Decidable (IsStep cl eventType m) :=
  inferInstanceAs (Decidable (_ ∨ _))

instance (v : Json) : Decidable (EventSpeaks cl fromStr v) :=
  inferInstanceAs (Decidable ((∀ m ∈ normalizeEventData fromStr ((v.get "data").getD .null), _) ∧
    ¬ (_ ∧ _) ∧ ((_ ∧ _) ∨ ∃ m ∈ normalizeEventData fromStr ((v.get "data").getD .null), _)))

instance (v : Json) : Decidable (IdleSpeaks cl collected v) :=
  inferInstanceAs (Decidable (_ ∧ _ ∧ _ ∧ _ ∧ _))

instance (msg : Json) : Decidable (Speaks cl fromStr collected msg) :=
  inferInstanceAs (Decidable (ite _ (IdleSpeaks cl collected (inner msg)) (ite _ True (ite _ False
    (ite _ (EventSpeaks cl fromStr (inner msg)) (_ ∧ _))))))

/-! ## The classifier -/

/-- A result that fails the turn or has text. -/
def Loud (result : ChatEventResult) : Prop :=
  result.terminal = .failedComplete ∨ result.content ≠ ""

theorem strMember_eq {m : Members} {key : String} (h : strMember m key ≠ "") :
    ((m.get key).bind Json.asStr?).filter (· ≠ "") = some (strMember m key) := by
  unfold strMember at h ⊢
  cases hs : (m.get key).bind Json.asStr? with
  | none =>
    rw [hs] at h
    exact absurd rfl h
  | some s =>
    rw [hs] at h
    exact Option.filter_eq_some_iff.2 ⟨rfl, decide_eq_true h⟩

theorem strMember_eq_empty {m : Members} {key : String} (h : strMember m key = "") :
    ((m.get key).bind Json.asStr?).filter (· ≠ "") = none := by
  unfold strMember at h
  cases hs : (m.get key).bind Json.asStr? with
  | none => rfl
  | some s =>
    rw [hs] at h
    simpa using h

theorem firstContent_ne_none {m : Members} :
    firstContent m ≠ none ↔ ∃ key ∈ CONTENT_KEYS, strMember m key ≠ "" := by
  unfold firstContent
  rw [ne_eq, List.findSome?_eq_none_iff, not_forall]
  refine exists_congr fun key => ?_
  rw [Classical.not_imp]
  refine and_congr_right fun _ => ⟨fun h hs => h (strMember_eq_empty hs), fun h hs => ?_⟩
  rw [strMember_eq h] at hs
  cases hs

theorem firstContent_nonempty {m : Members} {s : String} (h : firstContent m = some s) : s ≠ "" := by
  obtain ⟨key, -, hkey⟩ := List.exists_of_findSome?_eq_some h
  have hfilter := (Option.filter_eq_some_iff.1 hkey).2
  simpa using hfilter

theorem extractContentFromData_ne_none :
    extractContentFromData dataMap ≠ none ↔ ReplyText dataMap := by
  unfold extractContentFromData ReplyText KeyedText
  by_cases hmeta : isSubscriptionMetadataMap dataMap = true
  · simp [hmeta]
  · rw [if_neg hmeta, Bool.not_eq_true] at *
    rw [← firstContent_ne_none]
    cases hf : firstContent dataMap with
    | some s => simp [hmeta]
    | none =>
      simp only
      cases hn : (dataMap.get "data").bind Json.asObject? with
      | none => simp
      | some nested =>
        by_cases hm : isSubscriptionMetadataMap nested = true
        · simp [hm, hmeta]
        · rw [Bool.not_eq_true] at hm
          simp [hm, hmeta, ← firstContent_ne_none]

theorem extractContentFromData_nonempty {s : String} (h : extractContentFromData dataMap = some s) :
    s ≠ "" := by
  unfold extractContentFromData at h
  split_ifs at h with hmeta
  cases hf : firstContent dataMap with
  | some content =>
    rw [hf] at h
    obtain rfl := Option.some.inj h
    exact firstContent_nonempty hf
  | none =>
    rw [hf] at h
    cases hn : (dataMap.get "data").bind Json.asObject? with
    | none =>
      rw [hn] at h
      cases h
    | some nested =>
      rw [hn] at h
      simp only at h
      split_ifs at h
      exact firstContent_nonempty h

/-! ### Data -/

theorem isMatch_iff {names : List String} :
    names.any (isNamespaceMatch ns (strMember dataMap "type")) = true ↔ Named names ns dataMap := by
  unfold Named isNamespaceMatch
  rw [List.any_eq_true]
  refine exists_congr fun name => and_congr_right fun _ => ?_
  rw [Bool.or_eq_true]

theorem loud_continue {s : String} (h : s ≠ "") : Loud (continueResult s) := Or.inr h

theorem loud_deliverable {s e : String} (h : s ≠ "") : Loud (deliverableResult s e) := Or.inr h

theorem terminal_errorEvent :
    (EventClassifier.errorEventResult ns dataType dataMap).terminal = .failedComplete := by
  unfold EventClassifier.errorEventResult
  simp only
  by_cases hm : strMember dataMap "message" ≠ ""
  · rw [if_pos hm]
    rfl
  · rw [if_neg hm]
    cases extractContentFromData dataMap <;> rfl

theorem named_reply : Named REPLY_NAMES ns dataMap ↔
    (isNamespaceMatch ns (strMember dataMap "type") "soothe.output" ||
      isNamespaceMatch ns (strMember dataMap "type") "responded") = true ∨
    (isNamespaceMatch ns (strMember dataMap "type") "agent_loop.completed" ||
      isNamespaceMatch ns (strMember dataMap "type") "agent_loop.reasoned" ||
      isNamespaceMatch ns (strMember dataMap "type") "loop.completed") = true ∨
    isNamespaceMatch ns (strMember dataMap "type") "final_report" = true := by
  rw [← isMatch_iff]
  simp only [REPLY_NAMES, List.any_cons, List.any_nil, Bool.or_false, Bool.or_eq_true, or_assoc]

theorem named_error : Named ["soothe.error."] ns dataMap ↔
    (Text.contains (strMember dataMap "type") "soothe.error." ||
      Text.contains ns "soothe.error.") = true := by
  unfold Named
  simp only [List.mem_singleton, exists_eq_left, Bool.or_eq_true]

theorem named_delta : Named DELTA_NAMES ns dataMap ↔
    (isNamespaceMatch ns (strMember dataMap "type") "stream" ||
      isNamespaceMatch ns (strMember dataMap "type") "progress" ||
      isNamespaceMatch ns (strMember dataMap "type") EVENT_TOOL_CALL_UPDATES_BATCH ||
      isNamespaceMatch ns (strMember dataMap "type") EVENT_STREAM_TOOL_CALL_UPDATE) = true := by
  rw [← isMatch_iff]
  simp only [DELTA_NAMES, List.any_cons, List.any_nil, Bool.or_false, Bool.or_eq_true, or_assoc]

/-- Data that is no reply: an error, a delta, or nothing. -/
theorem dataResult_of_no_reply (h : ¬ (Named REPLY_NAMES ns dataMap ∧ ReplyText dataMap)) :
    cl.dataResult ns dataMap =
      if Named ["soothe.error."] ns dataMap then
        EventClassifier.errorEventResult ns (strMember dataMap "type") dataMap
      else if Named DELTA_NAMES ns dataMap then continueResult (strMember dataMap "delta")
      else {} := by
  unfold EventClassifier.dataResult
  simp only
  have hnone : ∀ cond : Bool, (cond = true → Named REPLY_NAMES ns dataMap) →
      (if cond = true then extractContentFromData dataMap else none) = none := by
    intro cond hcond
    by_cases hc : cond = true
    · rw [if_pos hc, ← not_ne_iff, ne_eq]
      exact fun hx => h ⟨hcond hc, extractContentFromData_ne_none.1 hx⟩
    · exact if_neg hc
  rw [hnone _ fun hc => named_reply.2 (Or.inl hc),
    hnone _ fun hc => named_reply.2 (Or.inr (Or.inl hc)),
    hnone _ fun hc => named_reply.2 (Or.inr (Or.inr hc))]
  simp only [← named_error, ← named_delta]
  split_ifs
  · rfl
  · unfold strMember
    cases (dataMap.get "delta").bind Json.asStr? <;> rfl
  · rfl

/-- A reply in named data is collected or delivered. -/
theorem loud_of_reply (hn : Named REPLY_NAMES ns dataMap) (ht : ReplyText dataMap) :
    Loud (cl.dataResult ns dataMap) := by
  obtain ⟨content, hc⟩ := Option.ne_none_iff_exists'.1 (extractContentFromData_ne_none.2 ht)
  have hne : content ≠ "" := extractContentFromData_nonempty hc
  unfold EventClassifier.dataResult
  simp only [hc]
  by_cases houtput : (isNamespaceMatch ns (strMember dataMap "type") "soothe.output" ||
      isNamespaceMatch ns (strMember dataMap "type") "responded") = true
  · rw [if_pos houtput]
    simp only
    by_cases hfinal : cl.isFinalOutputEvent (strMember dataMap "type") ns = true
    · rw [if_pos hfinal]
      exact loud_deliverable hne
    · rw [if_neg hfinal]
      exact loud_continue hne
  rw [if_neg houtput]
  by_cases hloop : (isNamespaceMatch ns (strMember dataMap "type") "agent_loop.completed" ||
      isNamespaceMatch ns (strMember dataMap "type") "agent_loop.reasoned" ||
      isNamespaceMatch ns (strMember dataMap "type") "loop.completed") = true
  · rw [if_pos hloop]
    exact loud_continue hne
  rw [if_neg hloop, if_pos (((named_reply.1 hn).resolve_left houtput).resolve_left hloop)]
  exact loud_deliverable hne

/-- Data is loud when it speaks. -/
theorem loud_of_data (h : DataSpeaks ns dataMap) : Loud (cl.dataResult ns dataMap) := by
  by_cases hreply : Named REPLY_NAMES ns dataMap ∧ ReplyText dataMap
  · exact loud_of_reply hreply.1 hreply.2
  rw [dataResult_of_no_reply hreply]
  by_cases herr : Named ["soothe.error."] ns dataMap
  · rw [if_pos herr]
    exact Or.inl terminal_errorEvent
  obtain ⟨hdelta, hne⟩ := (h.resolve_left hreply).resolve_left herr
  rw [if_neg herr, if_pos hdelta]
  exact loud_continue hne

theorem plain_of_data (h : ¬ DataSpeaks ns dataMap) : Plain (cl.dataResult ns dataMap) := by
  unfold DataSpeaks at h
  rw [not_or, not_or] at h
  rw [dataResult_of_no_reply h.1, if_neg h.2.1]
  split_ifs with hdelta
  · exact ⟨not_ne_iff.1 fun hne => h.2.2 ⟨hdelta, hne⟩, rfl⟩
  · exact plain_default

/-! ### Messages -/

/-- The raw reader finds text in the first message. -/
theorem rawText_iff :
    ((firstMessagePayload data).2.2.2 && decide ((firstMessagePayload data).2.1 ≠ "")) = true ↔
      ∃ first ∈ firstMessage data, ownText first ≠ "" ∨ blocksText first ≠ "" := by
  unfold firstMessagePayload
  cases firstMessage data with
  | none => simp
  | some m => simpa using extract_ne_empty_iff

theorem loopMessageResult_none : cl.loopMessageResult v = none ↔
    ∀ loopMsg ∈ (EventMessage.fromValue v).bind EventMessage.loopAiMessage,
      loopMsg.loopAiText = "" := by
  unfold EventClassifier.loopMessageResult
  cases (EventMessage.fromValue v).bind EventMessage.loopAiMessage with
  | none => simp
  | some loopMsg =>
    simp only [Option.mem_def, Option.some.injEq, forall_eq']
    by_cases ht : loopMsg.loopAiText = ""
    · rw [if_pos ht]
      exact ⟨fun _ => ht, fun _ => rfl⟩
    · rw [if_neg ht]
      refine ⟨fun h => ?_, fun h => absurd h ht⟩
      split_ifs at h
      cases hp : loopMsg.phase with
      | none =>
        rw [hp] at h
        cases h
      | some phase =>
        rw [hp] at h
        simp only at h
        split_ifs at h

theorem loud_loopMessage {result : ChatEventResult} (h : cl.loopMessageResult v = some result) :
    Loud result := by
  unfold EventClassifier.loopMessageResult at h
  cases hl : (EventMessage.fromValue v).bind EventMessage.loopAiMessage with
  | none =>
    rw [hl] at h
    cases h
  | some loopMsg =>
    rw [hl] at h
    simp only at h
    split_ifs at h with ht hs
    · obtain rfl := Option.some.inj h
      exact loud_continue ht
    · cases hp : loopMsg.phase with
      | none =>
        rw [hp] at h
        obtain rfl := Option.some.inj h
        exact loud_continue ht
      | some phase =>
        rw [hp] at h
        simp only at h
        split_ifs at h
        · obtain rfl := Option.some.inj h
          exact loud_deliverable ht
        · obtain rfl := Option.some.inj h
          exact loud_continue ht

/-- A message that says nothing does not decide the outcome. -/
theorem messagesResult_eq_none
    (hdata : (v.get "data").getD .null = data) (h : ¬ MessageSpeaks v data) :
    cl.messagesResult v data = none := by
  unfold MessageSpeaks at h
  rw [not_or] at h
  have hraw := mt rawText_iff.1 h.1
  have hloop : cl.loopMessageResult v = none := loopMessageResult_none.2 fun loopMsg hl =>
    by_contra fun ht => h.2 ⟨loopMsg, hl, ht⟩
  have hcontent : messagesModeAssistantContent v = none := by
    unfold messagesModeAssistantContent
    cases hd : v.get "data" with
    | none => simp
    | some d =>
      obtain rfl : d = data := by rw [← hdata, hd]; rfl
      rw [Option.bind_some]
      cases hf : firstMessage d with
      | none => simp
      | some first =>
        have hempty : extractContentFromMessage first = "" := by
          by_contra hne
          exact h.1 ⟨first, hf, extract_ne_empty_iff.1 hne⟩
        simp only [hempty]
        split_ifs <;> rfl
  unfold EventClassifier.messagesResult
  generalize firstMessagePayload data = payload at hraw
  obtain ⟨msgType, raw, phase, has⟩ := payload
  simp only at hraw
  simp only [hloop, hcontent]
  rw [if_neg hraw, if_neg fun hc => hraw (Bool.and_eq_true_iff.1 hc).1]

/-- A message is loud when it speaks. -/
theorem loud_of_message (cl : EventClassifier) (h : MessageSpeaks v data) :
    ∃ result, cl.messagesResult v data = some result ∧ Loud result := by
  have hspeaks : ((firstMessagePayload data).2.2.2 &&
      decide ((firstMessagePayload data).2.1 ≠ "")) = true ∨ cl.loopMessageResult v ≠ none := by
    rcases h with hraw | ⟨loopMsg, hl, ht⟩
    · exact Or.inl (rawText_iff.2 hraw)
    · exact Or.inr fun hnone => ht (loopMessageResult_none.1 hnone loopMsg hl)
  unfold EventClassifier.messagesResult
  generalize firstMessagePayload data = payload at hspeaks
  obtain ⟨msgType, raw, phase, has⟩ := payload
  simp only at hspeaks ⊢
  by_cases hstream : (has && decide (raw ≠ "") && isStreamingMessageType msgType) = true
  · rw [if_pos hstream]
    rw [Bool.and_eq_true, Bool.and_eq_true, decide_eq_true_eq] at hstream
    exact ⟨_, rfl, loud_continue hstream.1.2⟩
  rw [if_neg hstream]
  cases hl : cl.loopMessageResult v with
  | some result => exact ⟨result, rfl, loud_loopMessage hl⟩
  | none =>
    have hraw := hspeaks.resolve_right fun hn => hn hl
    cases hc : messagesModeAssistantContent v with
    | some content =>
      refine ⟨_, rfl, loud_continue ?_⟩
      unfold messagesModeAssistantContent at hc
      split_ifs at hc
      cases hf : (v.get "data").bind firstMessage with
      | none =>
        rw [hf] at hc
        cases hc
      | some first =>
        rw [hf] at hc
        simp only at hc
        split_ifs at hc
        exact (Text.trimmed_of_nonBlank hc).2
    | none =>
      simp only
      rw [if_pos hraw]
      rw [Bool.and_eq_true, decide_eq_true_eq] at hraw
      by_cases hdel : ((isTerminalMessageType msgType || decide (msgType = "")) &&
          cl.isDeliverableLoopPhase phase && cl.isSubstantiveAssistantReply raw) = true
      · rw [if_pos hdel]
        exact ⟨_, rfl, loud_deliverable hraw.2⟩
      · rw [if_neg hdel]
        exact ⟨_, rfl, loud_continue hraw.2⟩

/-! ### Events and frames -/

theorem stepResult_of_not_step (h : ¬ IsStep cl ns dataMap) : cl.stepResult ns dataMap = none := by
  unfold IsStep at h
  unfold EventClassifier.stepResult
  simp only at h ⊢
  rw [not_or, Bool.not_eq_true, Option.isSome_eq_false_iff, Option.isNone_iff_eq_none] at h
  rw [if_neg h.1, h.2]
  rfl

/-- A step decides the outcome, and is plain. -/
theorem plain_of_step (h : IsStep cl ns dataMap) :
    ∃ result, cl.stepResult ns dataMap = some result ∧ Plain result := by
  have hsome : ∃ result, cl.stepResult ns dataMap = some result := by
    unfold IsStep at h
    unfold EventClassifier.stepResult
    simp only at h ⊢
    by_cases hr : (if strMember dataMap "type" = "" then ns else strMember dataMap "type") =
        EVENT_LOOP_HISTORY_REPLAYED
    · exact ⟨_, if_pos hr⟩
    · rw [if_neg hr]
      obtain ⟨step, hstep⟩ := Option.isSome_iff_exists.1 (h.resolve_left hr)
      rw [hstep]
      exact ⟨_, rfl⟩
  obtain ⟨result, hresult⟩ := hsome
  exact ⟨result, hresult, plain_stepResult hresult⟩

theorem bind_stepResult (h : ∀ dataMap ∈ normalizeEventData fromStr data, ¬ IsStep cl ns dataMap) :
    (normalizeEventData fromStr data).bind (cl.stepResult ns) = none := by
  cases hm : normalizeEventData fromStr data with
  | none => rfl
  | some dataMap => exact stepResult_of_not_step (h dataMap hm)

theorem messagesResult_of_mode
    (h : ¬ (v.getStrD "mode" = "messages" ∧ MessageSpeaks v ((v.get "data").getD .null))) :
    (if v.getStrD "mode" = "messages" then cl.messagesResult v ((v.get "data").getD .null)
      else none) = none := by
  split_ifs with hmode
  · exact messagesResult_eq_none rfl fun hs => h ⟨hmode, hs⟩
  · rfl

/-- An event is loud when it speaks. -/
theorem loud_of_event (h : EventSpeaks cl fromStr v) :
    Loud (cl.processEventMessage fromStr v collected none) := by
  obtain ⟨hstep, hend, hspeaks⟩ := h
  unfold EventClassifier.processEventMessage
  simp only [bind_stepResult hstep]
  rw [if_neg (by simpa using hend)]
  by_cases hmessage : v.getStrD "mode" = "messages" ∧ MessageSpeaks v ((v.get "data").getD .null)
  · obtain ⟨result, hresult, hloud⟩ := loud_of_message cl hmessage.2
    rw [if_pos hmessage.1, hresult]
    exact hloud
  · obtain ⟨dataMap, hm, hdata⟩ := hspeaks.resolve_left hmessage
    rw [messagesResult_of_mode hmessage,
      show normalizeEventData fromStr ((v.get "data").getD .null) = some dataMap from hm]
    exact loud_of_data hdata

theorem plain_of_event (h : ¬ EventSpeaks cl fromStr v) :
    Plain (cl.processEventMessage fromStr v collected none) := by
  by_cases hend : v.getStrD "mode" = "custom" ∧
      isTurnEndCustomData ((v.get "data").getD .null) = true
  · exact plain_turnEndEvent hend.1 hend.2
  unfold EventClassifier.processEventMessage
  simp only
  by_cases hstep : ∀ dataMap ∈ normalizeEventData fromStr ((v.get "data").getD .null),
      ¬ IsStep cl (eventMessageEventType v) dataMap
  · have hquiet := not_or.1 fun hs => h ⟨hstep, hend, hs⟩
    rw [bind_stepResult hstep, if_neg (by simpa using hend), messagesResult_of_mode hquiet.1]
    cases hm : normalizeEventData fromStr ((v.get "data").getD .null) with
    | none => exact plain_default
    | some dataMap => exact plain_of_data fun hs => hquiet.2 ⟨dataMap, hm, hs⟩
  · push Not at hstep
    obtain ⟨dataMap, hm, hs⟩ := hstep
    obtain ⟨result, hresult, hplain⟩ := plain_of_step hs
    rw [show normalizeEventData fromStr ((v.get "data").getD .null) = some dataMap from hm,
      Option.bind_some, hresult]
    exact hplain

theorem processStatus_eq : cl.processStatus v collected none =
    if cl.cfg.treatStatusIdleAsComplete = true ∧ cl.cfg.gateTurnEndSignals = false ∧
        Text.eqIgnoreAsciiCase (v.getStrD "state") "idle" = true ∧
        cl.cfg.minDeliverableRunes ≤ (Text.trim collected).length then
      deliverableResult (Text.trim collected) "status.idle"
    else {} := by
  unfold EventClassifier.processStatus EventClassifier.isSubstantiveAssistantReply
  cases cl.cfg.treatStatusIdleAsComplete <;> cases cl.cfg.gateTurnEndSignals <;> simp

/-- **Frames that speak.** They fail the turn or have text for it. -/
theorem loud_of_speaks (h : Speaks cl fromStr collected msg) :
    Loud (cl.classify fromStr msg collected) := by
  unfold Speaks at h
  rw [classify_eq]
  unfold EventClassifier.processChatEvent
  rw [unwrapNext_eq_inner]
  simp only at h ⊢
  by_cases hs : isStatusMessage (inner msg) = true
  · rw [if_pos hs] at h ⊢
    obtain ⟨hflag, hgate, hidle, hlen, -⟩ := h
    rw [processStatus_eq, if_pos ⟨hflag, hgate, hidle, hlen⟩]
    refine loud_deliverable fun hempty => ?_
    rw [hempty] at hlen
    exact absurd cl.runes_pos (Nat.not_lt.2 hlen)
  rw [if_neg hs] at h ⊢
  by_cases he : (inner msg).getStrD "type" = "error"
  · rw [if_pos he]
    exact Or.inl rfl
  rw [if_neg he] at h ⊢
  by_cases hr : (inner msg).getStrD "type" ∈ ["response", "next", "complete", "receipt_response"]
  · rw [if_pos hr] at h
    exact h.elim
  rw [if_neg hr] at h
  rw [if_neg (by simpa using hr)]
  by_cases hm : ((inner msg).getStrD "type" = "event" ∨ (inner msg).getStrD "type" = "") ∧
      ((inner msg).get "mode").isSome = true
  · rw [if_pos hm] at h ⊢
    exact loud_of_event h
  rw [if_neg hm] at h ⊢
  obtain ⟨code, hcode⟩ := Option.isSome_iff_exists.1 h.1
  obtain ⟨message, hmessage⟩ := Option.isSome_iff_exists.1 h.2
  rw [hcode, hmessage]
  exact Or.inl rfl

/-- **Frames that say nothing.** The classifier is plain about them, or an idle status repeats the
collected text to the letter. -/
theorem plain_of_not_speaks (h : ¬ Speaks cl fromStr collected msg) :
    Plain (cl.classify fromStr msg collected) ∨
      cl.classify fromStr msg collected = deliverableResult collected "status.idle" := by
  unfold Speaks at h
  rw [classify_eq]
  unfold EventClassifier.processChatEvent
  rw [unwrapNext_eq_inner]
  simp only at h ⊢
  by_cases hs : isStatusMessage (inner msg) = true
  · rw [if_pos hs] at h ⊢
    rw [processStatus_eq]
    split_ifs with hidle
    · right
      obtain ⟨hflag, hgate, hstate, hlen⟩ := hidle
      rw [not_ne_iff.1 fun hne => h ⟨hflag, hgate, hstate, hlen, hne⟩]
    · exact Or.inl plain_default
  rw [if_neg hs] at h ⊢
  left
  by_cases he : (inner msg).getStrD "type" = "error"
  · rw [if_pos he] at h
    exact absurd trivial h
  rw [if_neg he] at h ⊢
  by_cases hr : (inner msg).getStrD "type" ∈ ["response", "next", "complete", "receipt_response"]
  · rw [if_pos (by simpa using hr)]
    exact plain_default
  rw [if_neg hr] at h
  rw [if_neg (by simpa using hr)]
  by_cases hm : ((inner msg).getStrD "type" = "event" ∨ (inner msg).getStrD "type" = "") ∧
      ((inner msg).get "mode").isSome = true
  · rw [if_pos hm] at h ⊢
    exact plain_of_event h
  rw [if_neg hm] at h ⊢
  cases hcode : (inner msg).get "code" with
  | none => exact plain_default
  | some code =>
    cases hmessage : (inner msg).get "message" with
    | none => exact plain_default
    | some message =>
      rw [hcode, hmessage] at h
      exact absurd ⟨rfl, rfl⟩ h

end SootheClient.Turn
