import SootheClient.Turn.Deliverable

/-!
# Messages that finish a turn

In the `messages` mode the first item of the data decides. It is read twice: by the typed reader,
which asks for its phase, and by the raw one, which asks for its type as well.
-/

namespace SootheClient.Turn

open SootheClient.Frame
open Json (Members)
open EventClassifier (deliverableResult continueResult)

variable {fromStr : String → Option Members} {cl : EventClassifier} {msg v : Json}
  {accumulated : String} {items : List Json} {first : Members} {result : ChatEventResult}

/-- The types of assistant messages; a type that is no string counts as absent. -/
def ASSISTANT_TYPES : List String := ["", "AIMessage", "ai", "assistant"]

/-- The text of the `content` of a message, as the typed reader finds it. -/
def contentText (first : Members) : String :=
  LoopAIMessage.loopAiText { type := none, content := first.get "content", phase := none }

/-- An assistant message of a deliverable phase is first, and its text is the content. -/
structure FromAssistant (cl : EventClassifier) (first : Members) (result : ChatEventResult) :
    Prop where
  type : strMember first "type" ∈ ASSISTANT_TYPES
  phase : strMember first "phase" ∈ cl.cfg.deliverablePhases
  content : result.content = contentText first ∨ result.content = extractContentFromMessage first
  length : cl.cfg.minDeliverableRunes ≤ (Text.trim result.content).length

/-- A message of another type, which is no chunk, is tagged with a loop phase that is deliverable,
and its text is long enough; the frame is well typed. -/
structure ForeignMessage (cl : EventClassifier) (v : Json) (first : Members) : Prop where
  type : strMember first "type" ∉ ASSISTANT_TYPES
  chunk : isStreamingMessageType (strMember first "type") = false
  frame : (EventMessage.fromValue v).isSome = true
  tagged : isLoopAssistantPhase (strMember first "phase") = true
  phase : strMember first "phase" ∈ cl.cfg.deliverablePhases
  length : cl.cfg.minDeliverableRunes ≤ (Text.trim (contentText first)).length

/-- An event in the `messages` mode with the items. -/
structure MessagesEvent (v : Json) (items : List Json) : Prop where
  type : v.getStrD "type" = "event" ∨ v.getStrD "type" = ""
  mode : v.getStr "mode" = some "messages"
  data : v.get "data" = some (.arr items)

theorem loopAiText_eq {loopMsg : LoopAIMessage} (h : loopMsg.content = first.get "content") :
    loopMsg.loopAiText = contentText first := by
  unfold contentText LoopAIMessage.loopAiText
  rw [h]

theorem mem_assistantTypes {t : String} :
    t ∈ ASSISTANT_TYPES ↔ isTerminalMessageType t = true ∨ t = "" := by
  unfold ASSISTANT_TYPES isTerminalMessageType
  rw [List.contains_iff_mem, List.mem_cons, or_comm]

/-- The type that the typed reader sees: an assistant's when there is none. -/
theorem loopType_eq (first : Members) :
    ((first.get "type").bind Json.asStr?).getD "ai" = strMember first "type" ∨
    strMember first "type" = "" := by
  unfold strMember
  cases (first.get "type").bind Json.asStr? with
  | none => exact Or.inr rfl
  | some t => exact Or.inl rfl

namespace MessagesEvent

theorem getD (h : MessagesEvent v items) : (v.get "data").getD .null = .arr items := by
  rw [h.data]
  rfl

theorem modeD (h : MessagesEvent v items) : v.getStrD "mode" = "messages" := by
  unfold Json.getStrD
  rw [h.mode]
  rfl

theorem hasMode (h : MessagesEvent v items) : (v.get "mode").isSome = true := by
  have hm := h.mode
  unfold Json.getStr at hm
  cases hg : v.get "mode" with
  | none =>
    rw [hg] at hm
    cases hm
  | some mode => rfl

theorem not_status (h : MessagesEvent v items) : isStatusMessage v = false := by
  unfold isStatusMessage
  rw [Bool.or_eq_false_iff, decide_eq_false_iff_not]
  constructor
  · intro ht
    have htype := h.type
    unfold Json.getStrD at htype
    rw [ht] at htype
    rcases htype with htype | htype
    · exact absurd htype (by decide)
    · exact absurd htype (by decide)
  · have hm := h.hasMode
    cases hg : v.get "mode" with
    | none =>
      rw [hg] at hm
      cases hm
    | some mode => rw [Option.isNone_some, Bool.and_false]

/-- The first message decides the outcome of the event. -/
theorem classify_eq_messages (h : MessagesEvent (inner msg) items) :
    cl.classify fromStr msg accumulated =
      (cl.messagesResult (inner msg) (.arr items)).getD {} := by
  rw [classify_eq]
  unfold EventClassifier.processChatEvent
  rw [unwrapNext_eq_inner]
  simp only
  rw [h.not_status, if_neg (by decide), if_neg, if_neg, if_pos ⟨h.type, h.hasMode⟩]
  · unfold EventClassifier.processEventMessage
    simp only
    have hnone : normalizeEventData fromStr (.arr items) = none := rfl
    rw [h.getD, h.modeD, hnone, Option.bind_none]
    simp only
    rw [show decide ("messages" = "custom") = false by decide, Bool.false_and,
      if_neg Bool.false_ne_true, if_pos trivial]
    cases cl.messagesResult (inner msg) (.arr items) with
    | some r => rfl
    | none => rfl
  · rcases h.type with ht | ht
    · rw [ht]
      decide
    · rw [ht]
      decide
  · rcases h.type with ht | ht
    · rw [ht]
      decide
    · rw [ht]
      decide

end MessagesEvent

/-- The typed reader finds a first message that has a loop phase. -/
theorem loopAiMessage_of_first (h : MessagesEvent v items) {em : EventMessage}
    (hem : EventMessage.fromValue v = some em) (hfirst : firstMessage (.arr items) = some first)
    (htag : isLoopAssistantPhase (strMember first "phase") = true) :
    (EventMessage.fromValue v).bind EventMessage.loopAiMessage = some
      { type := some (((first.get "type").bind Json.asStr?).getD "ai")
        content := first.get "content"
        phase := some (strMember first "phase") } := by
  have hmode : em.mode = some "messages" := by
    have hm := h.mode
    unfold EventMessage.fromValue at hem
    simp only [Option.bind_eq_bind, Option.bind_eq_some_iff] at hem
    obtain ⟨m, hobj, _, -, _, -, _, -, mode, hmode, _, -, heq⟩ := hem
    obtain rfl := Option.some.inj heq
    unfold Json.getStr Json.get at hm
    rw [hobj, Option.bind_some] at hm
    unfold optStr at hmode
    split at hmode
    · rename_i hnone
      rw [hnone] at hm
      cases hm
    · rename_i hnull
      rw [hnull] at hm
      cases hm
    · rename_i s hs
      rw [hs] at hm
      rw [← Option.some.inj hmode]
      exact hm
    · cases hmode
  have hitems : em.data.bind Json.asArray? = some items := by
    rw [fromValue_data hem, h.data]
    rfl
  obtain ⟨item, hhead, hobj⟩ := Option.bind_eq_some_iff.1 hfirst
  have hne : strMember first "phase" ≠ "" := by
    intro hblank
    rw [hblank] at htag
    exact absurd htag (by decide)
  rw [hem, Option.bind_some]
  unfold EventMessage.loopAiMessage
  rw [if_neg (not_not.2 hmode)]
  simp only [Option.bind_eq_bind, hitems, Option.bind_some]
  rw [show items.head? = some item from hhead, Option.bind_some, hobj, Option.bind_some]
  unfold strMember at htag hne
  rw [if_neg hne, htag]
  rfl

/-- A foreign message with a loop phase is delivered by the typed reader. -/
theorem messagesResult_of_foreign (h : MessagesEvent v items)
    (hfirst : firstMessage (.arr items) = some first) (hf : ForeignMessage cl v first) :
    cl.messagesResult v (.arr items) = some (deliverableResult (contentText first)
      ("soothe.protocol.message." ++ strMember first "phase")) := by
  obtain ⟨em, hem⟩ := Option.isSome_iff_exists.1 hf.frame
  have htype : ((first.get "type").bind Json.asStr?).getD "ai" = strMember first "type" := by
    rcases loopType_eq first with heq | hblank
    · exact heq
    · exact absurd (mem_assistantTypes.2 (Or.inr hblank)) hf.type
  have hempty : contentText first ≠ "" := by
    intro hblank
    have hlen := hf.length
    rw [hblank, show (Text.trim "").length = 0 by decide] at hlen
    exact absurd cl.runes_pos (Nat.not_lt.2 hlen)
  have hloop : cl.loopMessageResult v = some (deliverableResult (contentText first)
      ("soothe.protocol.message." ++ strMember first "phase")) := by
    unfold EventClassifier.loopMessageResult
    rw [loopAiMessage_of_first h hem hfirst hf.tagged]
    simp only
    rw [loopAiText_eq rfl, if_neg hempty, Option.getD_some, htype, hf.chunk, if_neg (by decide),
      if_pos]
    · rfl
    · rw [Bool.and_eq_true, isSubstantive_iff]
      exact ⟨List.contains_iff_mem.2 hf.phase, hf.length⟩
  unfold EventClassifier.messagesResult firstMessagePayload
  rw [hfirst]
  simp only
  rw [hf.chunk, Bool.and_false, if_neg (by decide), hloop]

/-- **Only assistant messages finish a turn.** An event in the `messages` mode is deliverable only
for an assistant message of a deliverable phase, with its text, exactly when the first message is
not one of another type that the typed reader lets through. -/
theorem assistant_finishes (fromStr : String → Option Members) (cl : EventClassifier) (msg : Json)
    (accumulated : String) (items : List Json) (h : MessagesEvent (inner msg) items) :
    ((cl.classify fromStr msg accumulated).terminal = .deliverableComplete →
      ∃ first, firstMessage (.arr items) = some first ∧
        FromAssistant cl first (cl.classify fromStr msg accumulated)) ↔
      ¬ ∃ first, firstMessage (.arr items) = some first ∧ ForeignMessage cl (inner msg) first := by
  constructor
  · rintro hall ⟨first, hfirst, hf⟩
    have heq : cl.classify fromStr msg accumulated = deliverableResult (contentText first)
        ("soothe.protocol.message." ++ strMember first "phase") := by
      rw [h.classify_eq_messages, messagesResult_of_foreign h hfirst hf]
      rfl
    rw [heq] at hall
    obtain ⟨first', hfirst', hassistant⟩ := hall rfl
    obtain rfl := Option.some.inj (hfirst.symm.trans hfirst')
    exact hf.type hassistant.type
  · intro hno hd
    have hmessages : cl.messagesResult (inner msg) (.arr items) =
        some (cl.classify fromStr msg accumulated) := by
      rw [h.classify_eq_messages] at hd ⊢
      cases hr : cl.messagesResult (inner msg) (.arr items) with
      | some r => rfl
      | none =>
        rw [hr] at hd
        exact absurd hd default_not_deliverable
    rw [← h.getD] at hmessages
    have hfrom := fromMessage_of_messages hmessages hd
    generalize cl.classify fromStr msg accumulated = result at hfrom
    cases hfrom with
    | loop first loopMsg hloop hfirst hstream hphase hs =>
      have hhead := hfirst.head
      rw [h.getD] at hhead
      have htext := loopAiText_eq hfirst.content
      have hlen := isSubstantive_iff.1 hs
      refine ⟨first, hhead, ?_, List.contains_iff_mem.1 hphase, Or.inl htext, hlen⟩
      by_contra htype
      obtain ⟨em, hem, -⟩ := Option.bind_eq_some_iff.1 hloop
      refine hno ⟨first, hhead, htype, ?_, by rw [hem]; rfl, hfirst.tagged,
        List.contains_iff_mem.1 hphase, by rw [← htext]; exact hlen⟩
      rcases loopType_eq first with heq | hblank
      · rw [hfirst.type, Option.getD_some, heq] at hstream
        exact hstream
      · exact absurd (mem_assistantTypes.2 (Or.inr hblank)) htype
    | payload first hfirst htype hphase hs =>
      rw [h.getD] at hfirst
      exact ⟨first, hfirst, mem_assistantTypes.2 htype, List.contains_iff_mem.1 hphase,
        Or.inr rfl, isSubstantive_iff.1 hs⟩

/-- An assistant message of a goal finishes the turn. -/
theorem assistant_finishes_answer : ∃ first,
    firstMessage (.arr [phaseMessage "ai" "goal_completion" "The answer is 42."]) = some first ∧
    FromAssistant .withDefaults first (EventClassifier.withDefaults.classify (fun _ => none)
      (bareEvent "messages" (.arr [phaseMessage "ai" "goal_completion" "The answer is 42."])) "") := by
  refine (assistant_finishes (fun _ => none) .withDefaults _ "" _ ⟨Or.inr rfl, rfl, rfl⟩).2 ?_
    (by decide)
  rintro ⟨first, hfirst, hf⟩
  obtain rfl := Option.some.inj hfirst
  exact absurd hf.type (by decide)

/-- A human message with the phase of a goal finishes the turn. -/
theorem assistant_finishes_fails : ¬ ∀ (fromStr : String → Option Members) (cl : EventClassifier)
    (msg : Json) (accumulated : String) (items : List Json), MessagesEvent (inner msg) items →
    (cl.classify fromStr msg accumulated).terminal = .deliverableComplete →
    ∃ first, firstMessage (.arr items) = some first ∧
      FromAssistant cl first (cl.classify fromStr msg accumulated) := by
  intro h
  obtain ⟨first, hfirst, hassistant⟩ := h (fun _ => none) .withDefaults
    (bareEvent "messages" (.arr [phaseMessage "human" "goal_completion" "What is the answer?"])) ""
    _ ⟨Or.inr rfl, rfl, rfl⟩ (by decide)
  obtain rfl := Option.some.inj hfirst
  exact absurd hassistant.type (by decide)

end SootheClient.Turn
