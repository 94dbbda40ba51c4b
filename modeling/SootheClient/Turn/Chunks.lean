import SootheClient.Turn.Echo

/-!
# Streamed chunks

The chunks of a turn are increments of its reply, and the loop appends each to the text: what it
appends is the text that stands in the frame. A chunk that begins with all of the text collected so
far is taken for the whole text instead, and what it repeats is lost. On a turn of chunks and of
frames without text, the text is the concatenation of the chunks exactly as long as no chunk begins
with that of the chunks before it and no idle status echoes it.
-/

namespace SootheClient.Turn

open SootheClient.Frame
open Json (Members)

/-- The `text` of an object. -/
def textField : Json → String
  | .obj m => strMember m "text"
  | _ => ""

/-- The text of a content block: a string, or the `text` of an object. -/
def blockText : Json → String
  | .str s => s
  | blk => textField blk

/-- The text that stands in a message: its content, a string or blocks, or else the texts of its
content blocks. -/
def messageText (m : Members) : String :=
  let own := match m.get "content" with
    | some (.str s) => s
    | some (.arr items) => String.join (items.map blockText)
    | _ => ""
  if own ≠ "" then own
  else
    match m.get "content_blocks" with
    | some (.arr items) => String.join (items.map textField)
    | _ => ""

/-- The text of a `messages` frame whose first message is a streaming chunk. -/
def chunkOf (ev : Json) : Option String :=
  let msg := inner ev
  if (msg.getStrD "type" = "event" ∨ msg.getStrD "type" = "") ∧
      msg.getStr "mode" = some "messages" then
    ((msg.get "data").bind firstMessage).bind fun m =>
      if strMember m "type" ∈ ["AIMessageChunk", "ai_chunk", "message_chunk"] ∧ messageText m ≠ ""
      then some (messageText m)
      else none
  else none

/-- The chunk that a tick brings. -/
def Tick.chunk (tick : Tick) : Option String :=
  match tick.recv with
  | .frame ev => chunkOf ev
  | _ => none

/-- The chunks that the ticks bring, concatenated. -/
def chunkText (ticks : List Tick) : String := String.join (ticks.filterMap Tick.chunk)

variable {r : TurnRunner} {c : TurnCtx} {s t : TurnState} {tick : Tick} {ticks : List Tick}
  {ev : Json} {content collected : String}

theorem joinBlocks_eq {text : Json → String} {items : List Json} :
    joinBlocks text items = String.join (items.map text) := by
  unfold joinBlocks String.join
  rw [List.foldl_map]

theorem blockPlainText_eq : blockPlainText = blockText := by
  funext blk
  cases blk with
  | str s => rfl
  | null | bool b | num n | arr items | obj m => rfl

theorem getStrD_text : (fun blk : Json => blk.getStrD "text") = textField := by
  funext blk
  cases blk with
  | obj m => rfl
  | null | bool b | num n | arr items | str s => rfl

/-- The classifier takes from a message the text that stands in it. -/
theorem extractContentFromMessage_eq_text {m : Members} :
    extractContentFromMessage m = messageText m := by
  have hown : ownText m = match m.get "content" with
      | some (.str s) => s
      | some (.arr items) => String.join (items.map blockText)
      | _ => "" := by
    unfold ownText valueText
    cases m.get "content" with
    | none => rfl
    | some content =>
      cases content with
      | arr items =>
        show joinBlocks blockPlainText items = _
        rw [joinBlocks_eq, blockPlainText_eq]
      | null | bool b | num n | str s | obj m => rfl
  have hblocks : blocksText m = match m.get "content_blocks" with
      | some (.arr items) => String.join (items.map textField)
      | _ => "" := by
    unfold blocksText
    cases m.get "content_blocks" with
    | none => rfl
    | some content =>
      cases content with
      | arr items =>
        show joinBlocks (fun blk => blk.getStrD "text") items = _
        rw [joinBlocks_eq, getStrD_text]
      | null | bool b | num n | str s | obj m => rfl
  rw [extractContentFromMessage_eq, hown, hblocks]
  rfl

theorem streaming_iff {t : String} : isStreamingMessageType t = true ↔
    t ∈ ["AIMessageChunk", "ai_chunk", "message_chunk"] :=
  List.contains_iff_mem

theorem chunkText_concat : chunkText (ticks ++ [tick]) = chunkText ticks ++ tick.chunk.getD "" := by
  unfold chunkText
  rw [List.filterMap_append, String.join_append]
  congr 1
  cases h : tick.chunk with
  | none =>
    rw [List.filterMap_cons_none h]
    rfl
  | some x =>
    rw [List.filterMap_cons_some h, List.filterMap_nil, String.join_cons, String.join_nil]
    exact String.append_empty

theorem chunk_of_frame (h : tick.recv = .frame ev) : tick.chunk = chunkOf ev := by
  unfold Tick.chunk
  rw [h]

theorem frame_of_chunk (h : tick.chunk = some content) : ∃ ev, tick.recv = .frame ev := by
  unfold Tick.chunk at h
  cases hrecv : tick.recv with
  | frame ev => exact ⟨ev, rfl⟩
  | missing | timedOut | closed =>
    rw [hrecv] at h
    cases h

/-- A chunk is an event with mode `messages`. -/
theorem mode_of_chunk (h : chunkOf ev = some content) :
    ((inner ev).getStrD "type" = "event" ∨ (inner ev).getStrD "type" = "") ∧
      (inner ev).getStr "mode" = some "messages" := by
  unfold chunkOf at h
  simp only at h
  split_ifs at h with hmode
  exact hmode

theorem message_of_chunk (h : chunkOf ev = some content) :
    ∃ data m, (inner ev).get "data" = some data ∧ firstMessage data = some m ∧
      isStreamingMessageType (strMember m "type") = true ∧ messageText m = content ∧
      content ≠ "" := by
  unfold chunkOf at h
  simp only at h
  split_ifs at h
  obtain ⟨m, hm, hx⟩ := Option.bind_eq_some_iff.1 h
  obtain ⟨data, hdata, hfirst⟩ := Option.bind_eq_some_iff.1 hm
  split_ifs at hx with hcond
  obtain rfl := Option.some.inj hx
  exact ⟨data, m, hdata, hfirst, streaming_iff.2 hcond.1, rfl, hcond.2⟩

theorem mode_isSome {mode : String} (h : (inner ev).getStr "mode" = some mode) :
    ((inner ev).get "mode").isSome = true := by
  unfold Json.getStr at h
  cases hg : (inner ev).get "mode" with
  | none =>
    rw [hg] at h
    cases h
  | some v => rfl

/-- An event with a mode is no status. -/
theorem not_status_of_mode {mode : String}
    (ht : (inner ev).getStrD "type" = "event" ∨ (inner ev).getStrD "type" = "")
    (hm : (inner ev).getStr "mode" = some mode) : isStatusMessage (inner ev) = false := by
  unfold isStatusMessage
  have htype : (inner ev).getStr "type" ≠ some "status" := by
    intro hs
    have hd : (inner ev).getStrD "type" = "status" := by
      unfold Json.getStrD
      rw [hs]
      rfl
    rcases ht with he | he <;> rw [hd] at he <;> exact absurd he (by decide)
  rw [← Option.not_isSome, mode_isSome hm, Bool.not_true, Bool.and_false, Bool.or_false]
  exact decide_eq_false htype

theorem not_status_of_chunk (h : chunkOf ev = some content) :
    isStatusMessage (inner ev) = false :=
  not_status_of_mode (mode_of_chunk h).1 (mode_of_chunk h).2

/-- The classifier dispatches an event with a mode by its mode and its data. -/
theorem classify_mode {mode : String}
    (ht : (inner ev).getStrD "type" = "event" ∨ (inner ev).getStrD "type" = "")
    (hm : (inner ev).getStr "mode" = some mode) :
    r.classifier.classify r.fromStr ev collected =
      r.classifier.processEventMessage r.fromStr (inner ev) collected none := by
  rw [classify_eq]
  unfold EventClassifier.processChatEvent
  rw [unwrapNext_eq_inner]
  simp only
  rw [if_neg (by rw [not_status_of_mode ht hm]; decide), if_neg ?_, if_neg ?_,
    if_pos ⟨ht, mode_isSome hm⟩]
  · rcases ht with he | he <;> rw [he] <;> decide
  · rcases ht with he | he <;> rw [he] <;> decide

/-- The classifier continues with the content of a chunk. -/
theorem classify_chunk (h : chunkOf ev = some content) :
    r.classifier.classify r.fromStr ev collected = EventClassifier.continueResult content := by
  obtain ⟨data, m, hdata, hfirst, hstream, rfl, hne⟩ := message_of_chunk h
  have hmode : (inner ev).getStrD "mode" = "messages" := by
    unfold Json.getStrD
    rw [(mode_of_chunk h).2]
    rfl
  have hdata' : ((inner ev).get "data").getD .null = data := by
    rw [hdata]
    rfl
  have hnone : normalizeEventData r.fromStr data = none := by
    unfold firstMessage at hfirst
    cases data with
    | arr items => rfl
    | null | bool | num | str | obj => cases hfirst
  rw [classify_mode (mode_of_chunk h).1 (mode_of_chunk h).2]
  unfold EventClassifier.processEventMessage
  simp only [hdata', hnone, hmode, Option.bind_none]
  rw [if_neg (by simp), if_pos trivial]
  unfold EventClassifier.messagesResult firstMessagePayload
  rw [hfirst]
  simp only [extractContentFromMessage_eq_text]
  rw [if_pos (by simp [hne, hstream])]

theorem not_stale_of_chunk (h : chunkOf ev = some content) : isStaleTurnEndEvent ev = false := by
  have hmode : (inner ev).getStrD "mode" = "messages" := by
    unfold Json.getStrD
    rw [(mode_of_chunk h).2]
    rfl
  unfold isStaleTurnEndEvent
  simp only
  rw [hmode]
  rcases (mode_of_chunk h).1 with he | he <;> rw [he] <;> rfl

theorem not_running_of_chunk (h : chunkOf ev = some content) :
    isStatusRunningEvent ev = false := by
  unfold isStatusRunningEvent
  simp only
  have hstatus := not_status_of_chunk h
  unfold isStatusMessage at hstatus
  rw [Bool.or_eq_false_iff] at hstatus
  rw [hstatus.1, Bool.false_and]

/-- A chunk does not end the boundary. -/
theorem feedBoundary_chunk {b : TurnBoundary} (hb : b.ended = false)
    (h : chunkOf ev = some content) : (feedBoundary b ev).2 = none := by
  have hmode : (inner ev).getStrD "mode" = "messages" := by
    unfold Json.getStrD
    rw [(mode_of_chunk h).2]
    rfl
  rcases (mode_of_chunk h).1 with he | he
  · rw [feedBoundary_next hb (callOf_event he)]
    refine verdict_event_none fun hc => ?_
    rw [hmode] at hc
    exact absurd hc (by decide)
  · rw [feedBoundary_eq, callOf_other (by rw [he]; decide) (by rw [he]; decide)]
    rfl

namespace TurnRunner

/-! ## One iteration -/

/-- The boundary is open, and the loop is armed once there is text. -/
structure Ready (s : TurnState) : Prop where
  running : s.boundary.ended = false
  armed : s.collected ≠ "" → s.armed = true

theorem ready_processEvent (ha : s.armed = true) (hb : s.boundary.ended = false)
    (h : r.processEvent c s tick ev = .next t) : Ready t := by
  rw [processEvent_eq ha] at h
  split_ifs at h
  obtain ⟨hend, ht, -⟩ := conclude_next h
  have hfed : feedBoundary s.boundary ev = ((feedBoundary s.boundary ev).1, none) :=
    Prod.ext rfl hend
  have hbound : t.boundary = (feedBoundary s.boundary ev).1 := by rw [ht, absorb_boundary]
  have harmed : t.armed = true := by rw [ht, absorb_armed, ha]
  constructor
  · rw [hbound]
    exact feedBoundary_open hb hfed
  · exact fun _ => harmed

theorem ready_onEvent (hs : Ready s) (h : r.onEvent c s tick ev = .next t) : Ready t := by
  unfold onEvent at h
  simp only at h
  split_ifs at h with ha hstale hrun
  · exact ready_processEvent ha hs.running h
  · injection h with h
    exact h ▸ hs
  · injection h with h
    rw [← h]
    exact ⟨feedBoundary_open hs.running (feedBoundary_running hs.running hrun), fun _ => rfl⟩
  · exact ready_processEvent (s := { s with armed := true, lastEvent := tick.eventClock }) rfl
      hs.running h

/-- An iteration that goes on has read its tick. -/
theorem not_next_of_not_reads (hr : ¬ r.reads c s tick = true) : r.loopStep c s tick ≠ .next t := by
  intro h
  unfold loopStep at h
  unfold reads at hr
  split_ifs at h with h1 h2 h3
  simp [h1, h2, h3] at hr

theorem ready_next (hs : Ready s) (h : r.loopStep c s tick = .next t) : Ready t := by
  have hsame : ∀ u : TurnState, Scan.Step.next (ε := Outcome) s = .next u → Ready u := by
    intro u hu
    injection hu with hu
    exact hu ▸ hs
  by_cases hr : r.reads c s tick = true
  · rw [loopStep_of_reads hr] at h
    cases hrecv : tick.recv with
    | missing =>
      rw [hrecv] at h
      cases h
    | timedOut =>
      rw [hrecv] at h
      exact hsame t h
    | closed live alive =>
      rw [hrecv] at h
      unfold onRecv onClosed at h
      simp only at h
      split_ifs at h
      exact hsame t h
    | frame msg =>
      rw [hrecv] at h
      exact ready_onEvent hs h
  · exact absurd h (not_next_of_not_reads hr)

theorem ready_startState {call : TurnCall} {loopId : String} {startedAt : ℕ} :
    Ready (r.startState call loopId startedAt) := ⟨rfl, fun h => absurd rfl h⟩

theorem Reaches.ready {call : TurnCall} {env : Env} {loopId : String} {before : List Tick}
    (h : r.Reaches call env loopId before s) : Ready s := by
  refine Reaches.induct (P := fun _ s => Ready s) ready_startState ?_ h
  intro before s tick t _ hs hnext
  exact ready_next hs hnext

/-- A chunk that the loop reads is collected, and the loop goes on. -/
theorem loopStep_chunk (hs : Ready s) (hr : r.reads c s tick = true)
    (hrecv : tick.recv = .frame ev) (h : chunkOf ev = some content) :
    ∃ t, r.loopStep c s tick = .next t ∧ t.collected = (collect s.collected content).1 := by
  have hp : r.processed c s tick = some ev := by
    rw [processed_of_reads hr hrecv, not_stale_of_chunk h, not_running_of_chunk h]
    simp
  obtain ⟨s', harmed, hcol, hbound, -, hstep⟩ := loopStep_of_processed hp
  have hend : (feedBoundary s'.boundary ev).2 = none :=
    feedBoundary_chunk (by rw [hbound]; exact hs.running) h
  rw [hstep, processEvent_eq harmed, classify_chunk h, if_neg ChatEventTerminal.noConfusion, hend]
  refine ⟨_, rfl, ?_⟩
  show (collect s'.collected content).1 = _
  rw [hcol]

/-- What echoes is a status, and no chunk. -/
theorem not_chunk_of_echoes (h : r.Echoes collected ev) : chunkOf ev = none := by
  cases hc : chunkOf ev with
  | none => rfl
  | some content =>
    have hidle := h.1
    unfold completesIdle at hidle
    rw [not_status_of_chunk hc, Bool.false_and] at hidle
    cases hidle

theorem collect_increment (h : collected ≠ "" → Text.startsWith content collected = false) :
    (collect collected content).1 = collected ++ content := by
  unfold collect
  by_cases h0 : content = ""
  · rw [if_pos h0, h0]
    exact String.append_empty.symm
  · rw [if_neg h0]
    by_cases hc : collected = ""
    · rw [hc, String.empty_append]
      split_ifs <;> rfl
    · rw [if_neg (by rw [h hc]; decide)]

/-- A chunk that begins with the text is not appended to it. -/
theorem collect_repeated (hc : collected ≠ "") (h : Text.startsWith content collected = true) :
    (collect collected content).1 ≠ collected ++ content := by
  have hcontent : content ≠ "" := by
    rintro rfl
    exact hc (String.toList_eq_nil_iff.1 (List.prefix_nil.1 (Text.startsWith_iff.1 h)))
  unfold collect
  rw [if_neg hcontent, if_pos h]
  show content ≠ collected ++ content
  intro heq
  have hlen := congrArg String.length heq
  rw [String.length_append] at hlen
  exact hc (String.length_eq_zero_iff.1 (by omega))

/-! ## Turns of chunks -/

/-- No text stands in the frame: no message has any, and neither has the data of an event that is
named for a reply or a delta. -/
def TextFree (r : TurnRunner) (ev : Json) : Prop :=
  let v := inner ev
  let data := (v.get "data").getD .null
  ¬ (v.getStrD "mode" = "messages" ∧ MessageSpeaks v data) ∧
    ∀ dataMap ∈ normalizeEventData r.fromStr data,
      ¬ (Named REPLY_NAMES (eventMessageEventType v) dataMap ∧ ReplyText dataMap) ∧
      ¬ (Named DELTA_NAMES (eventMessageEventType v) dataMap ∧ strMember dataMap "delta" ≠ "")

/-- Data without text is plain or a failure. -/
theorem plain_dataResult {cl : EventClassifier} {ns : String} {dataMap : Members}
    (hreply : ¬ (Named REPLY_NAMES ns dataMap ∧ ReplyText dataMap))
    (hdelta : ¬ (Named DELTA_NAMES ns dataMap ∧ strMember dataMap "delta" ≠ "")) :
    (cl.dataResult ns dataMap).terminal = .failedComplete ∨ Plain (cl.dataResult ns dataMap) := by
  by_cases herr : Named ["soothe.error."] ns dataMap
  · rw [dataResult_of_no_reply hreply, if_pos herr]
    exact Or.inl terminal_errorEvent
  · right
    refine plain_of_data fun h => ?_
    rcases h with h | h | h
    · exact hreply h
    · exact herr h
    · exact hdelta h

/-- The classifier finds no text where there is none. -/
theorem plain_of_textFree (hs : isStatusMessage (inner ev) = false) (h : r.TextFree ev) :
    (r.classifier.classify r.fromStr ev collected).terminal = .failedComplete ∨
      Plain (r.classifier.classify r.fromStr ev collected) := by
  rw [classify_eq]
  unfold EventClassifier.processChatEvent
  rw [unwrapNext_eq_inner]
  simp only
  rw [if_neg (by rw [hs]; decide)]
  split_ifs with he hr hm
  · exact Or.inl rfl
  · exact Or.inr plain_default
  · by_cases hsilent : EventSpeaks r.classifier r.fromStr (inner ev)
    · obtain ⟨hstep, hend, hspeaks⟩ := hsilent
      obtain ⟨dataMap, hdm, -⟩ := hspeaks.resolve_left h.1
      unfold EventClassifier.processEventMessage
      simp only [bind_stepResult hstep]
      rw [if_neg (by simpa using hend), messagesResult_of_mode h.1,
        show normalizeEventData r.fromStr (((inner ev).get "data").getD .null) = some dataMap from hdm]
      exact plain_dataResult (h.2 dataMap hdm).1 (h.2 dataMap hdm).2
    · exact Or.inr (plain_of_event hsilent)
  · split
    · exact Or.inl rfl
    · exact Or.inr plain_default

/-- The tick brings a chunk, a status, a custom end of a turn, a frame without text or no frame. -/
def Carries (r : TurnRunner) (tick : Tick) : Prop :=
  ∀ ev, tick.recv = .frame ev →
    (chunkOf ev).isSome = true ∨ isTerminalFrame ev = true ∨ r.TextFree ev

/-- The tick brings neither a chunk that begins with the text nor an echo of the text. -/
def Clear (r : TurnRunner) (collected : String) (tick : Tick) : Prop :=
  ∀ ev, tick.recv = .frame ev →
    (∀ content, chunkOf ev = some content → collected ≠ "" →
      Text.startsWith content collected = false) ∧
    ¬ r.Echoes collected ev

/-- A tick without a chunk adds nothing. -/
theorem addsNothing_of_clear (hcarries : r.Carries tick) (hno : tick.chunk = none)
    (hclear : r.reads c s tick = true → r.Clear s.collected tick) :
    AddsNothing s (r.loopStep c s tick) := by
  by_cases hframe : ∃ ev, tick.recv = .frame ev
  · obtain ⟨ev, hrecv⟩ := hframe
    by_cases hterm : isTerminalFrame ev = true
    · refine addsNothing_of_not_echoes hrecv hterm ?_
      rintro ⟨hp, he⟩
      refine (hclear ?_ ev hrecv).2 he
      unfold processed at hp
      split_ifs at hp with hr
      exact hr
    · rcases hcarries ev hrecv with hchunk | hterm' | hfree
      · rw [← chunk_of_frame hrecv, hno] at hchunk
        cases hchunk
      · exact absurd hterm' hterm
      · have hs : isStatusMessage (inner ev) = false := by
          unfold isTerminalFrame at hterm
          rw [Bool.not_eq_true, Bool.or_eq_false_iff] at hterm
          exact hterm.1
        refine addsNothing_of_frame hrecv (fun _ => ?_)
          (deliverableOf_plain (plain_of_textFree hs hfree))
        rw [contentOf_plain (plain_of_textFree hs hfree)]
        exact collect_empty _
  · have hp : r.processed c s tick = none := processed_of_recv fun ev h => hframe ⟨ev, h⟩
    have hadds : r.Adds s (r.taken c s tick) (r.delivered c s tick) (r.loopStep c s tick) :=
      adds_loopStep
    unfold taken delivered at hadds
    rw [hp] at hadds
    exact addsNothing_of_adds (collect_empty _) hadds

theorem text_of_not_reads (hr : ¬ r.reads c s tick = true) :
    AddsNothing s (r.loopStep c s tick) := by
  have hp : r.processed c s tick = none := if_neg hr
  have hadds : r.Adds s (r.taken c s tick) (r.delivered c s tick) (r.loopStep c s tick) :=
    adds_loopStep
  unfold taken delivered at hadds
  rw [hp] at hadds
  exact addsNothing_of_adds (collect_empty _) hadds

/-- **Step lemma.** A clear tick adds its chunk. -/
theorem text_of_clear (hs : Ready s) (hcarries : r.Carries tick)
    (hclear : r.reads c s tick = true → r.Clear s.collected tick) :
    (∀ t, r.loopStep c s tick = .next t → t.collected = s.collected ++ tick.chunk.getD "") ∧
      ∀ text log, r.loopStep c s tick = .stop (.ok text, log) →
        text = s.collected ∧ deltas log = deltas s.log := by
  have hstop : AddsNothing s (r.loopStep c s tick) →
      ∀ text log, r.loopStep c s tick = .stop (.ok text, log) →
        text = s.collected ∧ deltas log = deltas s.log := by
    intro hnothing text log hstep
    rw [hstep] at hnothing
    exact ⟨hnothing.2 text rfl, hnothing.1⟩
  by_cases hr : r.reads c s tick = true
  · cases hchunk : tick.chunk with
    | none =>
      have hnothing := addsNothing_of_clear (c := c) hcarries hchunk hclear
      refine ⟨fun t hstep => ?_, hstop hnothing⟩
      rw [hstep] at hnothing
      rw [hnothing.1]
      exact String.append_empty.symm
    | some content =>
      obtain ⟨ev, hrecv⟩ := frame_of_chunk hchunk
      have hev : chunkOf ev = some content := (chunk_of_frame hrecv).symm.trans hchunk
      obtain ⟨t, hstep, htext⟩ := loopStep_chunk hs hr hrecv hev
      rw [hstep]
      refine ⟨fun u hu => ?_, fun text log h => nomatch h⟩
      obtain rfl := Scan.Step.next.inj hu
      rw [htext]
      exact collect_increment ((hclear hr ev hrecv).1 content hev)
  · exact ⟨fun t h => absurd h (not_next_of_not_reads hr), hstop (text_of_not_reads hr)⟩

/-- A tick that is read and not clear spoils the text. -/
theorem text_of_not_clear (hs : Ready s) (hr : r.reads c s tick = true)
    (h : ¬ r.Clear s.collected tick) :
    (∃ t, r.loopStep c s tick = .next t ∧ t.collected ≠ s.collected ++ tick.chunk.getD "") ∨
      ∃ text log, r.loopStep c s tick = .stop (.ok text, log) ∧ text ≠ s.collected := by
  unfold Clear at h
  push Not at h
  obtain ⟨ev, hrecv, h⟩ := h
  by_cases hrep : ∀ content, chunkOf ev = some content → s.collected ≠ "" →
      Text.startsWith content s.collected = false
  · have he : r.Echoes s.collected ev := h hrep
    have hne : s.collected ≠ "" := by
      intro h0
      apply he.2
      rw [h0]
      decide
    have hp : r.processed c s tick = some ev := by
      rw [processed_of_reads hr hrecv, hs.armed hne]
      rfl
    have hno : tick.chunk = none := by
      rw [chunk_of_frame hrecv]
      exact not_chunk_of_echoes he
    rw [hno]
    have hsame : s.collected ++ (none : Option String).getD "" = s.collected := String.append_empty
    rw [hsame]
    exact text_of_echoes hp he
  · push Not at hrep
    obtain ⟨content, hev, hne, hstart⟩ := hrep
    obtain ⟨t, hstep, htext⟩ := loopStep_chunk hs hr hrecv hev
    refine Or.inl ⟨t, hstep, ?_⟩
    rw [htext, chunk_of_frame hrecv, hev]
    exact collect_repeated hne (eq_true_of_ne_false hstart)

/-- The text is the concatenation of the chunks in every state reached and in the reply, and so is
what was streamed. -/
def KeepsText (r : TurnRunner) (call : TurnCall) (env : Env) : Prop :=
  (∀ loopId before s, r.Reaches call env loopId before s →
    s.collected = chunkText before ∧ streamedText s.log = r.streamed (chunkText before)) ∧
  ∀ loopId before s tick text log, r.Iterates call env loopId before s tick →
    r.loopStep (r.ctx call loopId env.startedAt) s tick = .stop (.ok text, log) →
      text = chunkText before ∧ streamedText log = r.streamed (chunkText before)

/-- Every tick that the loop reads is clear of the chunks before it. -/
def ClearRun (r : TurnRunner) (call : TurnCall) (env : Env) : Prop :=
  ∀ loopId before s tick, r.Iterates call env loopId before s tick →
    r.reads (r.ctx call loopId env.startedAt) s tick = true → r.Clear (chunkText before) tick

/-- **Text is kept on clear runs only.** -/
theorem keepsText_iff (r : TurnRunner) (call : TurnCall) (env : Env)
    (h : ∀ tick ∈ env.ticks, r.Carries tick) : r.KeepsText call env ↔ r.ClearRun call env := by
  have hcarries : ∀ {loopId before s tick}, r.Iterates call env loopId before s tick →
      r.Carries tick := by
    intro loopId before s tick hiter
    exact h tick (hiter.2.subset (List.mem_append_right before List.mem_cons_self))
  constructor
  · intro hkeeps loopId before s tick hiter hr
    have htext := (hkeeps.1 loopId before s hiter.1).1
    by_contra hclear
    rw [← htext] at hclear
    rcases text_of_not_clear hiter.1.ready hr hclear with ⟨t, hstep, hne⟩ | ⟨text, log, hstep, hne⟩
    · have hnext := (hkeeps.1 loopId (before ++ [tick]) t (hiter.reaches hstep)).1
      rw [chunkText_concat, ← htext] at hnext
      exact hne hnext
    · exact hne ((hkeeps.2 loopId before s tick text log hiter hstep).1.trans htext.symm)
  · intro hclear
    have htext : ∀ {loopId before s}, r.Reaches call env loopId before s →
        s.collected = chunkText before := by
      intro loopId before s hreach
      refine Reaches.induct (P := fun before s => s.collected = chunkText before) rfl ?_ hreach
      intro before s tick t hiter htext hstep
      have hclear' := hclear loopId before s tick hiter
      rw [← htext] at hclear'
      rw [chunkText_concat, ← htext]
      exact (text_of_clear hiter.1.ready (hcarries hiter) hclear').1 t hstep
    constructor
    · intro loopId before s hreach
      rw [← htext hreach]
      exact ⟨rfl, hreach.streams⟩
    · intro loopId before s tick text log hiter hstep
      have hclear' := hclear loopId before s tick hiter
      rw [← htext hiter.1] at hclear' ⊢
      obtain ⟨hreply, hdeltas⟩ :=
        (text_of_clear hiter.1.ready (hcarries hiter) hclear').2 text log hstep
      have hsame : streamedText log = streamedText s.log := by
        unfold streamedText
        rw [hdeltas]
      exact ⟨hreply, hsame.trans hiter.1.streams⟩

theorem chunk_chunkTick (h : content ≠ "") :
    (chunkTick content).chunk = some content := by
  have hcontent : messageText [("type", .str "AIMessageChunk"), ("content", .str content)] =
      content := if_pos h
  show (if "AIMessageChunk" ∈ ["AIMessageChunk", "ai_chunk", "message_chunk"] ∧ messageText
      [("type", .str "AIMessageChunk"), ("content", .str content)] ≠ "" then some _ else none) = _
  rw [hcontent, if_pos ⟨by decide, h⟩]

theorem carries_chunked {contents : List String} (h : "" ∉ contents) :
    ∀ tick ∈ (chunked contents).ticks, r.Carries tick := by
  intro tick htick ev hrecv
  unfold chunked at htick
  simp only [List.mem_cons, List.mem_append, List.mem_map, List.not_mem_nil, or_false] at htick
  rcases htick with rfl | ⟨content, hc, rfl⟩ | rfl
  · obtain rfl := Recv.frame.inj hrecv
    exact Or.inr (Or.inl (by decide))
  · left
    have hne : content ≠ "" := fun h0 => h (h0 ▸ hc)
    rw [← chunk_of_frame hrecv, chunk_chunkTick hne]
    rfl
  · obtain rfl := Recv.frame.inj hrecv
    exact Or.inr (Or.inl (by decide))

theorem not_echoes_attached : ¬ attached.Echoes collected ev := by
  intro h
  have hidle := h.1
  unfold completesIdle at hidle
  rw [show attached.classifier.cfg.treatStatusIdleAsComplete = false from rfl, Bool.and_false,
    Bool.false_and, Bool.false_and] at hidle
  cases hidle

/-- A turn of two chunks that keeps its text. -/
theorem keepsText_chunked : attached.KeepsText greeting (chunked ["Hel", "lo"]) ∧
    (attached.runTurn greeting (chunked ["Hel", "lo"])).map
      (fun o => (o.1.toOption, streamedText o.2)) = some (some "Hello", "Hello") := by
  refine ⟨(keepsText_iff attached greeting (chunked ["Hel", "lo"])
    (carries_chunked (by decide))).2 ?_, rfl⟩
  rintro loopId before s tick ⟨-, after, hticks⟩ -
  intro ev hrecv
  refine ⟨fun content hev hne => ?_, not_echoes_attached⟩
  rw [← chunk_of_frame hrecv] at hev
  rcases before with _ | ⟨a, _ | ⟨b, _ | ⟨d, _ | ⟨e, before⟩⟩⟩⟩
  · exact absurd rfl hne
  · injection hticks with ha _
    rw [ha] at hne
    exact absurd (by decide) hne
  · injection hticks with ha hticks
    injection hticks with hb hticks
    injection hticks with htick _
    rw [htick, chunk_chunkTick (by decide)] at hev
    obtain rfl := Option.some.inj hev
    rw [ha, hb]
    decide
  · injection hticks with _ hticks
    injection hticks with _ hticks
    injection hticks with _ hticks
    injection hticks with htick _
    have hnone : Tick.chunk { recv := .frame (streamEndFrame "L:1") } = none := rfl
    rw [htick, hnone] at hev
    cases hev
  · have hlen := congrArg List.length hticks
    simp [chunked] at hlen

/-- The second of two equal chunks is lost. -/
theorem keepsText_fails :
    (∀ tick ∈ (chunked ["ha", "ha"]).ticks, attached.Carries tick) ∧
      (attached.runTurn greeting (chunked ["ha", "ha"])).map Prod.fst = some (.ok "ha") ∧
      ¬ attached.KeepsText greeting (chunked ["ha", "ha"]) := by
  refine ⟨carries_chunked (by decide), rfl, ?_⟩
  intro h
  have hreach : ∃ s, attached.Reaches greeting (chunked ["ha", "ha"]) "L"
      ((chunked ["ha", "ha"]).ticks.take 3) s ∧ s.collected = "ha" :=
    ⟨_, ⟨rfl, rfl, rfl, List.take_prefix _ _, rfl⟩, rfl⟩
  obtain ⟨s, hs, htext⟩ := hreach
  have hkept := (h.1 "L" _ s hs).1
  rw [htext] at hkept
  exact absurd hkept (by decide)

end TurnRunner

end SootheClient.Turn
