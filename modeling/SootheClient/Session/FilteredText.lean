import Mathlib.Data.List.Flatten
import SootheClient.Session.Isolation
import SootheClient.Turn.FilteredText

/-!
# Text that a turn loses

The chunks that a turn receives are those of the event frames of its loop and turn; what it returns
is what its early filter keeps of them, less the terminals that come too early. So the text of the
output is the text that was received unless the filter dropped a text.
-/

namespace SootheClient.Session

open SootheClient.Frame
open SootheClient.Turn (firstMessagePayload LosesChunkText dropped_text)

/-- The assistant text of a chunk, as the classifier reads it. -/
def TurnChunk.text (chunk : TurnChunk) : String :=
  if chunk.mode = "messages" then (firstMessagePayload chunk.data).2.1 else ""

/-- The concatenated texts of chunks. -/
def joinText (chunks : List TurnChunk) : String := String.join (chunks.map TurnChunk.text)

/-- The event frame of an iteration of the main loop is of the session's loop and of its turn. -/
def Received (s : TurnLoop) (frame : Json) : Prop :=
  frame.getStrD "type" = "event" ∧ s.skipsLoop (frame.getStrD "loop_id") = false ∧
    s.skipsTurn "event" "" (frameTurnId frame) = false

instance (s : TurnLoop) (frame : Json) : Decidable (Received s frame) :=
  inferInstanceAs (Decidable (_ ∧ _))

/-- The chunk that an iteration of the main loop receives. -/
def mainReceived (s : TurnLoop) : Tick → List TurnChunk
  | .frame ev => if Received s (inner ev) then [chunkOf (inner ev)] else []
  | _ => []

/-- The chunk that an iteration of the drain receives. -/
def drainReceived (loopId : String) : Tick → List TurnChunk
  | .frame ev =>
    if ¬ otherLoop loopId (inner ev) ∧ (inner ev).getStrD "type" = "event" then [chunkOf (inner ev)]
    else []
  | _ => []

variable (earlyDrop : List Json → String → Json → Bool) (maxWait : Option ℕ)

/-- All chunks that a turn receives on the ticks, in its main loop and in its drain. -/
def received (start : TurnLoop) (ticks : List Tick) : List TurnChunk :=
  Scan.log (mainStep earlyDrop maxWait) mainReceived start ticks ++
    match Scan.halt (mainStep earlyDrop maxWait) start ticks with
    | some ((.exit (.ended _), s), rest) =>
      Scan.log (Drain.step earlyDrop s.expectedLoopId) (fun _ => drainReceived s.expectedLoopId)
        s.drain rest
    | _ => []

/-- All chunks that a turn appends to its output on the ticks. -/
def appended (start : TurnLoop) (ticks : List Tick) : List TurnChunk :=
  (Scan.log (mainStep earlyDrop maxWait) (mainSource earlyDrop maxWait) start ticks ++
    match Scan.halt (mainStep earlyDrop maxWait) start ticks with
    | some ((.exit (.ended _), s), rest) =>
      Scan.log (Drain.step earlyDrop s.expectedLoopId)
        (drainSource earlyDrop s.expectedLoopId s.expectedTurnId) s.drain rest
    | _ => []).map Source.chunk

variable {earlyDrop maxWait}
variable {L : String} {s s' : TurnLoop} {d : Drain} {t : Tick} {ev : Json} {chunk : TurnChunk}
  {chunks out : List TurnChunk}

/-! ## Texts of lists of chunks -/

/-- The text of the chunk, when the filter keeps it. -/
def TurnChunk.keptText (earlyDrop : List Json → String → Json → Bool) (chunk : TurnChunk) :
    List Char :=
  if chunk.dropped earlyDrop then [] else chunk.text.toList

theorem toList_joinText : (joinText chunks).toList = chunks.flatMap fun c => c.text.toList := by
  unfold joinText
  rw [String.toList_join, List.flatMap_map]

/-- Deleting parts of the items of a list changes the concatenation, unless nothing is deleted. -/
theorem flatMap_eq_iff {α β : Type*} {l : List α} {g h : α → List β}
    (hle : ∀ a, (g a).Sublist (h a)) :
    l.flatMap g = l.flatMap h ↔ ∀ a ∈ l, g a = h a := by
  constructor
  · induction l with
    | nil => exact fun _ a ha => absurd ha List.not_mem_nil
    | cons a l ih =>
      intro heq
      rw [List.flatMap_cons, List.flatMap_cons] at heq
      have hlen := congrArg List.length heq
      rw [List.length_append, List.length_append] at hlen
      have ha := (hle a).length_le
      have hl := (List.Sublist.flatMap_right l fun a _ => hle a).length_le
      obtain ⟨hhead, htail⟩ := List.append_inj heq (by omega)
      exact List.forall_mem_cons.2 ⟨hhead, ih htail⟩
  · intro heq
    exact List.flatMap_congr heq

theorem keptText_sublist : (chunk.keptText earlyDrop).Sublist chunk.text.toList := by
  unfold TurnChunk.keptText
  split_ifs
  · exact List.nil_sublist _
  · exact List.Sublist.refl _

theorem keptText_eq_iff : chunk.keptText earlyDrop = chunk.text.toList ↔
    (chunk.dropped earlyDrop = true → chunk.text = "") := by
  unfold TurnChunk.keptText
  cases chunk.dropped earlyDrop with
  | true =>
    rw [if_pos rfl]
    refine ⟨fun h _ => (String.toList_eq_nil_iff.1 h.symm), fun h => ?_⟩
    rw [h rfl]
    rfl
  | false => exact ⟨fun _ h => absurd h Bool.false_ne_true, fun _ => rfl⟩

/-- A terminal has no text. -/
theorem text_of_turnEnd (h : chunk.turnEnd = true) : chunk.text = "" := by
  unfold TurnChunk.turnEnd at h
  rw [Bool.and_eq_true, decide_eq_true_eq] at h
  unfold TurnChunk.text
  rw [h.1]
  exact if_neg (by decide)

/-- What the early filter drops has no text, unless it loses it. -/
theorem dropped_text_iff :
    (chunk.dropped shouldDropStreamChunkEarly = true → chunk.text = "") ↔
      (chunk.mode = "messages" → ¬ LosesChunkText chunk.data) := by
  unfold TurnChunk.dropped TurnChunk.text
  by_cases hmode : chunk.mode = "messages"
  · rw [if_pos hmode, hmode, dropped_text]
    exact ⟨fun h _ => h, fun h => h rfl⟩
  · rw [if_neg hmode]
    exact ⟨fun _ h => absurd h hmode, fun _ _ => rfl⟩

/-! ## The main loop -/

theorem mainSource_next (h : mainStep earlyDrop maxWait s t = .next s') (hout : s'.out = s.out) :
    mainSource earlyDrop maxWait s t = [] := by
  unfold mainSource
  rw [h]
  simp only [hout]
  exact sourceOf_same

theorem mainSource_stop {left : Leave} (h : mainStep earlyDrop maxWait s t = .stop (left, s'))
    (hout : s'.out = s.out) : mainSource earlyDrop maxWait s t = [] := by
  unfold mainSource
  rw [h]
  simp only [hout]
  exact sourceOf_same

/-- Nothing is appended on a frame that the turn does not receive. -/
theorem mainSource_of_not_received (h : ¬ Received s (inner ev)) :
    mainSource earlyDrop maxWait s (.frame ev) = [] := by
  by_cases hloop : s.skipsLoop ((inner ev).getStrD "loop_id") = true
  · exact mainSource_next (mainStep_next (if_pos hloop)) rfl
  have hloop := Bool.eq_false_iff.2 hloop
  cases hf : s.onFrame earlyDrop ev with
  | next s' =>
    refine mainSource_next (mainStep_next hf) ?_
    obtain ⟨l, c, st, rfl⟩ | ⟨-, -, -, l, rfl⟩ | ⟨htype, -, hturn, -⟩ := onFrame_next hf
    · rfl
    · obtain ⟨e, p, hrun⟩ := observeRunning_with { s with expectedLoopId := l }
        (frameTurnId (inner ev))
      rw [hrun]
    · exact absurd ⟨htype, hloop, hturn⟩ h
  | stop p =>
    refine mainSource_stop (mainStep_stop hf) ?_
    obtain ⟨-, hs⟩ | ⟨-, ⟨l, hs⟩, -⟩ | ⟨htype, hturn, -⟩ := onFrame_stop hf
    · rw [hs]
    · rw [hs]
    · exact absurd ⟨htype, hloop, hturn⟩ h

/-- Of a chunk that it receives an iteration appends the kept text. -/
theorem mainSource_of_received (h : Received s (inner ev)) :
    (mainSource earlyDrop maxWait s (.frame ev)).flatMap (fun c => c.chunk.text.toList) =
      (chunkOf (inner ev)).keptText earlyDrop := by
  have hframe : s.onFrame earlyDrop ev = s.onEvent earlyDrop (inner ev) (frameTurnId (inner ev)) :=
    onFrame_event h.1 h.2.1 h.2.2
  obtain ⟨st, ⟨hpass, hs⟩ | ⟨hdrop, -, hs⟩ | ⟨hdrop, hend, -, hs⟩⟩ := onEvent_cases
    earlyDrop s (inner ev) (frameTurnId (inner ev))
  · rw [mainSource_next (mainStep_next (hframe.trans hs)) rfl]
    unfold TurnChunk.keptText
    obtain hdrop | ⟨hend, -⟩ := hpass
    · exact (if_pos hdrop).symm
    · rw [text_of_turnEnd hend]
      split_ifs <;> rfl
  · have hsrc : mainSource earlyDrop maxWait s (.frame ev) = [⟨ev, s.expectedTurnId⟩] := by
      unfold mainSource
      rw [mainStep_next (hframe.trans hs)]
      exact sourceOf_concat
    rw [hsrc, List.flatMap_singleton]
    exact (if_neg (by rw [hdrop]; decide)).symm
  · have hsrc : mainSource earlyDrop maxWait s (.frame ev) = [⟨ev, s.expectedTurnId⟩] := by
      unfold mainSource
      rw [mainStep_stop (hframe.trans hs)]
      exact sourceOf_concat
    rw [hsrc, List.flatMap_singleton]
    exact (if_neg (by rw [hdrop]; decide)).symm

/-- An iteration appends the kept text of what it receives. -/
theorem mainSource_text (earlyDrop : List Json → String → Json → Bool) (maxWait : Option ℕ)
    (s : TurnLoop) (t : Tick) :
    (mainSource earlyDrop maxWait s t).flatMap (fun c => c.chunk.text.toList) =
      (mainReceived s t).flatMap (TurnChunk.keptText earlyDrop) := by
  cases t with
  | deadline | silence alive =>
    unfold mainSource
    cases mainStep earlyDrop maxWait s _ <;> rfl
  | frame ev =>
    show _ = (if Received s (inner ev) then [chunkOf (inner ev)] else []).flatMap _
    by_cases hrec : Received s (inner ev)
    · rw [mainSource_of_received hrec, if_pos hrec, List.flatMap_singleton]
    · rw [mainSource_of_not_received hrec, if_neg hrec]
      rfl

/-! ## The drain -/

theorem drainSource_text (earlyDrop : List Json → String → Json → Bool) (L : String)
    (bound : Option String) (d : Drain) (t : Tick) :
    (drainSource earlyDrop L bound d t).flatMap (fun c => c.chunk.text.toList) =
      (drainReceived L t).flatMap (TurnChunk.keptText earlyDrop) := by
  cases t with
  | deadline | silence alive => rfl
  | frame ev =>
    show _ = (if ¬ otherLoop L (inner ev) ∧ (inner ev).getStrD "type" = "event" then
      [chunkOf (inner ev)] else []).flatMap _
    rcases drainSource_cases earlyDrop L bound d (.frame ev) with
      ⟨hd, hsrc, -⟩ | ⟨ev', hev, hd, hsrc, -⟩
    · rw [hsrc]
      by_cases hrec : ¬ otherLoop L (inner ev) ∧ (inner ev).getStrD "type" = "event"
      · rw [if_pos hrec, List.flatMap_singleton]
        have hdrop : (chunkOf (inner ev)).dropped earlyDrop = true :=
          Bool.of_not_eq_false fun hc => hd ev rfl ⟨hrec.1, hrec.2, hc⟩
        exact (if_pos hdrop).symm
      · rw [if_neg hrec]
        rfl
    · obtain rfl := Tick.frame.inj hev
      rw [hsrc, if_pos ⟨hd.1, hd.2.1⟩, List.flatMap_singleton, List.flatMap_singleton]
      exact (if_neg (by rw [hd.2.2]; decide)).symm

/-! ## The turn -/

/-- A turn that returns its chunks has left its main loop regularly. -/
theorem ended_of_ok {S : DaemonSession} {queued late : List Tick} {dropped : ℕ} {r : TurnResult}
    (h : iterTurnChunks earlyDrop maxWait S queued late dropped = some r) (hok : r.result = .ok out) :
    ∃ state s rest, Scan.halt (mainStep earlyDrop maxWait) S.start (peel queued ++ late) =
      some ((.exit (.ended state), s), rest) := by
  unfold iterTurnChunks turnFrom at h
  obtain ⟨⟨⟨left, s⟩, rest⟩, hmain, hafter⟩ := Option.bind_eq_some_iff.1 h
  match left, hafter with
  | .exit (.ended state), _ => exact ⟨state, s, rest, hmain⟩
  | .exit (.failed message), hafter | .timedOut message, hafter | .connectionLost, hafter =>
    obtain rfl := Option.some.inj hafter
    cases hok

/-- What is returned is what was appended. -/
theorem result_appended {S : DaemonSession} {queued late : List Tick} {dropped : ℕ} {r : TurnResult}
    (h : iterTurnChunks earlyDrop maxWait S queued late dropped = some r) (hok : r.result = .ok out) :
    out = appended earlyDrop maxWait S.start (peel queued ++ late) := by
  obtain ⟨state, s, rest, hmain⟩ := ended_of_ok h hok
  rw [result_sources h hok hmain]
  unfold sources appended
  rw [hmain]

/-- What is appended has the kept text of what was received. -/
theorem appended_text (earlyDrop : List Json → String → Json → Bool) (maxWait : Option ℕ)
    (start : TurnLoop) (ticks : List Tick) :
    (joinText (appended earlyDrop maxWait start ticks)).toList =
      (received earlyDrop maxWait start ticks).flatMap (TurnChunk.keptText earlyDrop) := by
  rw [toList_joinText]
  unfold appended received
  rw [List.flatMap_map, List.flatMap_append, List.flatMap_append,
    Scan.flatMap_log_congr (mainSource_text earlyDrop maxWait)]
  congr 1
  cases Scan.halt (mainStep earlyDrop maxWait) start ticks with
  | none => rfl
  | some p =>
    obtain ⟨⟨left, s⟩, rest⟩ := p
    match left with
    | .exit (.ended state) => exact Scan.flatMap_log_congr (drainSource_text earlyDrop _ _)
    | .exit (.failed message) | .timedOut message | .connectionLost => rfl

/-- **Lost text.** A chunk that the early filter drops has no text, and the text that a turn appends
to its output and returns is the text that it received, if and only if no chunk loses its text. -/
theorem filtered_text (ns : List Json) (data : Json) (maxWait : Option ℕ) (S : DaemonSession)
    (queued late : List Tick) (dropped : ℕ) :
    ((shouldDropStreamChunkEarly ns "messages" data = true → (firstMessagePayload data).2.1 = "") ↔
      ¬ LosesChunkText data) ∧
    (joinText (appended shouldDropStreamChunkEarly maxWait S.start (peel queued ++ late)) =
        joinText (received shouldDropStreamChunkEarly maxWait S.start (peel queued ++ late)) ↔
      ∀ chunk ∈ received shouldDropStreamChunkEarly maxWait S.start (peel queued ++ late),
        chunk.mode = "messages" → ¬ LosesChunkText chunk.data) ∧
    ∀ r out, iterTurnChunks shouldDropStreamChunkEarly maxWait S queued late dropped = some r →
      r.result = .ok out →
      out = appended shouldDropStreamChunkEarly maxWait S.start (peel queued ++ late) := by
  refine ⟨dropped_text ns data, ?_, fun r out h hok => result_appended h hok⟩
  rw [← String.toList_inj, appended_text, toList_joinText,
    flatMap_eq_iff fun _ => keptText_sublist]
  refine forall₂_congr fun chunk _ => ?_
  rw [keptText_eq_iff, dropped_text_iff]

/-- A turn with one word returns it. -/
theorem filtered_text_turn :
    joinText (wholeTurnEnd.out) = joinText (received shouldDropStreamChunkEarly none
      (DaemonSession.start { loopId := "L" }) (peel [] ++ (wholeTurn ++ [.deadline]))) := by
  have h := filtered_text [] .null none { loopId := "L" } [] (wholeTurn ++ [.deadline]) 0
  rw [← h.2.1.2, ← h.2.2 _ wholeTurnEnd.out rfl rfl]
  refine List.forall_mem_cons.2 ⟨fun _ => ?_, List.forall_mem_singleton.2 fun hmode => ?_⟩
  · exact (dropped_text [] _).1 fun hdrop => absurd hdrop (by decide)
  · exact absurd hmode (by decide)

/-- A message chunk that is a single blank. -/
def blankToken : Json :=
  .arr [.obj [("type", .str "AIMessageChunk"), ("content", .str " ")], .obj []]

/-- A turn with the blank between two words. -/
def spacedTurn : List Tick :=
  [.frame (statusFrame "running" (some "L:1")),
    .frame (eventFrame "messages" "L:1" (.arr [.obj [("content", .str "a")], .obj []])),
    .frame (eventFrame "messages" "L:1" blankToken),
    .frame (eventFrame "messages" "L:1" (.arr [.obj [("content", .str "b")], .obj []])),
    .frame (streamEndFrame "L:1"), .deadline]

/-- The blank is dropped, and the turn returns the words without it. -/
theorem filtered_text_fails :
    (¬ ∀ (ns : List Json) (data : Json), shouldDropStreamChunkEarly ns "messages" data = true →
      (firstMessagePayload data).2.1 = "") ∧
    ¬ ∀ (maxWait : Option ℕ) (S : DaemonSession) (queued late : List Tick) (dropped : ℕ)
      (r : TurnResult) (out : List TurnChunk),
      iterTurnChunks shouldDropStreamChunkEarly maxWait S queued late dropped = some r →
      r.result = .ok out →
      joinText out =
        joinText (received shouldDropStreamChunkEarly maxWait S.start (peel queued ++ late)) := by
  constructor
  · intro h
    exact absurd (h [] blankToken (by decide)) (by decide)
  · intro h
    have htext := h none { loopId := "L" } [] spacedTurn 0 _ _ rfl rfl
    exact absurd htext (by decide)

end SootheClient.Session
