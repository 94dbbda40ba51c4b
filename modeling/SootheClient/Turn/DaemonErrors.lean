import SootheClient.Client.Shared
import SootheClient.Turn.Classifier

/-!
# Daemon errors

The client and the classifier read the message of an error frame on their own: `parse_daemon_error`
takes the one in the `error` object, or a flat one, and `process_envelope_error` the first only.
-/

namespace SootheClient.Turn

open SootheClient.Frame
open SootheClient.Client (parseDaemonError)
open Json (Members)

/-- The text of an error frame without an `error` object. -/
def UNKNOWN_DAEMON_ERROR : String := "daemon error [-32603]: "

/-- The outcome fails the turn with a text that contains the message. -/
def ChatEventResult.Surfaces (r : ChatEventResult) (message : String) : Prop :=
  r.terminal = .failedComplete ∧ ∃ err, r.error = some err ∧ Text.contains err message = true

/-- The error frame is not taken for a status, and it has an `error` member or no flat message that
would be left out. -/
structure Readable (v : Json) : Prop where
  state : v.get "state" = none ∨ (v.get "mode").isSome
  message : (v.get "error").isSome ∨
    ∀ m, v.getStr "message" = some m → Text.contains UNKNOWN_DAEMON_ERROR m = true

variable {fromStr : String → Option Members} {cl : EventClassifier} {msg v err : Json}
  {accumulated m text : String}

theorem failedResult_surfaces :
    (EventClassifier.failedResult text).Surfaces m ↔ Text.contains text m = true := by
  constructor
  · rintro ⟨-, err, herr, h⟩
    obtain rfl := Option.some.inj herr
    exact h
  · intro h
    exact ⟨rfl, text, rfl, h⟩

theorem processStatus_not_failed {gate : Option TurnLifecycleGate} :
    (cl.processStatus v accumulated gate).terminal ≠ .failedComplete := by
  unfold EventClassifier.processStatus
  simp only
  split_ifs <;> exact fun h => nomatch h

theorem isStatusMessage_of_error (h : v.getStr "type" = some "error") :
    isStatusMessage v = true ↔ v.get "state" ≠ none ∧ v.get "mode" = none := by
  unfold isStatusMessage
  rw [h, Bool.or_eq_true, Bool.and_eq_true, decide_eq_true_eq, Option.isSome_iff_ne_none,
    Option.isNone_iff_eq_none]
  exact or_iff_right (by decide)

/-- An error frame is an envelope error, unless it is taken for a status. -/
theorem classify_error (h : (unwrapNext msg).getStr "type" = some "error") :
    cl.classify fromStr msg accumulated =
      if isStatusMessage (unwrapNext msg) then cl.processStatus (unwrapNext msg) accumulated none
      else EventClassifier.processEnvelopeError (unwrapNext msg) := by
  have htype : (unwrapNext msg).getStrD "type" = "error" := by
    rw [Json.getStrD, h]
    rfl
  unfold EventClassifier.classify EventClassifier.processChatEvent
  simp only
  rw [htype, if_pos rfl]

/-- Every text of the classifier names the daemon. -/
theorem contains_daemon_error (code : String) (m : String) :
    Text.contains s!"daemon error [{code}]: {m}" "daemon error" = true := by
  have happ : s!"daemon error [{code}]: {m}" = "" ++ "daemon error" ++ s!" [{code}]: {m}" := by
    rw [← String.toList_inj]
    simp [toString]
  rw [happ]
  exact Text.contains_append _ _ _

theorem contains_message (code : String) (m : String) :
    Text.contains s!"daemon error [{code}]: {m}" m = true := by
  have happ : s!"daemon error [{code}]: {m}" = s!"daemon error [{code}]: " ++ m ++ "" := by
    rw [← String.toList_inj]
    simp [toString]
  rw [happ]
  exact Text.contains_append _ _ _

/-- The message of an `error` member is shown. -/
theorem envelopeError_of_error (h : v.get "error" = some err) :
    (EventClassifier.processEnvelopeError v).Surfaces (parseDaemonError v).message := by
  unfold EventClassifier.processEnvelopeError parseDaemonError
  simp only [h, Option.bind_some]
  rw [failedResult_surfaces]
  cases hm : err.getStr "message" with
  | none => exact contains_daemon_error _ _
  | some m =>
    have hmap : ((err.asObject?.bind (·.get "message")).bind Json.asStr?) = some m := hm
    rw [hmap]
    exact contains_message _ _

/-- Without an `error` member the text is fixed. -/
theorem envelopeError_of_none (h : v.get "error" = none) :
    (EventClassifier.processEnvelopeError v).Surfaces (parseDaemonError v).message ↔
      ∀ m, v.getStr "message" = some m → Text.contains UNKNOWN_DAEMON_ERROR m = true := by
  have htext : EventClassifier.processEnvelopeError v =
      EventClassifier.failedResult UNKNOWN_DAEMON_ERROR := by
    unfold EventClassifier.processEnvelopeError
    rw [h]
    rfl
  have hparse : (parseDaemonError v).message = (v.getStr "message").getD "daemon error" := by
    unfold parseDaemonError
    rw [h]
  rw [htext, failedResult_surfaces, hparse]
  cases hm : v.getStr "message" with
  | none => exact iff_of_true (by decide) fun m hm => nomatch hm
  | some m => exact ⟨fun h m' hm' => Option.some.inj hm' ▸ h, fun h => h m rfl⟩

/-- **Daemon errors are surfaced.** An error frame fails the turn with the message that the client
reads from it, if and only if it is readable. -/
theorem daemon_error_surfaced (fromStr : String → Option Members) (cl : EventClassifier)
    (msg : Json) (accumulated : String) (h : (unwrapNext msg).getStr "type" = some "error") :
    (cl.classify fromStr msg accumulated).Surfaces (parseDaemonError (unwrapNext msg)).message ↔
      Readable (unwrapNext msg) := by
  rw [classify_error h]
  by_cases hst : isStatusMessage (unwrapNext msg) = true
  · rw [if_pos hst]
    obtain ⟨hstate, hmode⟩ := (isStatusMessage_of_error h).1 hst
    constructor
    · exact fun hs => absurd hs.1 processStatus_not_failed
    · intro hr
      rcases hr.state with hnone | hsome
      · exact absurd hnone hstate
      · rw [hmode] at hsome
        cases hsome
  rw [if_neg hst]
  have hstate : (unwrapNext msg).get "state" = none ∨ ((unwrapNext msg).get "mode").isSome := by
    by_contra hcon
    rw [not_or, Option.isSome_iff_ne_none, not_not] at hcon
    exact hst ((isStatusMessage_of_error h).2 hcon)
  cases herr : (unwrapNext msg).get "error" with
  | some err =>
    exact iff_of_true (envelopeError_of_error herr) ⟨hstate, Or.inl (by rw [herr]; rfl)⟩
  | none =>
    rw [envelopeError_of_none herr]
    refine ⟨fun hm => ⟨hstate, Or.inr hm⟩, fun hr => ?_⟩
    rcases hr.message with hsome | hm
    · rw [herr] at hsome
      cases hsome
    · exact hm

/-- An error in the nested shape is surfaced. -/
theorem daemon_error_surfaced_nested :
    (EventClassifier.withDefaults.classify (fun _ => none)
      (.obj [("type", .str "error"), ("error", .obj [("message", .str "no such loop")])])
      "").Surfaces "no such loop" :=
  (daemon_error_surfaced (fun _ => none) .withDefaults
    (.obj [("type", .str "error"), ("error", .obj [("message", .str "no such loop")])]) "" rfl).2
    ⟨Or.inl rfl, Or.inl rfl⟩

/-- The message of a flat error frame is left out. -/
theorem daemon_error_surfaced_fails :
    ¬ ∀ (fromStr : String → Option Members) (cl : EventClassifier) (msg : Json)
      (accumulated : String), (unwrapNext msg).getStr "type" = some "error" →
      (cl.classify fromStr msg accumulated).Surfaces
        (parseDaemonError (unwrapNext msg)).message := by
  intro h
  have hs := h (fun _ => none) .withDefaults
    (.obj [("type", .str "error"), ("message", .str "overloaded")]) "" rfl
  obtain ⟨-, err, herr, hin⟩ := hs
  obtain rfl := Option.some.inj herr
  exact absurd hin (by decide)

end SootheClient.Turn
