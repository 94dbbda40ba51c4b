import SootheClient.Frame.Critical
import SootheClient.Frame.Next

/-!
# Loop ids of frames that end a turn

A turn ends with a `complete` frame or with a terminal custom event. The loop of such a frame is
read twice: by `extract_soothe_loop_id` for the application, and for the acknowledgement.
-/

namespace SootheClient.Frame

open Json (Members)

/-- A string member that is not empty. -/
def nonEmptyStr (m : Members) (key : String) : Option String :=
  ((m.get key).bind Json.asStr?).filter (· ≠ "")

/-- `extract_soothe_loop_id`. -/
def extractSootheLoopId (msg : Json) : Option String :=
  match msg.asObject? with
  | none => none
  | some obj =>
    match valueAsStr (obj.get "type") with
    | "next" =>
      match (obj.get "payload").bind Json.asObject? with
      | none => none
      | some payload =>
        let fromData := ((payload.get "data").bind Json.asObject?).bind fun data =>
          (nonEmptyStr data "loop_id").or (nonEmptyStr data "loopId")
        fromData.or (nonEmptyStr payload "loop_id")
    | "status" =>
      let fromParams := (((obj.get "params").bind (·.get "loop_id")).bind Json.asStr?).filter (· ≠ "")
      (fromParams.or (nonEmptyStr obj "loop_id")).or (nonEmptyStr obj "loopId")
    | _ => (nonEmptyStr obj "loop_id").or (nonEmptyStr obj "loopId")

/-- The frame ends a turn for the readers of the event stream. -/
def endsTurn (msg : Json) : Bool :=
  msg.getStr "type" = some "complete" ||
    ((unwrapNext msg).getStr "type" = some "event" &&
      (unwrapNext msg).getStr "mode" = some "custom" &&
      isTurnEndCustomData (((unwrapNext msg).get "data").getD .null))

/-- The `loop_id` of an object, without the white space around it. -/
def trimmedLoopId (m : Members) : String := Text.trim (valueAsStr (m.get "loop_id"))

/-- The places where a `next` frame may name its loop, the outermost first. -/
def nextLoopIds (m payload inner : Members) : List String :=
  [trimmedLoopId m, trimmedLoopId payload, trimmedLoopId inner]

/-- The frame says under `loop_id` that it is of the loop `L`; a `next` frame is also in the mode
of events, and names no other loop further out. -/
def Addressed (msg : Json) (L : String) : Prop :=
  ∃ m, msg.asObject? = some m ∧
    if valueAsStr (m.get "type") = "next" then
      ∃ payload inner, (m.get "payload").bind Json.asObject? = some payload ∧
        (payload.get "data").bind Json.asObject? = some inner ∧
        valueAsStr (payload.get "mode") = "event" ∧
        (nextLoopIds m payload inner).find? (· ≠ "") = some (Text.trim L)
    else trimmedLoopId m ≠ ""

variable {m payload inner : Members} {msg : Json} {L : String}

theorem getStr_obj {key : String} : (Json.obj m).getStr key = (m.get key).bind Json.asStr? := rfl

theorem valueAsStr_of_getStr {key s : String} (h : (Json.obj m).getStr key = some s) :
    valueAsStr (m.get key) = s := by
  unfold valueAsStr
  rw [← getStr_obj, h]
  rfl

/-- What a frame that is no status and not wrapped says of its loop. -/
theorem extractSootheLoopId_of_type {t : String} (ht : valueAsStr (m.get "type") = t)
    (h : t ≠ "next") (hs : t ≠ "status") :
    extractSootheLoopId (.obj m) = (nonEmptyStr m "loop_id").or (nonEmptyStr m "loopId") := by
  unfold extractSootheLoopId
  simp only [Json.asObject?, ht]

/-- Only a `next` frame that carries an object is unwrapped. -/
theorem unwrapNext_cases (m : Members) : unwrapNext (.obj m) = .obj m ∨
    valueAsStr (m.get "type") = "next" ∧ ∃ payload inner : Members,
      (m.get "payload").bind Json.asObject? = some payload ∧
      (payload.get "data").bind Json.asObject? = some inner ∧ unwrapNext (.obj m) = .obj inner := by
  unfold unwrapNext
  simp only [Json.asObject?]
  by_cases ht : (m.get "type").bind Json.asStr? = some "next"
  · rw [if_neg (not_not.2 ht)]
    cases hp : (m.get "payload").bind Json.asObject? with
    | none => exact Or.inl rfl
    | some payload =>
      simp only
      cases hd : payload.get "data" with
      | none => exact Or.inl rfl
      | some data =>
        cases data with
        | obj inner =>
          exact Or.inr ⟨valueAsStr_of_getStr ht, payload, inner, rfl, by rw [hd]; rfl, rfl⟩
        | null | bool | num | str | arr => exact Or.inl rfl
  · exact Or.inl (if_pos ht)

theorem extractLoopIdFromInbound_of_type (h : valueAsStr (m.get "type") ≠ "next") :
    extractLoopIdFromInbound (.obj m) = trimmedLoopId m := by
  unfold extractLoopIdFromInbound trimmedLoopId
  simp only [Json.asObject?]
  split_ifs with hd
  · rfl
  · exact (not_not.1 hd).symm

/-- The loop of a `next` frame is the outermost one that it names. -/
theorem extractLoopIdFromInbound_next (ht : valueAsStr (m.get "type") = "next")
    (hp : (m.get "payload").bind Json.asObject? = some payload)
    (hi : (payload.get "data").bind Json.asObject? = some inner) :
    extractLoopIdFromInbound (.obj m) =
      ((nextLoopIds m payload inner).find? (· ≠ "")).getD "" := by
  unfold extractLoopIdFromInbound nextLoopIds trimmedLoopId
  simp only [Json.asObject?, ht, hp, hi]
  by_cases hd : Text.trim (valueAsStr (m.get "loop_id")) = ""
  · by_cases hq : Text.trim (valueAsStr (payload.get "loop_id")) = ""
    · by_cases hr : Text.trim (valueAsStr (inner.get "loop_id")) = ""
      · simp [hd, hq, hr]
      · simp [hd, hq, hr]
    · simp [hd, hq]
  · simp [hd]

/-- A frame that ends a turn is complete, or a terminal event, or carries one. -/
theorem endsTurn_cases (h : endsTurn msg = true) : ∃ m : Members, msg = .obj m ∧
    (valueAsStr (m.get "type") = "complete" ∨
      (valueAsStr (m.get "type") = "event" ∧ inboundNeedsAckFromEventShape m = true) ∨
      (valueAsStr (m.get "type") = "next" ∧ ∃ payload inner : Members,
        (m.get "payload").bind Json.asObject? = some payload ∧
        (payload.get "data").bind Json.asObject? = some inner ∧
        inboundNeedsAckFromEventShape inner = true)) := by
  have hshape : ∀ {v : Members}, (Json.obj v).getStr "mode" = some "custom" →
      isTurnEndCustomData (((Json.obj v).get "data").getD .null) = true →
      inboundNeedsAckFromEventShape v = true := by
    intro v hm hd
    unfold inboundNeedsAckFromEventShape
    rw [valueAsStr_of_getStr hm]
    exact if_pos (Bool.and_eq_true_iff.2 ⟨by decide, hd⟩)
  unfold endsTurn at h
  rw [Bool.or_eq_true, decide_eq_true_eq, Bool.and_eq_true, Bool.and_eq_true, decide_eq_true_eq,
    decide_eq_true_eq] at h
  cases msg with
  | obj m =>
    refine ⟨m, rfl, ?_⟩
    rcases h with hc | ⟨⟨ht, hm⟩, hd⟩
    · exact Or.inl (valueAsStr_of_getStr hc)
    · rcases unwrapNext_cases m with hself | ⟨hnext, payload, inner, hp, hi, hinner⟩
      · rw [hself] at ht hm hd
        exact Or.inr (Or.inl ⟨valueAsStr_of_getStr ht, hshape hm hd⟩)
      · rw [hinner] at hm hd
        exact Or.inr (Or.inr ⟨hnext, payload, inner, hp, hi, hshape hm hd⟩)
  | null | bool | num | str | arr =>
    rcases h with hc | ⟨⟨ht, -⟩, -⟩
    · cases hc
    · cases ht

/-- A non-blank loop id of a frame that is not wrapped is that of `loop_id`, when it has one. -/
theorem trimmedLoopId_of_extract
    (h : (nonEmptyStr m "loop_id").or (nonEmptyStr m "loopId") = some L) :
    trimmedLoopId m = Text.trim L ∨ trimmedLoopId m = "" := by
  unfold nonEmptyStr at h
  unfold trimmedLoopId valueAsStr
  cases hk : (m.get "loop_id").bind Json.asStr? with
  | none => exact Or.inr (by decide)
  | some t =>
    by_cases ht : t = ""
    · rw [ht]
      exact Or.inr (by decide)
    · rw [hk, Option.filter_some, if_pos (decide_eq_true ht), Option.some_or] at h
      rw [Option.some.inj h]
      exact Or.inl rfl

/-- **Acknowledged turn ends.** A frame that ends a turn is acknowledged for its loop exactly when
it is addressed to it. -/
theorem acknowledged_for_iff (hend : endsTurn msg = true) (hL : extractSootheLoopId msg = some L)
    (hne : Text.trim L ≠ "") :
    (inboundNeedsDeliveryAck msg = true ∧ extractLoopIdFromInbound msg = Text.trim L) ↔
      Addressed msg L := by
  obtain ⟨m, rfl, h⟩ := endsTurn_cases hend
  have haddressed : Addressed (.obj m) L ↔
      if valueAsStr (m.get "type") = "next" then
        ∃ payload inner, (m.get "payload").bind Json.asObject? = some payload ∧
          (payload.get "data").bind Json.asObject? = some inner ∧
          valueAsStr (payload.get "mode") = "event" ∧
          (nextLoopIds m payload inner).find? (· ≠ "") = some (Text.trim L)
      else trimmedLoopId m ≠ "" :=
    ⟨fun ⟨_, hm, hc⟩ => Option.some.inj hm ▸ hc, fun hc => ⟨m, rfl, hc⟩⟩
  rw [haddressed, acknowledged_iff]
  have hflat : ∀ {t : String}, valueAsStr (m.get "type") = t → t ≠ "next" → t ≠ "status" →
      Acknowledged m →
      ((Acknowledged m ∧ extractLoopIdFromInbound (.obj m) = Text.trim L) ↔
        trimmedLoopId m ≠ "") := by
    intro t ht hnext hstatus hack
    rw [extractSootheLoopId_of_type ht hnext hstatus] at hL
    rw [extractLoopIdFromInbound_of_type (ht.trans_ne hnext)]
    rcases trimmedLoopId_of_extract hL with heq | hblank
    · rw [heq]
      exact iff_of_true ⟨hack, rfl⟩ hne
    · rw [hblank]
      exact iff_of_false (fun hc => hne hc.2.symm) fun hc => hc rfl
  rcases h with ht | ⟨ht, hs⟩ | ⟨ht, payload, inner, hp, hi, hs⟩
  · rw [if_neg (by rw [ht]; decide)]
    exact hflat ht (by decide) (by decide) (.complete ht)
  · rw [if_neg (by rw [ht]; decide)]
    exact hflat ht (by decide) (by decide) (.event ht hs)
  · rw [if_pos ht, extractLoopIdFromInbound_next ht hp hi]
    constructor
    · rintro ⟨hack, hid⟩
      refine ⟨payload, inner, hp, hi, ?_, ?_⟩
      · cases hack with
        | complete ht' | event ht' => exact absurd (ht.symm.trans ht') (by decide)
        | next payload' inner' _ hp' hi' hm =>
          obtain rfl := Option.some.inj (hp.symm.trans hp')
          exact hm
      · cases hf : (nextLoopIds m payload inner).find? (· ≠ "") with
        | none =>
          rw [hf] at hid
          exact absurd hid.symm hne
        | some l =>
          rw [hf] at hid
          exact congrArg some hid
    · rintro ⟨payload', inner', hp', hi', hm, hf⟩
      obtain rfl := Option.some.inj (hp.symm.trans hp')
      obtain rfl := Option.some.inj (hi.symm.trans hi')
      refine ⟨.next payload inner ht hp hi hm hs, ?_⟩
      rw [hf]
      rfl

end SootheClient.Frame
