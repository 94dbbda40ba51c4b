import SootheClient.Frame.Next
import SootheClient.Frame.StalePending
import SootheClient.Frame.TurnId
import SootheClient.Lib.Members

/-!
# The two encodings of a namespace

A namespace comes as a list of segments or as one string, the segments joined by dots. `dotted`
joins the namespaces of a frame: its own and, in a `next` envelope, those of the payload and of the
frame inside. Readers of the other members cannot tell the difference.
-/

namespace SootheClient.Frame

open Json (Members)

/-- A segment of a namespace: a string that is not empty and has no dot. -/
def isSegment (v : Json) : Bool :=
  match v.asStr? with
  | some s => s ≠ "" && !s.toList.contains '.'
  | none => false

/-- The segments joined by dots. -/
def joinDots (segments : List Json) : String :=
  String.intercalate "." (segments.filterMap Json.asStr?)

/-- The value is a list of segments. -/
def isSegmentList : Json → Bool
  | .arr items => items.all isSegment
  | _ => false

/-- A list of segments as a string; another value as it is. -/
def joinSegments (v : Json) : Json :=
  if isSegmentList v then .str (joinDots (v.asArray?.getD [])) else v

def joinNamespace (m : Members) : Members := m.mapAt "namespace" joinSegments

/-- Change an object; another value stays as it is. -/
def onObject (f : Members → Members) : Json → Json
  | .obj m => .obj (f m)
  | v => v

/-- A payload with its own namespace joined and that of the frame it carries. -/
def joinPayload (payload : Members) : Members :=
  joinNamespace (payload.mapAt "data" (onObject joinNamespace))

/-- A frame with its namespaces joined. -/
def dotted (msg : Json) : Json :=
  onObject (fun m => joinNamespace (if msg.getStr "type" = some "next" then
    m.mapAt "payload" (onObject joinPayload) else m)) msg

/-- `route_inbound` feeds the heartbeat tracker, if there is one. -/
def feedsHeartbeat (msg : Json) : Bool :=
  if msg.getStr "type" = some "ping" then false
  else if msg.getStr "type" = some "pong" then false
  else
    let ns := (((msg.get "namespace").or (msg.get "type")).bind Json.asStr?).getD ""
    Text.contains ns "heartbeat"

/-! ## What readers see -/

variable {m : Members} {v w msg : Json} {key : String}

/-- `w` is `v` with its namespace joined, for readers that do not open a payload. -/
structure Joined (v w : Json) : Prop where
  get : ∀ key, key ≠ "namespace" → key ≠ "payload" → w.get key = v.get key
  ns : w.get "namespace" = (v.get "namespace").map joinSegments
  object : w.asObject?.isSome = v.asObject?.isSome

theorem joinNamespace_get (hkey : key ≠ "namespace") : (joinNamespace m).get key = m.get key := by
  unfold joinNamespace
  rw [Members.get_mapAt, if_neg hkey]

theorem joinNamespace_ns : (joinNamespace m).get "namespace" =
    (m.get "namespace").map joinSegments := by
  unfold joinNamespace
  rw [Members.get_mapAt, if_pos rfl]

theorem joined_joinNamespace : Joined (.obj m) (.obj (joinNamespace m)) where
  get _ hkey _ := joinNamespace_get hkey
  ns := joinNamespace_ns
  object := rfl

theorem joined_refl_of_not_object (h : v.asObject? = none) : Joined v v where
  get _ _ _ := rfl
  ns := by
    unfold Json.get
    rw [h]
    rfl
  object := rfl

theorem dotted_next (h : (Json.obj m).getStr "type" = some "next") : dotted (.obj m) =
    .obj (joinNamespace (m.mapAt "payload" (onObject joinPayload))) :=
  congrArg (fun m' => Json.obj (joinNamespace m')) (if_pos h)

theorem dotted_bare (h : (Json.obj m).getStr "type" ≠ some "next") : dotted (.obj m) =
    .obj (joinNamespace m) :=
  congrArg (fun m' => Json.obj (joinNamespace m')) (if_neg h)

/-- The frame itself, whatever its type. -/
theorem joined_dotted (v : Json) : Joined v (dotted v) := by
  cases v with
  | obj m =>
    by_cases hnext : (Json.obj m).getStr "type" = some "next"
    · rw [dotted_next hnext]
      refine ⟨fun key hns hpayload => ?_, ?_, rfl⟩
      · show (joinNamespace _).get key = Members.get m key
        rw [joinNamespace_get hns, Members.get_mapAt, if_neg hpayload]
      · show (joinNamespace _).get "namespace" = _
        rw [joinNamespace_ns, Members.get_mapAt, if_neg (by decide)]
        rfl
    · rw [dotted_bare hnext]
      exact joined_joinNamespace
  | _ => exact joined_refl_of_not_object rfl

theorem Joined.getStr (h : Joined v w) (key : String) (hns : key ≠ "namespace")
    (hpayload : key ≠ "payload") : w.getStr key = v.getStr key := by
  unfold Json.getStr
  rw [h.get key hns hpayload]

theorem Joined.getStrD (h : Joined v w) (key : String) (hns : key ≠ "namespace")
    (hpayload : key ≠ "payload") : w.getStrD key = v.getStrD key := by
  unfold Json.getStrD
  rw [h.getStr key hns hpayload]

theorem Joined.frameTurnId (h : Joined v w) : Frame.frameTurnId w = Frame.frameTurnId v := by
  unfold Frame.frameTurnId
  rw [h.getStr _ (by decide) (by decide), h.get "data" (by decide) (by decide)]

theorem onObject_asObject {f : Members → Members} :
    (onObject f v).asObject? = v.asObject?.map f := by
  cases v <;> rfl

/-- The payload of a `next` frame after the joining. -/
theorem dotted_payload :
    ((joinNamespace (m.mapAt "payload" (onObject joinPayload))).get "payload").bind
      Json.asObject? = ((Members.get m "payload").bind Json.asObject?).map joinPayload := by
  rw [joinNamespace_get (by decide), Members.get_mapAt, if_pos rfl]
  cases Members.get m "payload" with
  | none => rfl
  | some v => exact onObject_asObject

theorem unwrapNext_next (hnext : (Json.obj m).getStr "type" = some "next") :
    unwrapNext (.obj m) =
      match (Members.get m "payload").bind Json.asObject? with
      | none => .obj m
      | some payload =>
        match payload.get "data" with
        | some data => if data.asObject?.isSome then data else .obj m
        | none => .obj m :=
  if_neg (not_not.2 hnext)

theorem joinPayload_data : (joinPayload m).get "data" =
    (m.get "data").map (onObject joinNamespace) := by
  unfold joinPayload
  rw [joinNamespace_get (by decide), Members.get_mapAt, if_pos rfl]

/-- The frame in the envelope of a `next` frame is joined too. -/
theorem joined_unwrapNext (msg : Json) : Joined (unwrapNext msg) (unwrapNext (dotted msg)) := by
  have hself := joined_dotted msg
  cases msg with
  | obj m =>
    by_cases hnext : (Json.obj m).getStr "type" = some "next"
    · have hnext' : (dotted (.obj m)).getStr "type" = some "next" :=
        (hself.getStr _ (by decide) (by decide)).trans hnext
      rw [dotted_next hnext] at hself hnext' ⊢
      rw [unwrapNext_next hnext, unwrapNext_next hnext', dotted_payload]
      cases hp : (Members.get m "payload").bind Json.asObject? with
      | none => exact hself
      | some p =>
        simp only [Option.map_some]
        rw [joinPayload_data]
        cases hd : Members.get p "data" with
        | none => exact hself
        | some d =>
          cases d with
          | obj inner => exact joined_joinNamespace
          | _ => exact hself
    · have hnext' : (dotted (.obj m)).getStr "type" ≠ some "next" := fun h =>
        hnext ((hself.getStr _ (by decide) (by decide)).symm.trans h)
      rw [unwrapNext_eq_inner, unwrapNext_eq_inner, inner_of_type hnext, inner_of_type hnext']
      exact hself
  | _ => exact joined_refl_of_not_object rfl

/-- The label of a `next` frame: that of its mode, or of the frame inside. -/
theorem objectPendingLabel_next (ht : valueAsStr (m.get "type") = "next") :
    objectPendingLabel m = ((m.get "payload").bind Json.asObject?).bind fun payload =>
      if isStalePendingType (valueAsStr (payload.get "mode")) then
        some (valueAsStr (payload.get "mode"))
      else ((payload.get "data").bind Json.asObject?).bind objectPendingLabel := by
  rw [objectPendingLabel]
  simp only [ht]
  rw [if_neg (by decide), if_pos trivial]
  split
  · next hp => rw [hp, Option.bind_none]
  · next payload hp =>
    rw [hp, Option.bind_some]
    split
    · rfl
    · split
      · next hi => rw [hi, Option.bind_none]
      · next inner hi => rw [hi, Option.bind_some]

/-- The label goes by other members than the namespace. -/
theorem objectPendingLabel_joinNamespace :
    objectPendingLabel (joinNamespace m) = objectPendingLabel m := by
  have htype : (joinNamespace m).get "type" = m.get "type" := joinNamespace_get (by decide)
  by_cases hnext : valueAsStr (m.get "type") = "next"
  · rw [objectPendingLabel_next hnext, objectPendingLabel_next (by rw [htype]; exact hnext),
      joinNamespace_get (by decide)]
  · rw [objectPendingLabel, objectPendingLabel]
    simp only [htype]
    rw [if_neg hnext, if_neg hnext]
    unfold terminalLabel
    rw [joinNamespace_get (by decide), joinNamespace_get (by decide)]

/-- The same frames are peeled off the queue. -/
theorem stalePendingFrameLabel_dotted (msg : Json) :
    stalePendingFrameLabel (dotted msg) = stalePendingFrameLabel msg := by
  cases msg with
  | obj m =>
    by_cases hnext : (Json.obj m).getStr "type" = some "next"
    · have ht : valueAsStr (Members.get m "type") = "next" := congrArg (Option.getD · "") hnext
      have ht' : valueAsStr
          ((Members.mapAt m "payload" (onObject joinPayload)).get "type") =
          "next" := by
        rw [Members.get_mapAt, if_neg (by decide)]
        exact ht
      rw [dotted_next hnext]
      show objectPendingLabel (joinNamespace _) = objectPendingLabel m
      rw [objectPendingLabel_joinNamespace, objectPendingLabel_next ht, objectPendingLabel_next ht',
        Members.get_mapAt, if_pos rfl]
      cases Members.get m "payload" with
      | none => rfl
      | some v =>
        rw [Option.map_some, Option.bind_some, Option.bind_some, onObject_asObject]
        cases v.asObject? with
        | none => rfl
        | some payload =>
          rw [Option.map_some, Option.bind_some, Option.bind_some, joinPayload_data]
          have hmode : (joinPayload payload).get "mode" = payload.get "mode" := by
            unfold joinPayload
            rw [joinNamespace_get (by decide), Members.get_mapAt, if_neg (by decide)]
          rw [hmode]
          cases Members.get payload "data" with
          | none => rfl
          | some d =>
            cases d with
            | obj inner =>
              show (if _ then _ else objectPendingLabel (joinNamespace inner)) = _
              rw [objectPendingLabel_joinNamespace]
              rfl
            | _ => rfl
    · rw [dotted_bare hnext]
      exact objectPendingLabel_joinNamespace
  | _ => rfl

/-! ## Where the encodings differ -/

/-- The namespace is a list of segments, and the word is in it. -/
def ListNames (msg : Json) (word : String) : Prop :=
  ∃ items, msg.get "namespace" = some (.arr items) ∧ isSegmentList (.arr items) = true ∧
    Text.contains (joinDots items) word = true

theorem joinSegments_of_list {items : List Json} (h : isSegmentList (.arr items) = true) :
    joinSegments (.arr items) = .str (joinDots items) :=
  if_pos h

theorem joinSegments_of_not (h : isSegmentList v = false) : joinSegments v = v := by
  unfold joinSegments
  rw [if_neg (by rw [h]; decide)]

theorem isSegmentList_arr (h : isSegmentList v = true) : ∃ items, v = .arr items := by
  cases v with
  | arr items => exact ⟨items, rfl⟩
  | _ => cases h

theorem feedsHeartbeat_of_routed (hping : msg.getStr "type" ≠ some "ping")
    (hpong : msg.getStr "type" ≠ some "pong") : feedsHeartbeat msg =
      Text.contains ((((msg.get "namespace").or (msg.get "type")).bind Json.asStr?).getD "")
        "heartbeat" := by
  unfold feedsHeartbeat
  rw [if_neg hping, if_neg hpong]

/-- The router reads a string only: a list that names the heartbeat goes unseen. -/
theorem feedsHeartbeat_dotted_iff : feedsHeartbeat (dotted msg) = feedsHeartbeat msg ↔
    ¬ (msg.getStr "type" ≠ some "ping" ∧ msg.getStr "type" ≠ some "pong" ∧
      ListNames msg "heartbeat") := by
  have hj := joined_dotted msg
  have htype := hj.getStr "type" (by decide) (by decide)
  by_cases hping : msg.getStr "type" = some "ping"
  · refine iff_of_true ?_ fun h => h.1 hping
    unfold feedsHeartbeat
    rw [htype, if_pos hping, if_pos hping]
  by_cases hpong : msg.getStr "type" = some "pong"
  · refine iff_of_true ?_ fun h => h.2.1 hpong
    unfold feedsHeartbeat
    rw [htype, if_neg hping, if_neg hping, if_pos hpong, if_pos hpong]
  rw [feedsHeartbeat_of_routed hping hpong, feedsHeartbeat_of_routed (by rwa [htype])
    (by rwa [htype]), hj.ns, hj.get "type" (by decide) (by decide)]
  cases hns : msg.get "namespace" with
  | none =>
    refine iff_of_true rfl ?_
    rintro ⟨-, -, items, hitems, -⟩
    cases hns.symm.trans hitems
  | some v =>
    rw [Option.map_some, Option.some_or, Option.some_or]
    cases hlist : isSegmentList v with
    | false =>
      rw [joinSegments_of_not hlist]
      refine iff_of_true rfl ?_
      rintro ⟨-, -, items, hitems, hall, -⟩
      obtain rfl := Option.some.inj (hns.symm.trans hitems)
      cases hlist.symm.trans hall
    | true =>
      obtain ⟨items, rfl⟩ := isSegmentList_arr hlist
      rw [joinSegments_of_list hlist]
      have hunseen : Text.contains (((some (Json.arr items)).bind Json.asStr?).getD "")
          "heartbeat" = false := (by decide : Text.contains "" "heartbeat" = false)
      rw [hunseen]
      show Text.contains (joinDots items) "heartbeat" = false ↔ _
      rw [← Bool.not_eq_true, not_iff_not]
      constructor
      · exact fun h => ⟨hping, hpong, items, hns, hlist, h⟩
      · rintro ⟨-, -, items', hitems, -, hc⟩
        obtain rfl := Json.arr.inj (Option.some.inj (hns.symm.trans hitems))
        exact hc

end SootheClient.Frame
