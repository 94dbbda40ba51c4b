import SootheClient.Cards.CardProjection
import SootheClient.Lib.Members

/-!
# Cards as a replayed log

Each payload is an event on the cards: a replay that begins clears them, an accepted creation
writes a card, an accepted update or finalisation patches one, and all else is skipped. The
projection represents the store that replays this log.
-/

namespace SootheClient.Cards

open SootheClient.Frame
open Json (Members)
open Replay (Event Store)

/-- The object under `data`. -/
def cardPayload (obj : Members) : Members := ((obj.get "data").bind Json.asObject?).getD []

/-- The id that a card frame is about: that of its payload, or else its `card_id`. -/
def cardIdOf (obj : Members) : String :=
  if Text.trim (asStr (cardPayload obj) "id") ≠ "" then Text.trim (asStr (cardPayload obj) "id")
  else Text.trim (asStr obj "card_id")

/-- The card that a creation writes: its payload, with the id of the frame when it has none. -/
def createdCard (obj : Members) : Members :=
  if Text.trim (asStr (cardPayload obj) "id") = "" then
    Members.insert (cardPayload obj) "id" (.str (cardIdOf obj))
  else cardPayload obj

/-- What a payload says of the cards. -/
def eventOf (data : Json) : Event String Members Members :=
  match data.asObject? with
  | none => .skip
  | some obj =>
    let kind := Text.trim (asStr obj "type")
    if kind = EVENT_CARD_REPLAY_BEGIN then .clear
    else if cardIdOf obj = "" then .skip
    else if kind = EVENT_CARD_CREATED then
      if (cardPayload obj).containsKey "type" && (cardPayload obj).containsKey "content" then
        .put (cardIdOf obj) (createdCard obj)
      else .skip
    else if kind = EVENT_CARD_UPDATED ∨ kind = EVENT_CARD_FINALIZED then
      .patch (cardIdOf obj) (cardPayload obj)
    else .skip

/-- The card has the members of the base and over them, but for `id` and `type`, the last member of
each name in the patches. -/
def Overlaid (base : Members) (patches : List Members) (card : Members) : Prop :=
  ∀ key, card.get key =
    if key = "id" ∨ key = "type" then base.get key
    else (Members.get patches.flatten.reverse key).or (base.get key)

variable {p : CardProjection} {s : Store String Members} {obj m card patch base : Members}
  {key id : String} {v : Json} {data : Json} {patches : List Members}

/-! ## Ids -/

theorem asStr_fillId : asStr (fillId m id) "id" =
    if Text.trim (asStr m "id") = "" ∧ id ≠ "" then id else asStr m "id" := by
  unfold fillId
  split_ifs with h
  · unfold asStr
    rw [Members.get_insert_self]
    rfl
  · rfl

/-- Filling in the id gives the id of the payload, or else the given one. -/
theorem trim_fillId (h : Text.trim id = id) : Text.trim (asStr (fillId m id) "id") =
    if Text.trim (asStr m "id") ≠ "" then Text.trim (asStr m "id") else id := by
  rw [asStr_fillId]
  by_cases hown : Text.trim (asStr m "id") = ""
  · rw [if_neg (not_not.2 hown)]
    by_cases hid : id = ""
    · rw [if_neg fun hc => hc.2 hid, hown, hid]
    · rw [if_pos ⟨hown, hid⟩, h]
  · rw [if_neg fun hc => hown hc.1, if_pos hown]

/-! ## The overlay -/

theorem overlay_cons {k : String} : overlay card ((k, v) :: patch) =
    overlay (if k = "id" ∨ k = "type" then card else Members.insert card k v) patch := rfl

/-- **Member law.** The overlay takes the last member of each name from the patch, and leaves the id
and the type of the card. -/
theorem overlay_get : (overlay card patch).get key =
    if key = "id" ∨ key = "type" then card.get key
    else (Members.get patch.reverse key).or (card.get key) := by
  induction patch generalizing card with
  | nil => exact (ite_self _).symm
  | cons kv patch ih =>
    obtain ⟨k, w⟩ := kv
    rw [overlay_cons, ih, List.reverse_cons, Members.get_append, Members.get_cons]
    by_cases hkey : key = "id" ∨ key = "type"
    · rw [if_pos hkey, if_pos hkey]
      split_ifs with hk
      · rfl
      · exact Members.get_insert_of_ne fun h => hk (h ▸ hkey)
    · rw [if_neg hkey, if_neg hkey, Option.or_assoc]
      congr 1
      by_cases h : key = k
      · rw [if_pos h, if_neg (h ▸ hkey), h, Members.get_insert_self]
        rfl
      · rw [if_neg h]
        split_ifs
        · rfl
        · exact Members.get_insert_of_ne h

/-- Patches laid over one another, left to right. -/
theorem overlaid_foldl : Overlaid base patches (patches.foldl overlay base) := by
  intro key
  induction patches generalizing base with
  | nil => exact (ite_self _).symm
  | cons patch patches ih =>
    rw [List.foldl_cons, ih, overlay_get, List.flatten_cons, List.reverse_append,
      Members.get_append]
    split_ifs
    · rfl
    · rw [Option.or_assoc]

/-- The overlay does not touch the id. -/
theorem overlay_get_id : (overlay card patch).get "id" = card.get "id" := by
  rw [overlay_get, if_pos (Or.inl rfl)]

theorem overlay_filter_id : overlay card (patch.filter (·.1 != "id")) = overlay card patch := by
  induction patch generalizing card with
  | nil => rfl
  | cons kv patch ih =>
    obtain ⟨k, w⟩ := kv
    by_cases hk : k = "id"
    · rw [List.filter_cons_of_neg (by simp [hk]), ih, overlay_cons, if_pos (Or.inl hk)]
    · rw [List.filter_cons_of_pos (by simp [hk]), overlay_cons, overlay_cons, ih]

/-- An id given to the payload does not take part in the overlay. -/
theorem overlay_fillId : overlay card (fillId patch id) = overlay card patch := by
  unfold fillId
  split_ifs
  · show overlay card (("id", _) :: _) = _
    rw [overlay_cons, if_pos (Or.inl rfl), overlay_filter_id]
  · rfl

/-! ## One payload -/

/-- The id that the parser resolves: the `card_id`, or else the id of the payload. -/
def parsedId (obj : Members) : String :=
  if Text.trim (asStr obj "card_id") = "" then Text.trim (asStr (cardPayload obj) "id")
  else Text.trim (asStr obj "card_id")

theorem trim_parsedId : Text.trim (parsedId obj) = parsedId obj := by
  unfold parsedId
  split_ifs <;> exact Text.trim_trim _

theorem trim_filled : Text.trim (asStr (fillId (cardPayload obj) (parsedId obj)) "id") =
    cardIdOf obj := by
  rw [trim_fillId trim_parsedId]
  unfold cardIdOf
  split_ifs with h
  · rfl
  · unfold parsedId
    split_ifs with hown
    · rw [hown]
      exact not_not.1 h
    · rfl

/-- What the parser makes of a creation that has an id. -/
theorem fillId_parsedId (hid : cardIdOf obj ≠ "") :
    fillId (cardPayload obj) (parsedId obj) = createdCard obj := by
  unfold createdCard fillId
  by_cases h : Text.trim (asStr (cardPayload obj) "id") = ""
  · have heq : parsedId obj = cardIdOf obj := by
      unfold parsedId cardIdOf
      rw [if_neg (not_not.2 h)]
      split_ifs with hown
      · rw [h, hown]
      · rfl
    rw [heq, if_pos ⟨h, hid⟩, if_pos h]
  · rw [if_neg fun hc => h hc.1, if_neg h]

/-- The projection holds what the store holds. -/
structure Represents (p : CardProjection) (s : Store String Members) : Prop where
  order : p.order = s.order
  cards : ∀ id, p.cards.get id = (s.get id).map Json.obj

theorem Represents.get (h : Represents p s) (id : String) : p.get id = s.get id := by
  unfold CardProjection.get
  rw [h.cards]
  cases s.get id <;> rfl

theorem Represents.containsKey (h : Represents p s) (id : String) :
    p.cards.containsKey id = (s.get id).isSome := by
  unfold Members.containsKey
  rw [h.cards, Option.isSome_map]

/-- What writing a card does to the members. -/
theorem Represents.insert (h : Represents p s) (id : String) (card : Members) (k : String) :
    (Members.insert p.cards id (.obj card)).get k =
      (Function.update s.get id (some card) k).map Json.obj := by
  by_cases hk : k = id
  · rw [hk, Members.get_insert_self, Function.update_self]
    rfl
  · rw [Members.get_insert_of_ne hk, Function.update_of_ne hk, h.cards]

theorem represents_create (h : Represents p s) (hid : Text.trim (asStr card "id") = id)
    (hne : id ≠ "") : Represents (p.create card) (Replay.step overlay s (.put id card)) := by
  unfold CardProjection.create
  simp only [hid]
  rw [if_neg hne]
  constructor
  · show (if p.cards.containsKey id then p.order else p.order ++ [id]) =
      if (s.get id).isSome then s.order else s.order ++ [id]
    rw [h.containsKey, h.order]
  · exact h.insert id card

theorem represents_amend (h : Represents p s) (hid : Text.trim (asStr (fillId patch key) "id") = id)
    (hne : id ≠ "") :
    Represents (p.amend (fillId patch key)) (Replay.step overlay s (.patch id patch)) := by
  unfold CardProjection.amend
  simp only [hid]
  rw [if_neg hne, h.get]
  have hsame : s.get id = none → Replay.step overlay s (.patch id patch) = s := by
    intro hnone
    show ({ s with get := Function.update s.get id ((s.get id).map _) } : Store String Members) = s
    rw [hnone, Option.map_none, ← hnone, Function.update_eq_self]
  cases hget : s.get id with
  | none =>
    rw [hsame hget]
    exact h
  | some existing =>
    refine ⟨h.order, fun k => ?_⟩
    show _ = (Function.update s.get id ((s.get id).map (overlay · patch)) k).map Json.obj
    rw [hget, Option.map_some]
    have hover : overlay existing (fillId patch key) = overlay existing patch := overlay_fillId
    rw [← hover]
    exact h.insert id _ k

theorem create_blank (h : Text.trim (asStr card "id") = "") : p.create card = p := if_pos h

theorem amend_blank (h : Text.trim (asStr patch "id") = "") : p.amend patch = p := if_pos h

/-- The payload lacks what a creation needs. -/
def Incomplete (obj : Members) : Prop :=
  ((cardPayload obj).get "type").isNone = true ∨ ((cardPayload obj).get "content").isNone = true

instance : Decidable (Incomplete obj) := by
  unfold Incomplete
  infer_instance

theorem incomplete_iff : Incomplete obj ↔
    ¬ ((cardPayload obj).containsKey "type" && (cardPayload obj).containsKey "content") = true := by
  unfold Incomplete Members.containsKey
  rw [Bool.and_eq_true, not_and_or, Bool.not_eq_true, Bool.not_eq_true, Option.isSome_eq_false_iff,
    Option.isSome_eq_false_iff]

theorem parse_obj {kind : String} (hkind : Text.trim (asStr obj "type") = kind) :
    parseCardCustomPayload (.obj obj) =
      if !isCardMutationType kind then none
      else if kind = EVENT_CARD_REPLAY_BEGIN ∨ kind = EVENT_CARD_REPLAY_END then
        some ⟨kind, none, []⟩
      else if kind = EVENT_CARD_CREATED then
        if Incomplete obj then none
        else some ⟨kind, some (fillId (cardPayload obj) (parsedId obj)), []⟩
      else some ⟨kind, none, fillId (cardPayload obj) (parsedId obj)⟩ := by
  subst hkind
  rfl

/-- What a payload does, by its type. -/
theorem apply_obj {kind : String} (hkind : Text.trim (asStr obj "type") = kind) :
    (p.apply (.obj obj)).1 =
      if kind = EVENT_CARD_REPLAY_BEGIN then { replaying := true }
      else if kind = EVENT_CARD_REPLAY_END then { p with replaying := false }
      else if kind = EVENT_CARD_CREATED then
        if Incomplete obj then p else p.create (fillId (cardPayload obj) (parsedId obj))
      else if kind = EVENT_CARD_UPDATED ∨ kind = EVENT_CARD_FINALIZED then
        p.amend (fillId (cardPayload obj) (parsedId obj))
      else p := by
  unfold CardProjection.apply
  rw [parse_obj hkind]
  by_cases hb : kind = EVENT_CARD_REPLAY_BEGIN
  · subst hb
    rfl
  by_cases he : kind = EVENT_CARD_REPLAY_END
  · subst he
    rfl
  rw [if_neg hb, if_neg he]
  by_cases hc : kind = EVENT_CARD_CREATED
  · have hm : isCardMutationType kind = true := by rw [hc]; decide
    rw [if_neg (by rw [hm]; decide), if_neg (not_or.2 ⟨hb, he⟩), if_pos hc, if_pos hc]
    by_cases hi : Incomplete obj
    · rw [if_pos hi, if_pos hi]
    · rw [if_neg hi, if_neg hi]
      show (if _ then _ else if _ then _ else if _ then _ else _ : CardProjection × Bool).1 = _
      rw [if_neg hb, if_neg he, if_pos hc]
  by_cases hu : kind = EVENT_CARD_UPDATED ∨ kind = EVENT_CARD_FINALIZED
  · have hm : isCardMutationType kind = true := by
      rcases hu with rfl | rfl <;> decide
    rw [if_neg (by rw [hm]; decide), if_neg (not_or.2 ⟨hb, he⟩), if_neg hc, if_neg hc, if_pos hu]
    show (if _ then _ else if _ then _ else if _ then _ else if _ then _ else _ :
      CardProjection × Bool).1 = _
    rw [if_neg hb, if_neg he, if_neg hc, if_pos hu]
  · have hm : isCardMutationType kind = false := by
      unfold isCardMutationType
      simp [hb, he, hc, not_or.1 hu]
    rw [if_pos (by rw [hm]; decide), if_neg hc, if_neg hu]

/-- **Step lemma.** A payload does to the projection what its event does to the store. -/
theorem represents_apply (h : Represents p s) (data : Json) :
    Represents (p.apply data).1 (Replay.step overlay s (eventOf data)) := by
  cases data with
  | null | bool | num | str | arr => exact h
  | obj obj =>
    rw [apply_obj rfl]
    unfold eventOf
    simp only [Json.asObject?]
    generalize Text.trim (asStr obj "type") = kind
    by_cases hb : kind = EVENT_CARD_REPLAY_BEGIN
    · rw [if_pos hb, if_pos hb]
      exact ⟨rfl, fun _ => rfl⟩
    rw [if_neg hb, if_neg hb]
    by_cases hid : cardIdOf obj = ""
    · rw [if_pos hid, create_blank (trim_filled.trans hid), amend_blank (trim_filled.trans hid)]
      simp only [ite_self]
      split_ifs
      · exact ⟨h.order, h.cards⟩
      · exact h
    rw [if_neg hid]
    by_cases he : kind = EVENT_CARD_REPLAY_END
    · subst he
      rw [if_pos rfl, if_neg (by decide), if_neg (by decide)]
      exact ⟨h.order, h.cards⟩
    rw [if_neg he]
    by_cases hc : kind = EVENT_CARD_CREATED
    · rw [if_pos hc, if_pos hc]
      by_cases hi : Incomplete obj
      · rw [if_pos hi, if_neg (incomplete_iff.1 hi)]
        exact h
      · rw [if_neg hi, if_pos (not_not.1 (mt incomplete_iff.2 hi)),
          fillId_parsedId hid]
        refine represents_create h ?_ hid
        rw [← fillId_parsedId hid, trim_filled]
    rw [if_neg hc, if_neg hc]
    by_cases hu : kind = EVENT_CARD_UPDATED ∨ kind = EVENT_CARD_FINALIZED
    · rw [if_pos hu, if_pos hu]
      exact represents_amend h trim_filled hid
    · rw [if_neg hu, if_neg hu]
      exact h

/-- **Run lemma.** The projection represents the store that replays its log. -/
theorem represents_project (frames : List Json) :
    Represents (project frames) (Replay.run overlay (frames.map eventOf)) := by
  induction frames using List.reverseRecOn with
  | nil => exact ⟨rfl, fun _ => rfl⟩
  | append_singleton frames data ih =>
    have hconcat : project (frames ++ [data]) = ((project frames).apply data).1 := by
      unfold project
      rw [List.foldl_append]
      rfl
    rw [hconcat, List.map_append]
    rw [List.map_singleton, Replay.run_concat]
    exact represents_apply ih data

/-! ## The cards of a log -/

/-- The ids of the cards that the payloads created since the last replay began, in the order of
their first creation. -/
def createdIds (frames : List Json) : List String := Replay.keys (frames.map eventOf)

/-- The card is what the last creation of its id wrote, with the later patches of the id over it,
left to right. -/
def IsCard (frames : List Json) (id : String) (card : Members) : Prop :=
  ∃ before base after, frames.map eventOf = before ++ .put id base :: after ∧
    (∀ e ∈ after, e.resets id = false) ∧ Overlaid base (after.filterMap (Event.change id)) card

variable {frames : List Json}

theorem get_iff : (project frames).get id = some card ↔
    Replay.Holds overlay (frames.map eventOf) id card := by
  rw [(represents_project frames).get]
  exact Replay.run_get

theorem isCard_of_get (h : (project frames).get id = some card) : IsCard frames id card := by
  obtain ⟨before, base, after, hlog, hafter, rfl⟩ := get_iff.1 h
  exact ⟨before, base, after, hlog, hafter, overlaid_foldl⟩

/-- The log gives the members of the card that the projection has. -/
theorem isCard_iff : IsCard frames id card ↔
    ∃ held, (project frames).get id = some held ∧ Members.Same held card := by
  constructor
  · rintro ⟨before, base, after, hlog, hafter, hcard⟩
    refine ⟨_, get_iff.2 ⟨before, base, after, hlog, hafter, rfl⟩, fun key => ?_⟩
    rw [hcard key]
    exact overlaid_foldl key
  · rintro ⟨held, hheld, hsame⟩
    obtain ⟨before, base, after, hlog, hafter, hover⟩ := isCard_of_get hheld
    exact ⟨before, base, after, hlog, hafter, fun key => (hsame key).symm.trans (hover key)⟩

/-- A created card carries its id. -/
theorem trim_of_event (h : eventOf data = .put id card) : Text.trim (asStr card "id") = id := by
  unfold eventOf at h
  cases data with
  | null | bool | num | str | arr => cases h
  | obj obj =>
    simp only [Json.asObject?] at h
    split_ifs at h
    rename_i hne _ _
    obtain ⟨hid, hcard⟩ := Event.put.inj h
    rw [← hcard, ← hid, ← fillId_parsedId hne, trim_filled]

/-- The base of a card carries the id. -/
theorem trim_of_log {before after : List (Event String Members Members)}
    (h : frames.map eventOf = before ++ .put id base :: after) :
    Text.trim (asStr base "id") = id := by
  have hmem : Event.put id base ∈ frames.map eventOf := by
    rw [h]
    exact List.mem_append_right _ List.mem_cons_self
  obtain ⟨data, -, hdata⟩ := List.mem_map.1 hmem
  exact trim_of_event hdata

theorem IsCard.trim_id (h : IsCard frames id card) : Text.trim (asStr card "id") = id := by
  obtain ⟨before, base, after, hlog, -, hover⟩ := h
  rw [← trim_of_log hlog]
  unfold asStr
  rw [hover "id", if_pos (Or.inl rfl)]

/-- A patch for an id without a card changes nothing. -/
theorem apply_unknown (h : eventOf data = .patch id patch) (hno : p.get id = none) :
    (p.apply data).1 = p := by
  unfold eventOf at h
  cases data with
  | null | bool | num | str | arr => cases h
  | obj obj =>
    simp only [Json.asObject?] at h
    split_ifs at h with hb hid hc hfull hu
    obtain ⟨hkey, -⟩ := Event.patch.inj h
    have he : Text.trim (asStr obj "type") ≠ EVENT_CARD_REPLAY_END := by
      rcases hu with hu | hu <;> rw [hu] <;> decide
    rw [apply_obj rfl, if_neg hb, if_neg he, if_neg hc, if_pos hu]
    unfold CardProjection.amend
    simp only [trim_filled]
    rw [if_neg hid, hkey, hno]

theorem snapshot_forall₂ {ids : List String} (h : ∀ id ∈ ids, (p.get id).isSome = true) :
    List.Forall₂ (fun id card => p.get id = some card) ids (ids.filterMap p.get) := by
  induction ids with
  | nil => exact .nil
  | cons id ids ih =>
    obtain ⟨card, hcard⟩ := Option.isSome_iff_exists.1 (h id List.mem_cons_self)
    rw [List.filterMap_cons_some hcard]
    exact .cons hcard (ih fun k hk => h k (List.mem_cons_of_mem id hk))

/-- **The projection refines its log.** After any payloads the order has no id twice and has the
ids of the cards; these are the created ones in the order of their first creation, and the snapshot
lists the card of each; the members of a card are what the log says, and it carries its id; a patch
for another id changes nothing. -/
theorem projection_refines_log (frames : List Json) :
    (project frames).order.Nodup ∧
    (∀ id, id ∈ (project frames).order ↔ (project frames).cards.containsKey id = true) ∧
    (project frames).order = createdIds frames ∧
    List.Forall₂ (IsCard frames) (project frames).order (project frames).snapshot ∧
    (∀ id card, IsCard frames id card ↔
      ∃ held, (project frames).get id = some held ∧ Members.Same held card) ∧
    (∀ id card, (project frames).get id = some card → Text.trim (asStr card "id") = id) ∧
    ∀ data id patch, eventOf data = .patch id patch → id ∉ (project frames).order →
      ((project frames).apply data).1 = project frames := by
  have hrep := represents_project frames
  have hord : (Replay.run overlay (frames.map eventOf)).Ordered := Replay.ordered_run
  have hkey : ∀ id, id ∈ (project frames).order ↔ ((project frames).get id).isSome = true := by
    intro id
    rw [hrep.order, hrep.get, hord.mem]
  refine ⟨?_, ?_, ?_, ?_, fun id card => isCard_iff, ?_, ?_⟩
  · rw [hrep.order]
    exact hord.nodup
  · intro id
    rw [hkey, hrep.containsKey, hrep.get]
  · exact hrep.order.trans Replay.run_order
  · refine (snapshot_forall₂ fun id hid => (hkey id).1 hid).imp ?_
    intro id card hcard
    exact isCard_of_get hcard
  · intro id card hcard
    exact (isCard_of_get hcard).trim_id
  · intro data id patch hdata hid
    refine apply_unknown hdata ?_
    rw [hkey] at hid
    exact Option.not_isSome_iff_eq_none.1 hid

/-- A card that is created without an id of its own, updated and finalized. -/
def finalized : List Json :=
  [.obj [("type", .str EVENT_CARD_CREATED), ("card_id", .str " a "),
      ("data", .obj [("type", .str "assistant"), ("content", .str "he")])],
    .obj [("type", .str EVENT_CARD_UPDATED), ("card_id", .str "a"),
      ("data", .obj [("type", .str "user"), ("content", .str "hel")])],
    .obj [("type", .str EVENT_CARD_FINALIZED),
      ("data", .obj [("id", .str " a"), ("content", .str "hello"), ("status", .str "done")])]]

theorem projection_refines_log_finalized :
    (project finalized).order = ["a"] ∧
      IsCard finalized "a" [("status", .str "done"), ("content", .str "hello"), ("id", .str "a"),
        ("type", .str "assistant")] ∧
      ∀ card, IsCard finalized "a" card → card.get "content" = some (.str "hello") := by
  obtain ⟨-, -, -, -, hcard, -⟩ := projection_refines_log finalized
  refine ⟨rfl, (hcard "a" _).2 ⟨_, rfl, fun _ => rfl⟩, fun card h => ?_⟩
  obtain ⟨held, hheld, hsame⟩ := (hcard "a" card).1 h
  obtain rfl := Option.some.inj (Eq.trans (by rfl) hheld)
  exact (hsame "content").symm

end SootheClient.Cards
