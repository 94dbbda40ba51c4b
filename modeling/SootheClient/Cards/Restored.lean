import SootheClient.Cards.Replayed

/-!
# A projection restored by a replay

A replay announces the cards of a snapshot. A projection that applies it, whatever it held before,
holds what the projection held that the snapshot was taken of, and goes on as that one does.
-/

namespace SootheClient.Cards

open SootheClient.Frame
open Json (Members)
open Replay (Event Store)

/-- The frame announces the card. -/
def Announces (data : Json) (card : Members) : Prop :=
  ∃ obj, data = .obj obj ∧ Text.trim (asStr obj "type") = EVENT_CARD_CREATED ∧
    cardPayload obj = card

/-- The frame has this type. -/
def HasKind (kind : String) (data : Json) : Prop :=
  ∃ obj, data = .obj obj ∧ Text.trim (asStr obj "type") = kind

/-- The frames replay the cards: a begin, an announcement of each card, an end. -/
def IsReplay (cards : List Members) (frames : List Json) : Prop :=
  ∃ first created last, frames = first :: created ++ [last] ∧
    HasKind EVENT_CARD_REPLAY_BEGIN first ∧ List.Forall₂ Announces created cards ∧
      HasKind EVENT_CARD_REPLAY_END last

/-- The projection after more payloads. -/
def CardProjection.applyAll (p : CardProjection) (frames : List Json) : CardProjection :=
  frames.foldl (fun p data => (p.apply data).1) p

variable {p q : CardProjection} {s : Store String Members} {obj m card patch : Members}
  {id k : String} {v data : Json} {frames live created : List Json} {cards : List Members}

/-! ## Cards that are there -/

theorem containsKey_insert (h : m.containsKey k = true) {key : String} :
    (Members.insert m key v).containsKey k = true := by
  unfold Members.containsKey at h ⊢
  by_cases hk : k = key
  · rw [hk, Members.get_insert_self]
    rfl
  · rw [Members.get_insert_of_ne hk]
    exact h

/-- The overlay removes no member. -/
theorem containsKey_overlay (h : card.containsKey k = true) :
    (overlay card patch).containsKey k = true := by
  induction patch generalizing card with
  | nil => exact h
  | cons kv patch ih =>
    rw [overlay_cons]
    refine ih ?_
    split_ifs
    · exact h
    · exact containsKey_insert h

/-- A card has what a creation needs. -/
structure Complete (id : String) (card : Members) : Prop where
  trim_id : Text.trim (asStr card "id") = id
  ne : id ≠ ""
  type : card.containsKey "type" = true
  content : card.containsKey "content" = true

theorem complete_of_event (h : eventOf data = .put id card) : Complete id card := by
  have htrim := trim_of_event h
  unfold eventOf at h
  cases data with
  | null | bool | num | str | arr => cases h
  | obj obj =>
    simp only [Json.asObject?] at h
    split_ifs at h with hb hid hc hfull
    obtain ⟨rfl, rfl⟩ := Event.put.inj h
    rw [Bool.and_eq_true] at hfull
    have hfill : ∀ k, (cardPayload obj).containsKey k = true →
        (createdCard obj).containsKey k = true := by
      intro k hk
      unfold createdCard
      split_ifs
      · exact containsKey_insert hk
      · exact hk
    exact ⟨htrim, hid, hfill _ hfull.1, hfill _ hfull.2⟩

theorem Complete.overlay {patches : List Members} (h : Complete id card) :
    Complete id (patches.foldl overlay card) := by
  induction patches generalizing card with
  | nil => exact h
  | cons patch patches ih =>
    refine ih ⟨?_, h.ne, containsKey_overlay h.type, containsKey_overlay h.content⟩
    unfold asStr
    rw [overlay_get_id]
    exact h.trim_id

theorem complete_of_get (h : (project frames).get id = some card) : Complete id card := by
  obtain ⟨before, base, after, hlog, -, rfl⟩ := get_iff.1 h
  have hmem : Event.put id base ∈ frames.map eventOf := by
    rw [hlog]
    exact List.mem_append_right _ List.mem_cons_self
  obtain ⟨data, -, hdata⟩ := List.mem_map.1 hmem
  exact (complete_of_event hdata).overlay

/-! ## The events of a replay -/

/-- The announcement of a card writes it. -/
theorem Announces.event (h : Announces data card) (hcard : Complete id card) :
    eventOf data = .put id card := by
  obtain ⟨obj, rfl, hkind, rfl⟩ := h
  have hid : cardIdOf obj = id := by
    unfold cardIdOf
    rw [hcard.trim_id, if_pos hcard.ne]
  have hcreated : createdCard obj = cardPayload obj := by
    unfold createdCard
    rw [hcard.trim_id, if_neg hcard.ne]
  unfold eventOf
  simp only [Json.asObject?, hkind, hid, hcreated, hcard.type, hcard.content]
  rw [if_neg (by decide), if_neg hcard.ne, if_pos trivial, Bool.and_self,
    if_pos rfl]

theorem event_end (h : HasKind EVENT_CARD_REPLAY_END data) : eventOf data = .skip := by
  obtain ⟨obj, rfl, hkind⟩ := h
  unfold eventOf
  simp only [Json.asObject?, hkind]
  rw [if_neg (by decide)]
  by_cases hid : cardIdOf obj = ""
  · rw [if_pos hid]
  · rw [if_neg hid, if_neg (by decide), if_neg (by decide)]

/-- The announcements write the entries of the store. -/
theorem events_created {l : List (String × Members)} (hl : ∀ kv ∈ l, Complete kv.1 kv.2)
    (h : List.Forall₂ Announces created (l.map Prod.snd)) :
    created.map eventOf = l.map fun kv => .put kv.1 kv.2 := by
  induction l generalizing created with
  | nil =>
    obtain rfl := List.forall₂_nil_right_iff.1 h
    rfl
  | cons kv l ih =>
    obtain ⟨data, rest, hdata, hrest, rfl⟩ := List.forall₂_cons_right_iff.1 h
    rw [List.map_cons, List.map_cons, hdata.event (hl kv List.mem_cons_self),
      ih (fun x hx => hl x (List.mem_cons_of_mem kv hx)) hrest]

/-! ## The projection -/

theorem represents_applyAll (h : Represents p s) : Represents (p.applyAll frames)
    ((frames.map eventOf).foldl (Replay.step overlay) s) := by
  induction frames generalizing p s with
  | nil => exact h
  | cons data frames ih => exact ih (represents_apply h data)

/-- Two projections of one store show the same cards. -/
theorem Represents.agree (h : Represents p s) (h' : Represents q s) :
    p.order = q.order ∧ p.snapshot = q.snapshot ∧ ∀ id, p.get id = q.get id := by
  have hget : ∀ id, p.get id = q.get id := fun id => (h.get id).trans (h'.get id).symm
  refine ⟨h.order.trans h'.order.symm, ?_, hget⟩
  unfold CardProjection.snapshot
  rw [h.order, h'.order, funext hget]

theorem apply_begin (h : HasKind EVENT_CARD_REPLAY_BEGIN data) :
    (p.apply data).1 = { replaying := true } := by
  obtain ⟨obj, rfl, hkind⟩ := h
  rw [apply_obj hkind, if_pos rfl]

theorem apply_end (h : HasKind EVENT_CARD_REPLAY_END data) :
    (p.apply data).1 = { p with replaying := false } := by
  obtain ⟨obj, rfl, hkind⟩ := h
  rw [apply_obj hkind, if_neg (by decide), if_pos rfl]

theorem applyAll_append : p.applyAll (frames ++ live) = (p.applyAll frames).applyAll live :=
  List.foldl_append

/-- The events of a replay of a projection make its store again. -/
theorem represents_replay (h : IsReplay (project frames).snapshot created) :
    Represents (p.applyAll created) (Replay.run overlay (frames.map eventOf)) := by
  obtain ⟨first, announced, last, rfl, hfirst, hcards, hlast⟩ := h
  have hord : (Replay.run overlay (frames.map eventOf)).Ordered := Replay.ordered_run
  have hrep := represents_project frames
  have hsnap : (project frames).snapshot =
      (Replay.run overlay (frames.map eventOf)).entries.map Prod.snd := by
    unfold CardProjection.snapshot Store.entries
    rw [List.map_filterMap, hrep.order, funext hrep.get]
    refine List.filterMap_congr fun id _ => ?_
    cases (Replay.run overlay (frames.map eventOf)).get id <;> rfl
  have hcomplete : ∀ kv ∈ (Replay.run overlay (frames.map eventOf)).entries,
      Complete kv.1 kv.2 := by
    rintro ⟨id, card⟩ hkv
    have hcard := hord.mem_entries.1 hkv
    rw [← hrep.get] at hcard
    exact complete_of_get hcard
  have hempty : Represents { replaying := true } ({} : Store String Members) :=
    ⟨rfl, fun _ => rfl⟩
  have hrun : Represents (CardProjection.applyAll { replaying := true } (announced ++ [last])) _ :=
    represents_applyAll hempty
  rw [hsnap] at hcards
  rw [List.map_append, List.foldl_append, events_created hcomplete hcards, List.map_singleton,
    event_end hlast] at hrun
  have hall : p.applyAll (first :: announced ++ [last]) =
      CardProjection.applyAll { replaying := true } (announced ++ [last]) := by
    show (p.apply first).1.applyAll (announced ++ [last]) = _
    rw [apply_begin hfirst]
  rw [hall, ← Replay.foldl_entries (t := {}) hord]
  exact hrun

/-- **Restored by a replay.** Whatever a projection holds, a replay of the snapshot that payloads
made gives it the same cards in the same order, and it goes on as if it had seen the payloads. -/
theorem replay_restores (h : IsReplay (project frames).snapshot created) (p : CardProjection)
    (live : List Json) :
    (p.applyAll created).replaying = false ∧
    (p.applyAll (created ++ live)).order = (project (frames ++ live)).order ∧
    (p.applyAll (created ++ live)).snapshot = (project (frames ++ live)).snapshot ∧
    ∀ id, (p.applyAll (created ++ live)).get id = (project (frames ++ live)).get id := by
  refine ⟨?_, ?_⟩
  · obtain ⟨first, announced, last, rfl, -, -, hlast⟩ := h
    rw [applyAll_append]
    exact congrArg CardProjection.replaying (apply_end hlast)
  · have hlive : Represents ((p.applyAll created).applyAll live) _ :=
      represents_applyAll (represents_replay h)
    rw [← applyAll_append] at hlive
    refine hlive.agree ?_
    have hall := represents_project (frames ++ live)
    rw [List.map_append] at hall
    unfold Replay.run at hall ⊢
    rw [List.foldl_append] at hall
    exact hall

/-- Two cards are created, the first without an id of its own, and patched. -/
def followed : List Json :=
  [.obj [("type", .str EVENT_CARD_CREATED), ("card_id", .str " b "),
      ("data", .obj [("type", .str "user"), ("content", .str "he")])],
    .obj [("type", .str EVENT_CARD_CREATED),
      ("data", .obj [("id", .str "a"), ("type", .str "assistant"), ("content", .str "")])],
    .obj [("type", .str EVENT_CARD_UPDATED), ("card_id", .str "b"),
      ("data", .obj [("content", .str "hello")])]]

def replayed : List Json :=
  [.obj [("type", .str EVENT_CARD_REPLAY_BEGIN)],
    .obj [("type", .str EVENT_CARD_CREATED), ("data", .obj
      [("content", .str "hello"), ("id", .str "b"), ("type", .str "user")])],
    .obj [("type", .str EVENT_CARD_CREATED), ("data", .obj
      [("id", .str "a"), ("type", .str "assistant"), ("content", .str "")])],
    .obj [("type", .str EVENT_CARD_REPLAY_END)]]

/-- A projection of another time: one of the two cards, and one that is gone. -/
def outdated : CardProjection :=
  project [.obj [("type", .str EVENT_CARD_CREATED),
      ("data", .obj [("id", .str "a"), ("type", .str "user"), ("content", .str "old")])],
    .obj [("type", .str EVENT_CARD_CREATED),
      ("data", .obj [("id", .str "gone"), ("type", .str "user"), ("content", .str "x")])]]

/-- The answer streams in while both look on. -/
def finishing : List Json :=
  [.obj [("type", .str EVENT_CARD_FINALIZED), ("card_id", .str "a"),
    ("data", .obj [("content", .str "done")])]]

theorem replay_restores_followed :
    outdated.order = ["a", "gone"] ∧
      (outdated.applyAll (replayed ++ finishing)).order = ["b", "a"] ∧
      ((outdated.applyAll (replayed ++ finishing)).get "a").bind (·.get "content") =
        some (.str "done") ∧
      ∀ id, (outdated.applyAll (replayed ++ finishing)).get id =
        (project (followed ++ finishing)).get id := by
  have hreplay : IsReplay (project followed).snapshot replayed :=
    ⟨_, [_, _], _, rfl, ⟨_, rfl, rfl⟩, .cons ⟨_, rfl, rfl, rfl⟩ (.cons ⟨_, rfl, rfl, rfl⟩ .nil),
      ⟨_, rfl, rfl⟩⟩
  obtain ⟨-, horder, -, hget⟩ := replay_restores hreplay outdated finishing
  refine ⟨rfl, horder.trans rfl, ?_, hget⟩
  rw [hget]
  rfl

end SootheClient.Cards
