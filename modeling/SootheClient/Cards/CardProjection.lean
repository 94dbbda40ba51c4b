import SootheClient.Frame.StalePending
import SootheClient.Lib.Replay

/-!
# The card projection

`CardProjection` keeps the cards that the `soothe.card.*` frames describe, by id, and the ids in
the order of their creation.
-/

namespace SootheClient.Cards

open SootheClient.Frame
open Json (Members)

/-- `as_str` of a member: the empty string when it is absent or no string. -/
def asStr (m : Members) (key : String) : String := ((m.get key).bind Json.asStr?).getD ""

/-- A parsed card frame. -/
structure ParsedCardFrame where
  wireType : String
  card : Option Members
  patch : Members

def isCardMutationType (t : String) : Bool :=
  [EVENT_CARD_CREATED, EVENT_CARD_UPDATED, EVENT_CARD_FINALIZED, EVENT_CARD_REPLAY_BEGIN,
    EVENT_CARD_REPLAY_END].contains t

/-- Give the payload an id when it has none. -/
def fillId (payload : Members) (cardId : String) : Members :=
  if Text.trim (asStr payload "id") = "" ∧ cardId ≠ "" then
    Members.insert payload "id" (.str cardId)
  else payload

/-- Parse a custom-mode card frame. -/
def parseCardCustomPayload (data : Json) : Option ParsedCardFrame :=
  match data.asObject? with
  | none => none
  | some obj =>
    let wireType := Text.trim (asStr obj "type")
    if !isCardMutationType wireType then none
    else if wireType = EVENT_CARD_REPLAY_BEGIN ∨ wireType = EVENT_CARD_REPLAY_END then
      some ⟨wireType, none, []⟩
    else
      let payload := ((obj.get "data").bind Json.asObject?).getD []
      let own := Text.trim (asStr obj "card_id")
      let cardId := if own = "" then Text.trim (asStr payload "id") else own
      if wireType = EVENT_CARD_CREATED then
        if (payload.get "type").isNone ∨ (payload.get "content").isNone then none
        else some ⟨wireType, some (fillId payload cardId), []⟩
      else some ⟨wireType, none, fillId payload cardId⟩

/-- Lay a patch over a card: its members but `id` and `type`. -/
def overlay (card patch : Members) : Members :=
  patch.foldl (fun next kv =>
    if kv.1 = "id" ∨ kv.1 = "type" then next else Members.insert next kv.1 kv.2) card

/-- The cards by id, the ids in creation order, and whether a replay is going on. -/
structure CardProjection where
  cards : Members := []
  order : List String := []
  replaying : Bool := false

namespace CardProjection

variable (p : CardProjection)

/-- One card by id. -/
def get (cardId : String) : Option Members := (p.cards.get cardId).bind Json.asObject?

/-- The cards in insertion order. -/
def snapshot : List Members := p.order.filterMap p.get

/-- Create a card, or replace one. -/
def create (card : Members) : CardProjection :=
  let id := Text.trim (asStr card "id")
  if id = "" then p
  else
    { p with
      order := if p.cards.containsKey id then p.order else p.order ++ [id]
      cards := Members.insert p.cards id (.obj card) }

/-- Patch a card that is there. -/
def amend (patch : Members) : CardProjection :=
  let id := Text.trim (asStr patch "id")
  if id = "" then p
  else
    match p.get id with
    | none => p
    | some existing => { p with cards := Members.insert p.cards id (.obj (overlay existing patch)) }

/-- Apply one custom-mode card payload, and tell whether it was handled. -/
def apply (data : Json) : CardProjection × Bool :=
  match parseCardCustomPayload data with
  | none => (p, false)
  | some parsed =>
    if parsed.wireType = EVENT_CARD_REPLAY_BEGIN then
      ({ cards := [], order := [], replaying := true }, true)
    else if parsed.wireType = EVENT_CARD_REPLAY_END then ({ p with replaying := false }, true)
    else if parsed.wireType = EVENT_CARD_CREATED then
      match parsed.card with
      | none => (p, true)
      | some card => (p.create card, true)
    else if parsed.wireType = EVENT_CARD_UPDATED ∨ parsed.wireType = EVENT_CARD_FINALIZED then
      (p.amend parsed.patch, true)
    else (p, true)

end CardProjection

/-- The projection after some payloads, from the empty one. -/
def project (frames : List Json) : CardProjection :=
  frames.foldl (fun p data => (p.apply data).1) {}

end SootheClient.Cards
