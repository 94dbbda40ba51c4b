import SootheClient.Gate.QueryGate
import SootheClient.Lib.Mailbox
import SootheClient.Turn.Runner

/-!
# The event broadcaster

`SseBroadcaster` keeps the senders of every app key by subscriber id. Each operation is one critical
section of its mutex; a receive takes no lock, and one between two sends of a broadcast commutes with
the sends to other channels. A `Hub` is a broadcaster with the channels it has opened, numbered in
the order of the subscriptions; a channel outlives its sender, so what waits in it can still be
received.
-/

namespace SootheClient.Sse

open SootheClient.Turn (SseEvent)

/-- Generic, string-keyed pub/sub fan-out over senders. -/
structure SseBroadcaster (Sender : Type*) where
  subscribers : StrMap (StrMap Sender)

namespace SseBroadcaster

variable {Sender : Type*} (b : SseBroadcaster Sender) (appKey subscriberId : String)

def new : SseBroadcaster Sender := ⟨∅⟩

/-- Register the sender of a new subscriber. -/
def subscribe (tx : Sender) : SseBroadcaster Sender :=
  ⟨b.subscribers.insert appKey
    (((b.subscribers.lookup appKey).getD ∅).insert subscriberId tx)⟩

/-- Remove a subscriber, and the key with its last one. -/
def unsubscribe : SseBroadcaster Sender :=
  match b.subscribers.lookup appKey with
  | none => b
  | some appSubs =>
    let appSubs := appSubs.erase subscriberId
    if appSubs.entries.isEmpty then ⟨b.subscribers.erase appKey⟩
    else ⟨b.subscribers.insert appKey appSubs⟩

/-- The senders that a broadcast goes through. -/
def targets : List Sender :=
  match b.subscribers.lookup appKey with
  | none => []
  | some appSubs => appSubs.entries.map (·.2)

/-- Remove all subscribers of the key. -/
def close : SseBroadcaster Sender := ⟨b.subscribers.erase appKey⟩

/-- Remove all subscribers. -/
def closeAll : SseBroadcaster Sender := ⟨∅⟩

/-- The sender of a subscriber. -/
def sender : Option Sender := (b.subscribers.lookup appKey).bind (·.lookup subscriberId)

variable {b appKey subscriberId} {k i : String} {tx u : Sender}

theorem sender_subscribe : (b.subscribe appKey subscriberId tx).sender k i =
    if k = appKey ∧ i = subscriberId then some tx else b.sender k i := by
  unfold subscribe sender
  by_cases hk : k = appKey
  · rw [hk, AList.lookup_insert, Option.bind_some]
    by_cases hi : i = subscriberId
    · rw [hi, AList.lookup_insert, if_pos ⟨rfl, rfl⟩]
    · rw [AList.lookup_insert_ne hi, if_neg fun h => hi h.2]
      cases b.subscribers.lookup appKey <;> rfl
  · rw [AList.lookup_insert_ne hk, if_neg fun h => hk h.1]

theorem sender_close : (b.close appKey).sender k i = if k = appKey then none else b.sender k i := by
  unfold close sender
  by_cases hk : k = appKey
  · rw [hk, AList.lookup_erase, if_pos rfl]
    rfl
  · rw [AList.lookup_erase_ne hk, if_neg hk]

/-- What is left of a key's subscribers, also when the key goes with the last one. -/
theorem sender_unsubscribe_of_some {appSubs : StrMap Sender}
    (h : b.subscribers.lookup appKey = some appSubs) :
    (b.unsubscribe appKey subscriberId).sender k i =
      if k = appKey then (appSubs.erase subscriberId).lookup i else b.sender k i := by
  unfold unsubscribe sender
  rw [h]
  by_cases hempty : (appSubs.erase subscriberId).entries.isEmpty = true
  · simp only [if_pos hempty]
    by_cases hk : k = appKey
    · have hnil : appSubs.erase subscriberId = ∅ := AList.ext (List.isEmpty_iff.1 hempty)
      rw [hk, AList.lookup_erase, if_pos rfl, hnil, AList.lookup_empty]
      rfl
    · rw [AList.lookup_erase_ne hk, if_neg hk]
  · simp only [if_neg hempty]
    by_cases hk : k = appKey
    · rw [hk, AList.lookup_insert, if_pos rfl]
      rfl
    · rw [AList.lookup_insert_ne hk, if_neg hk]

theorem sender_unsubscribe : (b.unsubscribe appKey subscriberId).sender k i =
    if k = appKey ∧ i = subscriberId then none else b.sender k i := by
  cases hsubs : b.subscribers.lookup appKey with
  | none =>
    have hnone : b.sender appKey i = none := by
      unfold sender
      rw [hsubs]
      rfl
    unfold unsubscribe
    rw [hsubs]
    split_ifs with h
    · rw [h.1]
      exact hnone
    · rfl
  | some appSubs =>
    rw [sender_unsubscribe_of_some hsubs]
    by_cases hk : k = appKey
    · have hsender : b.sender k i = appSubs.lookup i := by
        unfold sender
        rw [hk, hsubs, Option.bind_some]
      rw [if_pos hk, hsender]
      by_cases hi : i = subscriberId
      · rw [hi, AList.lookup_erase, if_pos ⟨hk, rfl⟩]
      · rw [AList.lookup_erase_ne hi, if_neg fun h => hi h.2]
    · rw [if_neg hk, if_neg fun h => hk h.1]

/-- The targets are the senders of the key's subscribers. -/
theorem mem_targets : tx ∈ b.targets appKey ↔ ∃ i, b.sender appKey i = some tx := by
  unfold targets sender
  cases b.subscribers.lookup appKey with
  | none => exact ⟨fun h => absurd h List.not_mem_nil, fun ⟨i, hi⟩ => nomatch hi⟩
  | some appSubs =>
    simp only [List.mem_map, Option.bind_some]
    constructor
    · rintro ⟨⟨i, u⟩, hmem, rfl⟩
      exact ⟨i, AList.mem_lookup_iff.2 hmem⟩
    · rintro ⟨i, hi⟩
      exact ⟨⟨i, tx⟩, AList.mem_lookup_iff.1 hi, rfl⟩

/-- Subscribers with senders of their own are targets once each. -/
theorem nodup_targets (h : ∀ i i' tx, b.sender appKey i = some tx → b.sender appKey i' = some tx →
    i = i') : (b.targets appKey).Nodup := by
  unfold targets
  unfold sender at h
  cases hsubs : b.subscribers.lookup appKey with
  | none => exact List.nodup_nil
  | some appSubs =>
    rw [hsubs] at h
    refine List.Nodup.map_on ?_ appSubs.nodupKeys.nodup
    rintro ⟨i, u⟩ hi ⟨i', u'⟩ hi' rfl
    obtain rfl := h i i' u (AList.mem_lookup_iff.2 hi) (AList.mem_lookup_iff.2 hi')
    rfl

/-! ## Empty maps -/

/-- No key has an empty map. -/
def NoneEmpty (b : SseBroadcaster Sender) : Prop :=
  ∀ k appSubs, b.subscribers.lookup k = some appSubs → appSubs ≠ ∅

theorem noneEmpty_nil : NoneEmpty (⟨∅⟩ : SseBroadcaster Sender) := fun _ _ h => nomatch h

theorem NoneEmpty.erase (h : NoneEmpty b) : NoneEmpty ⟨b.subscribers.erase appKey⟩ := by
  intro k appSubs hk
  by_cases hkey : k = appKey
  · rw [hkey, AList.lookup_erase] at hk
    cases hk
  · rw [AList.lookup_erase_ne hkey] at hk
    exact h k appSubs hk

theorem NoneEmpty.insert {appSubs : StrMap Sender} (h : NoneEmpty b) (hne : appSubs ≠ ∅) :
    NoneEmpty ⟨b.subscribers.insert appKey appSubs⟩ := by
  intro k appSubs' hk
  by_cases hkey : k = appKey
  · rw [hkey, AList.lookup_insert] at hk
    exact Option.some.inj hk ▸ hne
  · rw [AList.lookup_insert_ne hkey] at hk
    exact h k appSubs' hk

theorem NoneEmpty.subscribe (h : NoneEmpty b) : NoneEmpty (b.subscribe appKey subscriberId tx) := by
  refine h.insert fun hempty => ?_
  have hlookup := congrArg (AList.lookup subscriberId) hempty
  rw [AList.lookup_insert, AList.lookup_empty] at hlookup
  cases hlookup

theorem NoneEmpty.unsubscribe (h : NoneEmpty b) : NoneEmpty (b.unsubscribe appKey subscriberId) := by
  unfold SseBroadcaster.unsubscribe
  cases b.subscribers.lookup appKey with
  | none => exact h
  | some appSubs =>
    simp only
    split_ifs with hempty
    · exact h.erase
    · exact h.insert fun hnil => hempty (by rw [hnil]; rfl)

end SseBroadcaster

/-! ## The hub -/

/-- The buffer of a subscriber. -/
def SUBSCRIBER_BUFFER : ℕ := 100

/-- A subscriber's channel. -/
abbrev Channel := Mailbox SseEvent SUBSCRIBER_BUFFER

/-- A broadcaster with the channels that its subscriptions have opened. -/
structure Hub where
  broadcaster : SseBroadcaster ℕ
  opened : ℕ
  channels : ℕ → Channel

/-- What happens to a hub. A receive that finds nothing waits, or returns none, and is no label. -/
inductive Label where
  | subscribe (appKey subscriberId : String)
  | unsubscribe (appKey subscriberId : String)
  | broadcast (appKey : String) (event : SseEvent)
  | close (appKey : String)
  | closeAll
  | recv (n : ℕ)

namespace Hub

def init : Hub := ⟨.new, 0, fun _ => .empty⟩

/-- A send that does not block: an event for a full channel is lost. -/
def trySend (event : SseEvent) (channels : ℕ → Channel) (tx : ℕ) : ℕ → Channel :=
  Function.update channels tx ((channels tx).offer event)

def step (s : Hub) : Label → Option Hub
  | .subscribe appKey subscriberId =>
    some
      { broadcaster := s.broadcaster.subscribe appKey subscriberId s.opened
        opened := s.opened + 1
        channels := Function.update s.channels s.opened .empty }
  | .unsubscribe appKey subscriberId =>
    some { s with broadcaster := s.broadcaster.unsubscribe appKey subscriberId }
  | .broadcast appKey event =>
    some { s with
      channels := (s.broadcaster.targets appKey).foldl (trySend event) s.channels }
  | .close appKey => some { s with broadcaster := s.broadcaster.close appKey }
  | .closeAll => some { s with broadcaster := .closeAll }
  | .recv n =>
    (s.channels n).take.map fun m => { s with channels := Function.update s.channels n m }

end Hub

end SootheClient.Sse
