import SootheClient.Frame.Inbound

/-!
# Frames that are never dropped

`Critical` says which frames have the critical priority. A frame that is acknowledged is one of
them, unless a `next` envelope carries it under a type that the priority does not know.
-/

namespace SootheClient.Frame

open Json (Members)

variable {event m payload inner : Members} {eventType : String} {data : Option Json}

/-- An object is critical when it is read as a frame of the type. -/
inductive CriticalAs (event : Members) (eventType : String) : Prop
  | settled (h : eventType ∈ ["complete", "error", "connection_ack"])
  | status (h : eventType = "status")
      (hs : valueAsStr (event.get "state") ∈ ["idle", "running", "stopped", "detached"])
  /-- A custom payload ends the turn or reports an error. -/
  | custom (h : eventType = "event") (hm : valueAsStr (event.get "mode") = "custom")
      (hd : (event.get "data").bind customDropPriority = some DROP_PRIORITY_CRITICAL)
  | messages (h : eventType = "event") (hm : valueAsStr (event.get "mode") = "messages")
      (hd : messagesWireTerminal (event.get "data") = true ∨
        goalCompletion (event.get "data") = true)

theorem typeDropPriority_event : typeDropPriority event "event" =
    match (if valueAsStr (event.get "mode") = "custom" then
        (event.get "data").bind customDropPriority else none) with
    | some priority => priority
    | none =>
      if valueAsStr (event.get "mode") = "messages" ∧
          (messagesWireTerminal (event.get "data") ∨ goalCompletion (event.get "data")) then
        DROP_PRIORITY_CRITICAL
      else DROP_PRIORITY_NORMAL := rfl

theorem normal_ne_critical : DROP_PRIORITY_NORMAL ≠ DROP_PRIORITY_CRITICAL := by decide

theorem high_ne_critical : DROP_PRIORITY_HIGH ≠ DROP_PRIORITY_CRITICAL := by decide

theorem typeDropPriority_event_iff :
    typeDropPriority event "event" = DROP_PRIORITY_CRITICAL ↔ CriticalAs event "event" := by
  rw [typeDropPriority_event]
  constructor
  · intro h
    by_cases hcustom : valueAsStr (event.get "mode") = "custom"
    · rw [if_pos hcustom] at h
      cases hd : (event.get "data").bind customDropPriority with
      | some priority =>
        rw [hd] at h
        exact .custom rfl hcustom (hd.trans (congrArg some h))
      | none =>
        rw [hd, hcustom] at h
        exact absurd h normal_ne_critical
    · rw [if_neg hcustom] at h
      by_cases hmessages : valueAsStr (event.get "mode") = "messages" ∧
          (messagesWireTerminal (event.get "data") = true ∨
            goalCompletion (event.get "data") = true)
      · exact .messages rfl hmessages.1 hmessages.2
      · rw [if_neg hmessages] at h
        exact absurd h normal_ne_critical
  · intro h
    cases h with
    | settled h => exact absurd h (by decide)
    | status h => exact absurd h (by decide)
    | custom _ hm hd => rw [if_pos hm, hd]
    | messages _ hm hd =>
      rw [if_neg (by rw [hm]; decide)]
      exact if_pos ⟨hm, hd⟩

theorem typeDropPriority_eq_critical :
    typeDropPriority event eventType = DROP_PRIORITY_CRITICAL ↔ CriticalAs event eventType := by
  by_cases hevent : eventType = "event"
  · rw [hevent]
    exact typeDropPriority_event_iff
  unfold typeDropPriority
  by_cases hsettled : eventType ∈ ["complete", "error", "connection_ack"]
  · rw [if_pos (List.contains_iff_mem.2 hsettled)]
    exact iff_of_true rfl (.settled hsettled)
  rw [if_neg (mt List.contains_iff_mem.1 hsettled)]
  by_cases hstatus : eventType = "status" ∧
      valueAsStr (event.get "state") ∈ ["idle", "running", "stopped", "detached"]
  · rw [if_pos ⟨hstatus.1, List.contains_iff_mem.2 hstatus.2⟩]
    exact iff_of_true rfl (.status hstatus.1 hstatus.2)
  rw [if_neg fun h => hstatus ⟨h.1, List.contains_iff_mem.1 h.2⟩, if_neg hevent]
  refine iff_of_false normal_ne_critical fun h => ?_
  cases h with
  | settled h => exact hsettled h
  | status h hs => exact hstatus ⟨h, hs⟩
  | custom h | messages h => exact hevent h

/-- Only a frame with one of five types is critical by its type. -/
theorem CriticalAs.type (h : CriticalAs event eventType) :
    eventType ∈ ["complete", "error", "connection_ack", "status", "event"] := by
  cases h with
  | settled h => exact List.mem_append_left ["status", "event"] h
  | status h | custom h | messages h =>
    rw [h]
    decide

/-- The frames with the critical priority. -/
inductive Critical : Members → Prop
  | typed {event : Members} (h : CriticalAs event (valueAsStr (event.get "type"))) : Critical event
  /-- The payload of a `next` frame is a `messages` chunk that ends the stream or the goal. -/
  | messages {event payload : Members} (ht : valueAsStr (event.get "type") = "next")
      (hp : (event.get "payload").bind Json.asObject? = some payload)
      (hm : valueAsStr (payload.get "mode") = "messages")
      (hd : messagesWireTerminal (payload.get "data") = true ∨
        goalCompletion (payload.get "data") = true) : Critical event
  | complete {event payload : Members} (ht : valueAsStr (event.get "type") = "next")
      (hp : (event.get "payload").bind Json.asObject? = some payload)
      (hc : valueAsStr (payload.get "type") = "complete") : Critical event
  /-- The object that a `next` frame carries is critical. -/
  | carried {event payload inner : Members} (ht : valueAsStr (event.get "type") = "next")
      (hp : (event.get "payload").bind Json.asObject? = some payload)
      (hi : (payload.get "data").bind Json.asObject? = some inner) (h : Critical inner) :
      Critical event
  /-- A `next` frame that carries no object is read as a frame of its payload's type. -/
  | bare {event payload : Members} (ht : valueAsStr (event.get "type") = "next")
      (hp : (event.get "payload").bind Json.asObject? = some payload)
      (hi : (payload.get "data").bind Json.asObject? = none)
      (h : CriticalAs event (valueAsStr (payload.get "type"))) : Critical event

theorem Critical.of_type (h : Critical event) (hne : valueAsStr (event.get "type") ≠ "next") :
    CriticalAs event (valueAsStr (event.get "type")) := by
  cases h with
  | typed h => exact h
  | messages ht | complete ht | carried ht | bare ht => exact absurd ht hne

/-- What makes a `next` frame with a payload critical. -/
theorem critical_next_iff (ht : valueAsStr (event.get "type") = "next")
    (hp : (event.get "payload").bind Json.asObject? = some payload) : Critical event ↔
    (valueAsStr (payload.get "mode") = "messages" ∧
      (messagesWireTerminal (payload.get "data") = true ∨
        goalCompletion (payload.get "data") = true)) ∨
    valueAsStr (payload.get "type") = "complete" ∨
    (∃ inner, (payload.get "data").bind Json.asObject? = some inner ∧ Critical inner) ∨
    ((payload.get "data").bind Json.asObject? = none ∧
      CriticalAs event (valueAsStr (payload.get "type"))) := by
  constructor
  · intro h
    cases h with
    | typed h =>
      rw [ht] at h
      exact absurd h.type (by decide)
    | messages _ hp' hm hd =>
      obtain rfl := Option.some.inj (hp.symm.trans hp')
      exact Or.inl ⟨hm, hd⟩
    | complete _ hp' hc =>
      obtain rfl := Option.some.inj (hp.symm.trans hp')
      exact Or.inr (Or.inl hc)
    | carried _ hp' hi h =>
      obtain rfl := Option.some.inj (hp.symm.trans hp')
      exact Or.inr (Or.inr (Or.inl ⟨_, hi, h⟩))
    | bare _ hp' hi h =>
      obtain rfl := Option.some.inj (hp.symm.trans hp')
      exact Or.inr (Or.inr (Or.inr ⟨hi, h⟩))
  · rintro (⟨hm, hd⟩ | hc | ⟨inner, hi, h⟩ | ⟨hi, h⟩)
    · exact .messages ht hp hm hd
    · exact .complete ht hp hc
    · exact .carried ht hp hi h
    · exact .bare ht hp hi h

/-- **Critical frames.** -/
theorem objectDropPriority_eq_critical :
    objectDropPriority event = DROP_PRIORITY_CRITICAL ↔ Critical event := by
  fun_induction objectDropPriority event with
  | case1 event eventType hbatch =>
    refine iff_of_false high_ne_critical fun h => ?_
    have hne : eventType ≠ "next" := by
      rintro hn
      rw [hn] at hbatch
      exact absurd hbatch (by decide)
    have htype : eventType ∈ _ := (h.of_type hne).type
    rcases hbatch with hb | hb
    · exact absurd (hb ▸ htype) (by decide)
    · exact absurd (hb ▸ htype) (by decide)
  | case2 event eventType hbatch ht hp =>
    rw [typeDropPriority_eq_critical]
    refine ⟨fun h => absurd (ht ▸ h.type) (by decide), fun h => ?_⟩
    cases h with
    | typed h => exact h
    | messages _ hp' | complete _ hp' | carried _ hp' | bare _ hp' =>
      rw [hp] at hp'
      cases hp'
  | case3 event eventType hbatch ht payload hp data hm =>
    exact iff_of_true rfl (.messages ht hp hm.1 hm.2)
  | case4 event eventType hbatch ht payload hp data hm hc =>
    exact iff_of_true rfl (.complete ht hp hc)
  | case5 event eventType hbatch ht payload hp data hm hc inner hi _ ih =>
    rw [ih, critical_next_iff ht hp]
    constructor
    · exact fun h => Or.inr (Or.inr (Or.inl ⟨inner, hi, h⟩))
    · rintro (h | h | ⟨inner', hi', h⟩ | ⟨hi', -⟩)
      · exact absurd h hm
      · exact absurd h hc
      · exact Option.some.inj (hi.symm.trans hi') ▸ h
      · rw [hi] at hi'
        cases hi'
  | case6 event eventType hbatch ht payload hp data hm hc hi =>
    rw [typeDropPriority_eq_critical, critical_next_iff ht hp]
    constructor
    · exact fun h => Or.inr (Or.inr (Or.inr ⟨hi, h⟩))
    · rintro (h | h | ⟨inner, hi', -⟩ | ⟨-, h⟩)
      · exact absurd h hm
      · exact absurd h hc
      · rw [hi] at hi'
        cases hi'
      · exact h
  | case7 event eventType hbatch ht =>
    rw [typeDropPriority_eq_critical]
    exact ⟨.typed, fun h => h.of_type ht⟩

theorem objectDropPriority_of_type {t : String} (ht : valueAsStr (event.get "type") = t)
    (hne : ["event_batch", "tool_call_updates_batch", "next"].contains t = false) :
    objectDropPriority event = typeDropPriority event t := by
  subst ht
  rw [objectDropPriority]
  simp only [List.contains_cons, Bool.or_eq_false_iff, beq_eq_false_iff_ne] at hne
  obtain ⟨h1, h2, h3, -⟩ := hne
  rw [if_neg (by rintro (h | h) <;> contradiction), if_neg h3]

/-- A `next` frame goes by the object that it carries. -/
theorem objectDropPriority_next (ht : valueAsStr (event.get "type") = "next")
    (hp : (event.get "payload").bind Json.asObject? = some payload)
    (hi : (payload.get "data").bind Json.asObject? = some inner)
    (hm : valueAsStr (payload.get "mode") ≠ "messages")
    (hc : valueAsStr (payload.get "type") ≠ "complete") :
    objectDropPriority event = objectDropPriority inner := by
  rw [objectDropPriority]
  simp only
  rw [if_neg (by rw [ht]; decide), if_pos ht]
  split
  · rename_i hnone
    rw [hp] at hnone
    cases hnone
  · rename_i payload' hp'
    obtain rfl := Option.some.inj (hp.symm.trans hp')
    rw [if_neg fun h => hm h.1, if_neg hc]
    split
    · rename_i inner' hi'
      rw [Option.some.inj (hi.symm.trans hi')]
    · rename_i hnone
      rw [hi] at hnone
      cases hnone

/-! ## Acknowledged frames -/

/-- An event that ends the turn by its mode and data is critical. -/
theorem criticalAs_of_shape (h : inboundNeedsAckFromEventShape event = true) :
    CriticalAs event "event" := by
  unfold inboundNeedsAckFromEventShape at h
  simp only at h
  split_ifs at h with hcustom
  · rw [Bool.and_eq_true, decide_eq_true_eq] at hcustom
    refine .custom rfl hcustom.1 ?_
    cases hd : event.get "data" with
    | none =>
      rw [hd] at hcustom
      exact absurd hcustom.2 (by decide)
    | some data =>
      rw [hd] at hcustom
      exact if_pos hcustom.2
  · rw [Bool.and_eq_true, decide_eq_true_eq] at h
    exact .messages rfl h.1 (Or.inl h.2)

/-- A `next` frame is acknowledged for an object that is not critical under its own type. -/
def Exposed (m : Members) : Prop :=
  valueAsStr (m.get "type") = "next" ∧
    ∃ payload inner, (m.get "payload").bind Json.asObject? = some payload ∧
      (payload.get "data").bind Json.asObject? = some inner ∧
      valueAsStr (payload.get "mode") = "event" ∧ inboundNeedsAckFromEventShape inner = true ∧
      valueAsStr (payload.get "type") ≠ "complete" ∧ ¬ Critical inner

theorem inboundNeedsDeliveryAck_obj : inboundNeedsDeliveryAck (.obj m) =
    match valueAsStr (m.get "type") with
    | "complete" => true
    | "next" =>
      match (m.get "payload").bind Json.asObject? with
      | none => false
      | some payload =>
        match (payload.get "data").bind Json.asObject? with
        | none => false
        | some inner =>
          valueAsStr (payload.get "mode") = "event" && inboundNeedsAckFromEventShape inner
    | "event" => inboundNeedsAckFromEventShape m
    | _ => false := rfl

/-- An acknowledged frame is complete, ends the turn itself, or carries what does. -/
inductive Acknowledged (m : Members) : Prop
  | complete (ht : valueAsStr (m.get "type") = "complete")
  | event (ht : valueAsStr (m.get "type") = "event") (h : inboundNeedsAckFromEventShape m = true)
  | next (payload inner : Members) (ht : valueAsStr (m.get "type") = "next")
      (hp : (m.get "payload").bind Json.asObject? = some payload)
      (hi : (payload.get "data").bind Json.asObject? = some inner)
      (hm : valueAsStr (payload.get "mode") = "event")
      (h : inboundNeedsAckFromEventShape inner = true)

theorem acknowledged_iff : inboundNeedsDeliveryAck (.obj m) = true ↔ Acknowledged m := by
  constructor
  · intro h
    rw [inboundNeedsDeliveryAck_obj] at h
    split at h
    · rename_i ht
      exact .complete ht
    · rename_i ht
      split at h
      · cases h
      · rename_i payload hp
        split at h
        · cases h
        · rename_i inner hi
          rw [Bool.and_eq_true, decide_eq_true_eq] at h
          exact .next payload inner ht hp hi h.1 h.2
    · rename_i ht
      exact .event ht h
    · cases h
  · intro h
    rw [inboundNeedsDeliveryAck_obj]
    cases h with
    | complete ht =>
      rw [ht]
      rfl
    | event ht h =>
      rw [ht]
      exact h
    | next payload inner ht hp hi hm h =>
      rw [ht]
      simp only
      rw [hp]
      simp only
      rw [hi, hm]
      exact h

/-- An acknowledged frame is critical, unless it is exposed. -/
theorem critical_of_acknowledged (h : Acknowledged m) : Critical m ↔ ¬ Exposed m := by
  cases h with
  | complete ht =>
    refine iff_of_true (.typed ?_) fun hx => ?_
    · rw [ht]
      exact .settled (by decide)
    · exact absurd (ht.symm.trans hx.1) (by decide)
  | event ht h =>
    refine iff_of_true (.typed ?_) fun hx => ?_
    · rw [ht]
      exact criticalAs_of_shape h
    · exact absurd (ht.symm.trans hx.1) (by decide)
  | next payload inner ht hp hi hm h =>
    rw [critical_next_iff ht hp]
    constructor
    · rintro hc ⟨-, payload', inner', hp', hi', -, -, hne, hno⟩
      obtain rfl := Option.some.inj (hp.symm.trans hp')
      obtain rfl := Option.some.inj (hi.symm.trans hi')
      rcases hc with ⟨hm', -⟩ | hc | ⟨inner', hi', hc⟩ | ⟨hi', -⟩
      · exact absurd (hm.symm.trans hm') (by decide)
      · exact hne hc
      · exact hno (Option.some.inj (hi.symm.trans hi') ▸ hc)
      · rw [hi] at hi'
        cases hi'
    · intro hx
      by_cases hc : valueAsStr (payload.get "type") = "complete"
      · exact Or.inr (Or.inl hc)
      · refine Or.inr (Or.inr (Or.inl ⟨inner, hi, ?_⟩))
        by_contra hno
        exact hx ⟨ht, payload, inner, hp, hi, hm, h, hc, hno⟩

theorem acknowledged_of_exposed (h : Exposed m) : Acknowledged m := by
  obtain ⟨ht, payload, inner, hp, hi, hm, hs, -, -⟩ := h
  exact .next payload inner ht hp hi hm hs

end SootheClient.Frame
