import SootheClient.Serving.Transcript

/-!
# Feeds

A subscriber of a session's key that comes while the gate is free gets the feeds of the turns from
then on, one after another: all of it while its channel has room, and a part of it, in order, where
the channel was full.
-/

namespace SootheClient.Serving

open SootheClient.Sse (Hub Follows WellFormed accepted removes SUBSCRIBER_BUFFER)
open SootheClient.Turn (Effect Error Outcome SseEvent TurnCall TurnRunner)

variable {r : TurnRunner} {s t : Service} {a : Act} {acts before : List Act} {e : Effect}
  {sid key id : String} {n : ℕ} {hub hub' : Hub} {label : Sse.Label}

/-- The act does not remove the subscriber. -/
def Stays (key id : String) : Act → Prop
  | .subscriber label => removes key id label = false
  | _ => True

instance : Decidable (Stays key id a) := by
  cases a with
  | subscriber label => exact inferInstanceAs (Decidable (removes key id label = false))
  | _ => exact isTrue trivial

/-- The channel has room when the session's turn does something. -/
def Roomy (key : String) (n : ℕ) (s : Service) : Act → Prop
  | .effect sid => sid = key → (s.hub.channels n).waiting.length < SUBSCRIBER_BUFFER
  | _ => True

instance : Decidable (Roomy key n s a) := by
  cases a with
  | effect sid => exact inferInstanceAs (Decidable (sid = key → _))
  | _ => exact isTrue trivial

/-- An effect is a step of the hub if it broadcasts, and leaves the hub alone otherwise. -/
theorem perform_hub : (∃ k event, e = .broadcast k event ∧
    s.hub.step (.broadcast k event) = some (s.perform e).hub) ∨
      (eventsOf [e] = [] ∧ (s.perform e).hub = s.hub) := by
  cases e with
  | broadcast k event => exact Or.inl ⟨k, event, rfl, rfl⟩
  | _ => exact Or.inr ⟨rfl, rfl⟩

theorem wellFormed_service (h : WellFormed s.hub) (hs : s.step r a = some t) :
    WellFormed t.hub := by
  cases step_cases hs with
  | persist | busy | begin | release => exact h
  | subscriber label hub hlabel hhub => exact Sse.wellFormed_step h hhub
  | effect sid e rest hrun =>
    obtain ⟨k, event, -, hhub⟩ | ⟨-, hhub⟩ := perform_hub (s := s) (e := e)
    · exact Sse.wellFormed_step h hhub
    · show WellFormed (s.perform e).hub
      rw [hhub]
      exact h

/-- What a broadcast gives to a channel of its key, or of another one. -/
theorem accepted_own {event : SseEvent} {k : String} (hk : k = sid) :
    (accepted key n hub (.broadcast k event)).Sublist (if sid = key then [event] else []) ∧
      ((sid = key → (hub.channels n).waiting.length < SUBSCRIBER_BUFFER) →
        accepted key n hub (.broadcast k event) = if sid = key then [event] else []) := by
  subst hk
  rw [Sse.accepted_broadcast]
  by_cases hkey : k = key
  · rw [if_pos hkey]
    split_ifs with hroom
    · exact ⟨List.Sublist.refl _, fun _ => rfl⟩
    · exact ⟨List.nil_sublist _, fun h => absurd ⟨hkey, h hkey⟩ hroom⟩
  · rw [if_neg hkey, if_neg fun h => hkey h.1]
    exact ⟨List.Sublist.refl _, fun _ => rfl⟩

/-- **Step lemma.** The channel gets the events of what is done for its key, or a part of them. -/
theorem feed_step (hown : Owned s) (h : Follows key id n true s.hub) (hstays : Stays key id a)
    (hs : s.step r a = some t) : Follows key id n true t.hub ∧
      ∃ got, (t.hub.channels n).history = (s.hub.channels n).history ++ got ∧
        got.Sublist (eventsOf (does key s a)) ∧
          (Roomy key n s a → got = eventsOf (does key s a)) := by
  have hsame : ∃ got : List SseEvent, (s.hub.channels n).history =
      (s.hub.channels n).history ++ got ∧ got.Sublist [] ∧ (Roomy key n s a → got = []) :=
    ⟨[], (List.append_nil _).symm, List.Sublist.refl _, fun _ => rfl⟩
  cases step_cases hs with
  | persist | busy | begin | release => exact ⟨h, hsame⟩
  | subscriber label hub hlabel hhub =>
    have hfollows := Sse.follows_step h hhub
    have hhist := Sse.history_step h hhub
    have hstay : removes key id label = false := hstays
    have hnone : accepted key n s.hub label = [] := by
      cases label with
      | broadcast => cases hlabel
      | _ => rfl
    rw [hstay] at hfollows
    rw [if_pos rfl, hnone] at hhist
    exact ⟨hfollows, [], hhist, List.Sublist.refl _, fun _ => rfl⟩
  | effect sid e rest hrun =>
    have hpend : s.pending sid = e :: rest := by
      unfold Service.pending
      rw [hrun]
      rfl
    have hdoes : does key s (.effect sid) = if sid = key then [e] else [] := by
      show (if sid = key then (s.pending sid).take 1 else []) = _
      rw [hpend]
      rfl
    obtain ⟨k, event, rfl, hhub⟩ | ⟨hevents, hhub⟩ := perform_hub (s := s) (e := e)
    · have hk : k = sid := hown sid (.broadcast k event) (by rw [hpend]; exact List.mem_cons_self)
      have hfollows := Sse.follows_step h hhub
      have hhist := Sse.history_step h hhub
      obtain ⟨hsub, hall⟩ : (accepted key n s.hub (.broadcast k event)).Sublist _ ∧ _ :=
        accepted_own hk
      have hev : eventsOf (does key s (.effect sid)) = if sid = key then [event] else [] := by
        rw [hdoes]
        split_ifs <;> rfl
      rw [if_pos rfl] at hhist
      rw [hev]
      exact ⟨hfollows, _, hhist, hsub, hall⟩
    · have hev : eventsOf (does key s (.effect sid)) = [] := by
        rw [hdoes]
        split_ifs
        · exact hevents
        · rfl
      show Follows key id n true (s.perform e).hub ∧ ∃ got,
        ((s.perform e).hub.channels n).history = _ ∧ _
      rw [hev, hhub]
      exact ⟨h, hsame⟩

/-- **Run lemma.** -/
theorem feed_exec (hown : Owned s) (h : Follows key id n true s.hub)
    (hstays : ∀ a ∈ acts, Stays key id a) (hs : Lts.exec (Service.step r) s acts = some t) :
    ∃ got, (t.hub.channels n).history = (s.hub.channels n).history ++ got ∧
      got.Sublist (eventsOf (done r key s acts)) ∧
        (Lts.Guarded (Service.step r) (Roomy key n) s acts →
          got = eventsOf (done r key s acts)) := by
  unfold done
  induction acts generalizing s with
  | nil =>
    obtain rfl := Option.some.inj hs
    exact ⟨[], (List.append_nil _).symm, List.Sublist.refl _, fun _ => rfl⟩
  | cons a acts ih =>
    obtain ⟨u, hu, hs⟩ := Lts.exec_cons_eq_some.1 hs
    obtain ⟨hfollows, first, hfirst, hsub, hall⟩ :=
      feed_step hown h (hstays a List.mem_cons_self) hu
    obtain ⟨rest, hrest, hsubs, halls⟩ := ih (owned_step hown hu) hfollows
      (fun b hb => hstays b (List.mem_cons_of_mem a hb)) hs
    refine ⟨first ++ rest, ?_, ?_, ?_⟩
    · rw [hrest, hfirst, List.append_assoc]
    · rw [Lts.collect_cons_of_step hu, eventsOf_append]
      exact hsub.append hsubs
    · rintro ⟨hroom, hrooms⟩
      rw [Lts.collect_cons_of_step hu, eventsOf_append, hall hroom, halls (hrooms u hu)]

/-- **Feeds.** A subscriber that comes while the gate of its session is free, and stays, gets a part
of the feeds of the turns that begin for the session, in order; while its channel has room it gets
all of them, up to what the turn that holds the gate has still to tell. -/
theorem feed (hbefore : Lts.exec (Service.step r) {} before = some s)
    (h : Lts.exec (Service.step r) s (.subscriber (.subscribe key id) :: acts) = some t)
    (hidle : s.running key = none) (hstays : ∀ a ∈ acts, Stays key id a) :
    ∃ feeds told,
      List.Forall₂ (fun x feed => Feed r x.2.1 feed)
        (turns r key s (.subscriber (.subscribe key id) :: acts)) feeds ∧
      told ++ eventsOf (t.pending key) = feeds.flatten ∧
      (t.hub.channels s.hub.opened).history.Sublist told ∧
      (Lts.Guarded (Service.step r) (Roomy key s.hub.opened) s
          (.subscriber (.subscribe key id) :: acts) →
        (t.hub.channels s.hub.opened).history = told) := by
  have hinv : Owned s ∧ WellFormed s.hub :=
    Lts.inv_of_exec (I := fun s : Service => Owned s ∧ WellFormed s.hub)
      (fun _ _ _ hI hs => ⟨owned_step hI.1 hs, wellFormed_service hI.2 hs⟩)
      ⟨owned_init, Sse.wellFormed_init⟩ hbefore
  obtain ⟨feeds, hfeeds, hflat⟩ := parts_of_turns
    (P := fun _ res feed => Feed r res feed) (fun _ _ => eventsOf_append) rfl
    (fun x hx => feed_of_course hx)
    (courses r key s (.subscriber (.subscribe key id) :: acts))
  have hdone := done_pending hidle h
  obtain ⟨u, hu, hrest⟩ := Lts.exec_cons_eq_some.1 h
  obtain ⟨hub, hhub, rfl⟩ : ∃ hub, s.hub.step (.subscribe key id) = some hub ∧
      { s with hub := hub } = u := Option.map_eq_some_iff.1 hu
  obtain ⟨hfollows, hempty⟩ := Sse.follows_subscribe hinv.2 hhub
  obtain ⟨got, hgot, hsub, hall⟩ :=
    feed_exec (owned_step hinv.1 hu) hfollows hstays hrest
  have hdid : done r key s (.subscriber (.subscribe key id) :: acts) =
      done r key { s with hub := hub } acts := Lts.collect_cons_of_step hu
  have hhist : (t.hub.channels s.hub.opened).history = got := by
    rw [hgot]
    show (hub.channels s.hub.opened).history ++ got = got
    rw [hempty]
    rfl
  refine ⟨feeds, eventsOf (done r key { s with hub := hub } acts), hfeeds, ?_, ?_, ?_⟩
  · rw [← eventsOf_append, ← hdid, hdone, hflat]
  · rw [hhist]
    exact hsub
  · rintro ⟨-, hroom⟩
    rw [hhist]
    exact hall (hroom _ hu)

/-- A subscriber comes before the turn and receives in the midst of it. -/
def followed : List Act :=
  served.take 7 ++ .subscriber (.recv 0) :: served.drop 7

theorem feed_followed : ∃ s t feeds,
    Lts.exec (Service.step TurnRunner.attached) {} persisted = some s ∧
    Lts.exec (Service.step TurnRunner.attached) s
      (.subscriber (.subscribe "s1" "a") :: followed) = some t ∧
    List.Forall₂ (fun x feed => Feed TurnRunner.attached x.2.1 feed)
      (turns TurnRunner.attached "s1" s (.subscriber (.subscribe "s1" "a") :: followed)) feeds ∧
    (t.hub.channels 0).history.map (·.eventType) = ["delta", "complete"] ∧
    (t.hub.channels 0).history = feeds.flatten := by
  have hrun : ((Lts.exec (Service.step TurnRunner.attached) {} persisted).bind fun s =>
      (Lts.exec (Service.step TurnRunner.attached) s
        (.subscriber (.subscribe "s1" "a") :: followed)).map fun t =>
          ((s.running "s1").isNone, (t.hub.channels 0).history.map (·.eventType),
            [s.hub.opened, (t.pending "s1").length],
            decide (Lts.Guarded (Service.step TurnRunner.attached) (Roomy "s1" 0) s
              (.subscriber (.subscribe "s1" "a") :: followed)))) =
      some (true, ["delta", "complete"], [0, 0], true) := by
    decide +kernel
  obtain ⟨s, hs, hrun⟩ := Option.bind_eq_some_iff.1 hrun
  obtain ⟨t, ht, hrun⟩ := Option.map_eq_some_iff.1 hrun
  simp only [Prod.mk.injEq, List.cons.injEq, and_true, decide_eq_true_eq] at hrun
  obtain ⟨hidle, hevents, ⟨hopened, hpend⟩, hroom⟩ := hrun
  obtain ⟨feeds, told, hfeeds, htold, -, hall⟩ :=
    feed hs ht (Option.isNone_iff_eq_none.1 hidle) (by decide +kernel)
  rw [hopened] at hall
  rw [List.eq_nil_of_length_eq_zero hpend] at htold
  refine ⟨s, t, feeds, hs, ht, hfeeds, hevents, ?_⟩
  rw [hall hroom, ← htold]
  exact (List.append_nil _).symm

end SootheClient.Serving
