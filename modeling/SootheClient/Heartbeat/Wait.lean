import SootheClient.Heartbeat.Tracker
import SootheClient.Lib.Scan

/-!
# Waiting for the daemon

`wait_for_alive` polls the tracker until the daemon is alive or the deadline has passed, and sleeps
for a second between two polls. Other tasks work on the tracker between the polls.
-/

namespace SootheClient.Heartbeat

/-- The instants that one iteration reads: in `get_health` and in the test of the deadline. -/
structure Poll where
  health : ℕ
  test : ℕ

inductive WaitEvent where
  /-- Another task works on the tracker. -/
  | op (op : ℕ × TrackerOp)
  | poll (p : Poll)

structure HeartbeatError where
  lastHeartbeat : Option ℕ
  state : String
  message : String

def POLL_INTERVAL : ℕ := 10 ^ 9

/-- The timeout in force: 30 s when none is given. -/
def waitTimeout (timeout : ℕ) : ℕ := if timeout = 0 then 30 * 10 ^ 9 else timeout

/-- What a wait does on an event. -/
def waitStep (deadline : ℕ) (t : HeartbeatTracker) :
    WaitEvent → Scan.Step HeartbeatTracker (Except HeartbeatError Unit)
  | .op op => .next (t.apply op)
  | .poll p =>
    let health := t.getHealth p.health
    if health.isAlive then .stop (.ok ())
    else if deadline ≤ p.test then
      .stop (.error ⟨some health.lastHeartbeat, health.state,
        "timeout waiting for daemon to be alive"⟩)
    else .next t

/-- The event at which a wait that is called at the instant `called` returns, and its result. -/
def waitForAlive (t : HeartbeatTracker) (timeout called : ℕ) (events : List WaitEvent) :
    Option (ℕ × Except HeartbeatError Unit) :=
  Scan.stopAt (waitStep (called + waitTimeout timeout)) t events

/-- What other tasks gave to the tracker. -/
def told (events : List WaitEvent) : List (ℕ × TrackerOp) :=
  events.filterMap fun
    | .op op => some op
    | .poll _ => none

def polls (events : List WaitEvent) : List Poll :=
  events.filterMap fun
    | .op _ => none
    | .poll p => some p

/-- No test of the deadline comes earlier than a second after the one before. -/
def Slept : ℕ → List WaitEvent → Prop
  | _, [] => True
  | earliest, .op _ :: events => Slept earliest events
  | earliest, .poll p :: events => earliest ≤ p.test ∧ Slept (p.test + POLL_INTERVAL) events

/-- From one poll to the next no more than `gap` passes; `last` is the instant of the last one. -/
def Paced (gap : ℕ) : ℕ → List WaitEvent → Prop
  | _, [] => True
  | last, .op op :: events => last ≤ op.1 ∧ Paced gap last events
  | last, .poll p :: events => p.health ≤ last + gap ∧ Paced gap p.health events

variable {t : HeartbeatTracker} {timeout called deadline earliest gap last n : ℕ}
  {events : List WaitEvent} {r : Except HeartbeatError Unit}

/-- **Decision.** A wait returns at a poll, on the tracker as the other tasks left it. -/
theorem decided (h : Scan.stopAt (waitStep deadline) t events = some (n, r)) :
    ∃ p, events[n]? = some (.poll p) ∧
      let t' := (told (events.take n)).foldl HeartbeatTracker.apply t
      ((t'.getHealth p.health).isAlive = true ∧ r = .ok () ∨
        (t'.getHealth p.health).isAlive = false ∧ deadline ≤ p.test ∧
          r = .error ⟨some t'.getLastHeartbeat, t'.getState,
            "timeout waiting for daemon to be alive"⟩) := by
  induction events generalizing t n with
  | nil => cases h
  | cons e events ih =>
    have hgo : ∀ {t'}, waitStep deadline t e = .next t' →
        ∃ m, n = m + 1 ∧ Scan.stopAt (waitStep deadline) t' events = some (m, r) := by
      intro t' hs
      unfold Scan.stopAt at h
      rw [hs] at h
      obtain ⟨⟨m, r'⟩, hm, heq⟩ := Option.map_eq_some_iff.1 h
      obtain ⟨rfl, rfl⟩ := Prod.mk.inj heq
      exact ⟨m, rfl, hm⟩
    cases e with
    | op op =>
      obtain ⟨m, rfl, hm⟩ := hgo rfl
      exact ih hm
    | poll p =>
      by_cases halive : (t.getHealth p.health).isAlive = true
      · have hs : waitStep deadline t (.poll p) = .stop (.ok ()) := if_pos halive
        unfold Scan.stopAt at h
        rw [hs] at h
        obtain ⟨rfl, rfl⟩ := Prod.mk.inj (Option.some.inj h)
        exact ⟨p, rfl, Or.inl ⟨halive, rfl⟩⟩
      · by_cases hlate : deadline ≤ p.test
        · have hs : waitStep deadline t (.poll p) = .stop (.error ⟨some t.getLastHeartbeat,
              t.getState, "timeout waiting for daemon to be alive"⟩) :=
            (if_neg halive).trans (if_pos hlate)
          unfold Scan.stopAt at h
          rw [hs] at h
          obtain ⟨rfl, rfl⟩ := Prod.mk.inj (Option.some.inj h)
          exact ⟨p, rfl, Or.inr ⟨Bool.eq_false_iff.2 halive, hlate, rfl⟩⟩
        · obtain ⟨m, rfl, hm⟩ := hgo ((if_neg halive).trans (if_neg hlate))
          exact ih hm

/-- **Deadline.** With a second between two tests, a wait returns once enough polls were made. -/
theorem returns_of_slept (hslept : Slept earliest events) (hpolls : polls events ≠ [])
    (h : deadline ≤ earliest + ((polls events).length - 1) * POLL_INTERVAL) :
    (Scan.stopAt (waitStep deadline) t events).isSome = true := by
  induction events generalizing t earliest with
  | nil => exact absurd rfl hpolls
  | cons e events ih =>
    unfold Scan.stopAt
    cases e with
    | op op =>
      show ((Scan.stopAt _ _ events).map _).isSome = true
      rw [Option.isSome_map]
      exact ih hslept hpolls h
    | poll p =>
      by_cases halive : (t.getHealth p.health).isAlive = true
      · rw [show waitStep deadline t (.poll p) = .stop (.ok ()) from if_pos halive]
        rfl
      by_cases hlate : deadline ≤ p.test
      · rw [show waitStep deadline t (.poll p) = .stop _ from
          (if_neg halive).trans (if_pos hlate)]
        rfl
      rw [show waitStep deadline t (.poll p) = .next t from
        (if_neg halive).trans (if_neg hlate), Option.isSome_map]
      have hlen : (polls (.poll p :: events)).length = (polls events).length + 1 := rfl
      rw [hlen, Nat.add_sub_cancel] at h
      -- This poll came before the deadline, so it cannot be the last one that counts.
      have hne : polls events ≠ [] := by
        intro hnil
        rw [hnil] at h
        have := hslept.1
        simp only [List.length_nil, Nat.zero_mul] at h
        omega
      obtain ⟨k, hk⟩ : ∃ k, (polls events).length = k + 1 :=
        Nat.exists_eq_succ_of_ne_zero (mt List.length_eq_zero_iff.1 hne)
      refine ih hslept.2 hne ?_
      rw [hk, Nat.add_sub_cancel]
      rw [hk, Nat.succ_mul] at h
      have := hslept.1
      omega

/-! ## What is heard while waiting -/

/-- The operation neither resets the tracker nor sets its threshold. -/
def Keeps (op : ℕ × TrackerOp) : Prop :=
  TrackerOp.isReset op = false ∧ TrackerOp.threshold op = none

theorem keeps_apply {op : ℕ × TrackerOp} (h : Keeps op) :
    (t.apply op).aliveThreshold = t.aliveThreshold ∧ (t.apply op).startTime = t.startTime ∧
      (t.apply op).lastHeartbeat = (TrackerOp.beat op).or t.lastHeartbeat := by
  obtain ⟨now, data | _ | threshold | _⟩ := op
  · exact ⟨rfl, rfl, rfl⟩
  · exact ⟨rfl, rfl, rfl⟩
  · cases h.2
  · cases h.1

theorem keeps_foldl {ops : List (ℕ × TrackerOp)} (h : ∀ op ∈ ops, Keeps op) :
    (ops.foldl HeartbeatTracker.apply t).aliveThreshold = t.aliveThreshold ∧
      (ops.foldl HeartbeatTracker.apply t).startTime = t.startTime ∧
        ((∀ op ∈ ops, TrackerOp.beat op = none) →
          (ops.foldl HeartbeatTracker.apply t).lastHeartbeat = t.lastHeartbeat) := by
  induction ops generalizing t with
  | nil => exact ⟨rfl, rfl, fun _ => rfl⟩
  | cons op ops ih =>
    obtain ⟨hth, hst, hlast⟩ := keeps_apply (t := t) (h op List.mem_cons_self)
    obtain ⟨ihth, ihst, ihlast⟩ := ih (t := t.apply op) fun o ho => h o (List.mem_cons_of_mem op ho)
    refine ⟨ihth.trans hth, ihst.trans hst, fun hnone => ?_⟩
    rw [List.foldl_cons, ihlast fun o ho => hnone o (List.mem_cons_of_mem op ho), hlast,
      hnone op List.mem_cons_self, Option.none_or]

theorem eq_of_beat {op : ℕ × TrackerOp} {b : ℕ} (h : TrackerOp.beat op = some b) : b = op.1 := by
  obtain ⟨now, data | _ | threshold | _⟩ := op
  · exact (Option.some.inj h).symm
  · exact (Option.some.inj h).symm
  · cases h
  · cases h

/-- A beat that was heard since the last poll is found by the next one. -/
theorem ok_of_heard {b : ℕ} (hpaced : Paced gap last events)
    (hkeep : ∀ op ∈ told events, Keeps op) (hgap : gap < t.aliveThreshold)
    (hb : t.lastHeartbeat = some b) (hlast : last ≤ b)
    (h : Scan.stopAt (waitStep deadline) t events = some (n, r)) : r = .ok () := by
  induction events generalizing t b n with
  | nil => cases h
  | cons e events ih =>
    cases e with
    | op op =>
      obtain ⟨⟨m, r'⟩, hm, heq⟩ := Option.map_eq_some_iff.1
        (show (Scan.stopAt (waitStep deadline) (t.apply op) events).map (Scan.later 1) = _ from h)
      obtain ⟨-, rfl⟩ := Prod.mk.inj heq
      obtain ⟨hth, -, hlh⟩ := keeps_apply (t := t) (hkeep op List.mem_cons_self)
      have hkeep' : ∀ o ∈ told events, Keeps o := fun o ho => hkeep o (List.mem_cons_of_mem op ho)
      cases hbeat : TrackerOp.beat op with
      | none =>
        rw [hbeat, Option.none_or] at hlh
        exact ih hpaced.2 hkeep' (by rw [hth]; exact hgap) (hlh.trans hb) hlast hm
      | some b' =>
        have hb' : b' = op.1 := eq_of_beat hbeat
        rw [hbeat, Option.some_or] at hlh
        exact ih hpaced.2 hkeep' (by rw [hth]; exact hgap) hlh (hb' ▸ hpaced.1) hm
    | poll p =>
      have halive : (t.getHealth p.health).isAlive = true := by
        unfold HeartbeatTracker.getHealth HeartbeatTracker.getLastHeartbeat
        rw [hb, Option.getD_some, Bool.or_eq_true, decide_eq_true_eq]
        have := hpaced.1
        exact Or.inl (by omega)
      unfold Scan.stopAt at h
      rw [show waitStep deadline t (.poll p) = .stop (.ok ()) from if_pos halive] at h
      exact (Prod.mk.inj (Option.some.inj h)).2.symm

/-- **No beat is missed.** When the threshold is longer than the time between two polls, a wait in
which the daemon was heard of succeeds. -/
theorem ok_of_beat (hpaced : Paced gap last events) (hkeep : ∀ op ∈ told events, Keeps op)
    (hgap : gap < t.aliveThreshold)
    (h : Scan.stopAt (waitStep deadline) t events = some (n, r))
    (hbeat : ∃ op ∈ told (events.take n), TrackerOp.beat op ≠ none) : r = .ok () := by
  induction events generalizing t last n with
  | nil => cases h
  | cons e events ih =>
    cases e with
    | op op =>
      obtain ⟨⟨m, r'⟩, hm, heq⟩ := Option.map_eq_some_iff.1
        (show (Scan.stopAt (waitStep deadline) (t.apply op) events).map (Scan.later 1) = _ from h)
      obtain ⟨rfl, rfl⟩ := Prod.mk.inj heq
      obtain ⟨hth, -, hlh⟩ := keeps_apply (t := t) (hkeep op List.mem_cons_self)
      have hkeep' : ∀ o ∈ told events, Keeps o := fun o ho => hkeep o (List.mem_cons_of_mem op ho)
      have hgap' : gap < (t.apply op).aliveThreshold := by
        rw [hth]
        exact hgap
      cases hb : TrackerOp.beat op with
      | some b =>
        have hb' : b = op.1 := eq_of_beat hb
        rw [hb, Option.some_or] at hlh
        exact ok_of_heard hpaced.2 hkeep' hgap' hlh (hb' ▸ hpaced.1) hm
      | none =>
        refine ih hpaced.2 hkeep' hgap' hm ?_
        obtain ⟨o, ho, hne⟩ := hbeat
        obtain rfl | ho := List.mem_cons.1 (show o ∈ op :: told (events.take m) from ho)
        · exact absurd hb hne
        · exact ⟨o, ho, hne⟩
    | poll p =>
      obtain ⟨o, ho, hne⟩ := hbeat
      by_cases halive : (t.getHealth p.health).isAlive = true
      · unfold Scan.stopAt at h
        rw [show waitStep deadline t (.poll p) = .stop (.ok ()) from if_pos halive] at h
        exact (Prod.mk.inj (Option.some.inj h)).2.symm
      by_cases hlate : deadline ≤ p.test
      · unfold Scan.stopAt at h
        rw [show waitStep deadline t (.poll p) = .stop _ from
          (if_neg halive).trans (if_pos hlate)] at h
        obtain ⟨rfl, -⟩ := Prod.mk.inj (Option.some.inj h)
        cases ho
      · unfold Scan.stopAt at h
        rw [show waitStep deadline t (.poll p) = .next t from
          (if_neg halive).trans (if_neg hlate)] at h
        obtain ⟨⟨m, r'⟩, hm, heq⟩ := Option.map_eq_some_iff.1 h
        obtain ⟨rfl, rfl⟩ := Prod.mk.inj heq
        exact ih hpaced.2 hkeep hgap hm ⟨o, ho, hne⟩

/-- **Waiting.** A wait that keeps polling, a second apart and less than the threshold apart,
returns; it succeeds when the daemon is heard of meanwhile, and it fails only past its deadline,
with the grace period over and the last beat, from before the call, older than the threshold. -/
theorem waitForAlive_spec (hslept : Slept called events) (hpaced : Paced gap called events)
    (hkeep : ∀ op ∈ told events, Keeps op) (hgap : gap < t.aliveThreshold)
    (hpolls : waitTimeout timeout ≤ ((polls events).length - 1) * POLL_INTERVAL) :
    ∃ n r, waitForAlive t timeout called events = some (n, r) ∧
      ((∃ op ∈ told (events.take n), TrackerOp.beat op ≠ none) → r = .ok ()) ∧
      ∀ err, r = .error err → ∃ p, events[n]? = some (.poll p) ∧
        called + waitTimeout timeout ≤ p.test ∧ GRACE ≤ p.health - t.startTime ∧
          t.aliveThreshold ≤ p.health - t.getLastHeartbeat ∧
            err.lastHeartbeat = some t.getLastHeartbeat := by
  have hne : polls events ≠ [] := by
    intro hnil
    rw [hnil, List.length_nil, Nat.zero_sub, Nat.zero_mul] at hpolls
    unfold waitTimeout at hpolls
    split_ifs at hpolls
    · cases hpolls
    · exact absurd (Nat.le_zero.1 hpolls) (by assumption)
  obtain ⟨⟨n, r⟩, h⟩ := Option.isSome_iff_exists.1
    (returns_of_slept (t := t) hslept hne (Nat.add_le_add_left hpolls called))
  refine ⟨n, r, h, ok_of_beat hpaced hkeep hgap h, fun err hr => ?_⟩
  obtain ⟨p, hp, ⟨-, hok⟩ | ⟨halive, hlate, herr⟩⟩ := decided h
  · cases hok.symm.trans hr
  have hsub : ∀ op ∈ told (events.take n), Keeps op := fun op hop =>
    hkeep op (((List.take_sublist n events).filterMap _).subset hop)
  have hnone : ∀ op ∈ told (events.take n), TrackerOp.beat op = none := by
    by_contra hsome
    push Not at hsome
    cases (ok_of_beat hpaced hkeep hgap h hsome).symm.trans hr
  obtain ⟨hth, hst, hlast⟩ := keeps_foldl (t := t) hsub
  unfold HeartbeatTracker.getHealth HeartbeatTracker.getLastHeartbeat at halive
  rw [hlast hnone, hst, hth, Bool.or_eq_false_iff, decide_eq_false_iff_not,
    decide_eq_false_iff_not, not_lt, not_lt] at halive
  refine ⟨p, hp, hlate, halive.2, halive.1, ?_⟩
  obtain rfl := Except.error.inj (hr.symm.trans herr)
  unfold HeartbeatTracker.getLastHeartbeat
  rw [hlast hnone, hst]

/-- A pong comes half a second into the wait. -/
def pongEvents : List WaitEvent :=
  [.poll ⟨60 * 10 ^ 9, 60 * 10 ^ 9⟩, .op (605 * 10 ^ 8, .notePong),
    .poll ⟨61 * 10 ^ 9, 61 * 10 ^ 9⟩, .poll ⟨62 * 10 ^ 9, 62 * 10 ^ 9⟩]

theorem waitForAlive_spec_pong :
    ∃ n r, waitForAlive (.new 0) (2 * 10 ^ 9) (60 * 10 ^ 9) pongEvents = some (n, r) ∧
      ((∃ op ∈ told (pongEvents.take n), TrackerOp.beat op ≠ none) → r = .ok ()) := by
  obtain ⟨n, r, h, hok, -⟩ := @waitForAlive_spec (.new 0) (2 * 10 ^ 9) (60 * 10 ^ 9)
    (10 ^ 9) pongEvents
    (by simp [pongEvents, Slept, POLL_INTERVAL]) (by simp [pongEvents, Paced])
    (by simp [pongEvents, told, Keeps, TrackerOp.isReset, TrackerOp.threshold])
    (by decide) (by decide)
  exact ⟨n, r, h, hok⟩

end SootheClient.Heartbeat
