import SootheClient.Heartbeat.Tracker

/-!
# Heartbeat tracking by a client

A client feeds the frames that its reader routes to the tracker that was enabled last. The
application keeps the trackers it was given, so one that was replaced or disabled is still there,
but no frame reaches it any more.
-/

namespace SootheClient.Heartbeat

open SootheClient.Frame

/-- The trackers that a client created, and the one it feeds. -/
structure Tracking where
  trackers : List HeartbeatTracker := []
  current : Option ℕ := none

inductive Act where
  /-- The reader routes a frame. -/
  | route (msg : Json)
  | enable (threshold : ℕ)
  | disable
  /-- The application works on the tracker `i`. -/
  | tracker (i : ℕ) (op : TrackerOp)

/-- What `route_inbound` does with the tracker on a frame. -/
def routeOp (msg : Json) : Option TrackerOp :=
  if msg.getStr "type" = some "pong" then some .notePong
  else if feedsHeartbeat msg then some (.update (msg.get "data"))
  else none

/-- The act sets which tracker is fed. -/
def Act.switches : Act → Bool
  | .enable _ | .disable => true
  | _ => false

namespace Tracking

variable (w : Tracking)

/-- The tracker `i` is worked on. -/
def give (i : ℕ) (op : ℕ × TrackerOp) : Tracking :=
  { w with trackers := w.trackers.modify i (·.apply op) }

def step : ℕ × Act → Tracking
  | (now, .route msg) =>
    match w.current, routeOp msg with
    | some i, some op => w.give i (now, op)
    | _, _ => w
  | (now, .enable threshold) =>
    { trackers := w.trackers ++ [.withThreshold threshold now]
      current := some w.trackers.length }
  | (_, .disable) => { w with current := none }
  | (now, .tracker i op) => w.give i (now, op)

/-- The tracker that is fed. -/
def heartbeatTracker : Option HeartbeatTracker := w.current.bind fun i => w.trackers[i]?

/-- Whether the daemon counts as alive: always, when nothing is tracked. -/
def isDaemonAlive (now : ℕ) : Bool :=
  match w.heartbeatTracker with
  | some t => (t.getHealth now).isAlive
  | none => true

/-- The tracking after a log of acts. -/
def run (log : List (ℕ × Act)) : Tracking := log.foldl step {}

end Tracking

/-! ## What a tracker is told -/

/-- The daemon is heard of in a `pong`, and in a frame whose namespace has `heartbeat` in it, or
whose type has when there is no namespace; its `data` says the state. A `ping` tells nothing. -/
def heard (msg : Json) : Option TrackerOp :=
  match msg.get "type", msg.get "namespace" with
  | some (.str "pong"), _ => some .notePong
  | some (.str "ping"), _ => none
  | _, some (.str ns) =>
    if "heartbeat".toList <:+: ns.toList then some (.update (msg.get "data")) else none
  | some (.str ty), none =>
    if "heartbeat".toList <:+: ty.toList then some (.update (msg.get "data")) else none
  | _, _ => none

/-- What the act gives to the tracker `i`, while it is the one that is fed. -/
def Act.toFed (i : ℕ) : Act → Option TrackerOp
  | .route msg => heard msg
  | .tracker j op => if j = i then some op else none
  | _ => none

/-- What the act gives to the tracker `i`, while another one is fed. -/
def Act.toUnfed (i : ℕ) : Act → Option TrackerOp
  | .tracker j op => if j = i then some op else none
  | _ => none

/-- What a log gives to a tracker, with the instants. -/
def given (op : Act → Option TrackerOp) (log : List (ℕ × Act)) : List (ℕ × TrackerOp) :=
  log.filterMap fun e => (op e.2).map (e.1, ·)

variable {w : Tracking} {i j created threshold clock : ℕ} {e : ℕ × Act} {op : ℕ × TrackerOp}
  {before after log : List (ℕ × Act)}

theorem routeOp_of_routed {msg : Json} (hpong : msg.get "type" ≠ some (.str "pong"))
    (hping : msg.get "type" ≠ some (.str "ping")) : routeOp msg =
      if "heartbeat".toList <:+:
        ((((msg.get "namespace").or (msg.get "type")).bind Json.asStr?).getD "").toList then
        some (.update (msg.get "data")) else none := by
  unfold routeOp
  rw [if_neg fun h => hpong (Json.getStr_eq_some.1 h), feedsHeartbeat_of_routed
    (fun h => hping (Json.getStr_eq_some.1 h)) fun h => hpong (Json.getStr_eq_some.1 h)]
  simp only [Text.contains_iff]

/-- **Heard.** The router tells the tracker what is heard. -/
theorem routeOp_eq (msg : Json) : routeOp msg = heard msg := by
  symm
  unfold heard
  split
  case h_1 htype => exact (if_pos (Json.getStr_eq_some.2 htype)).symm
  case h_2 htype =>
    have hping : msg.getStr "type" = some "ping" := Json.getStr_eq_some.2 htype
    unfold routeOp feedsHeartbeat
    rw [hping, if_pos rfl]
    rfl
  case h_3 ns hns hpong hping =>
    rw [routeOp_of_routed hpong hping, hns]
    rfl
  case h_4 ty hpong hping htype hns =>
    rw [routeOp_of_routed (by simpa [htype] using hpong) (by simpa [htype] using hping), hns, htype]
    rfl
  case h_5 hpong hping hns htype =>
    have hnone : ((msg.get "namespace").or (msg.get "type")).bind Json.asStr? = none := by
      refine Option.eq_none_iff_forall_ne_some.2 fun text htext => ?_
      obtain ⟨v, hv, hstr⟩ := Option.bind_eq_some_iff.1 htext
      obtain rfl := Json.asStr?_eq_some.1 hstr
      obtain hv | ⟨hv, hty⟩ := Option.or_eq_some_iff.1 hv
      · exact hns text hv
      · exact htype text hty hv
    rw [routeOp_of_routed hpong hping, hnone, if_neg (by decide)]

/-! ## One act -/

theorem Tracking.getElem?_give : (w.give i op).trackers[j]? =
    if i = j then w.trackers[j]?.map (·.apply op) else w.trackers[j]? := by
  unfold Tracking.give
  rw [List.getElem?_modify]
  split_ifs with h <;> simp

theorem Tracking.current_step (h : e.2.switches = false) : (w.step e).current = w.current := by
  obtain ⟨now, msg | threshold | _ | ⟨i, op⟩⟩ := e
  · unfold Tracking.step
    simp only
    split <;> rfl
  · cases h
  · cases h
  · rfl

/-- An act that switches nothing reaches the tracker that is fed as a frame or by its handle. -/
theorem Tracking.getElem?_step_fed (h : e.2.switches = false) (hi : w.current = some i) :
    (w.step e).trackers[i]? =
      w.trackers[i]?.map fun t => ((e.2.toFed i).map (e.1, ·)).elim t t.apply := by
  obtain ⟨now, msg | threshold | _ | ⟨j, op⟩⟩ := e
  · unfold Tracking.step Act.toFed
    simp only [← routeOp_eq msg]
    cases hop : routeOp msg with
    | none => simp [hi]
    | some op =>
      simp only [hi, Tracking.getElem?_give, if_true, Option.map_some, Option.elim_some]
  · cases h
  · cases h
  · unfold Tracking.step Act.toFed
    simp only [Tracking.getElem?_give]
    by_cases hj : j = i
    · simp only [hj, if_true, Option.map_some, Option.elim_some]
    · simp [hj]

/-- It reaches another tracker by its handle only. -/
theorem Tracking.getElem?_step_unfed (h : e.2.switches = false) (hi : w.current ≠ some i) :
    (w.step e).trackers[i]? =
      w.trackers[i]?.map fun t => ((e.2.toUnfed i).map (e.1, ·)).elim t t.apply := by
  obtain ⟨now, msg | threshold | _ | ⟨j, op⟩⟩ := e
  · unfold Tracking.step Act.toUnfed
    simp only [Option.map_none, Option.elim_none, Option.map_id']
    split
    · rename_i k op hk hop
      rw [Tracking.getElem?_give, if_neg]
      rintro rfl
      exact hi hk
    · rfl
  · cases h
  · cases h
  · unfold Tracking.step Act.toUnfed
    simp only [Tracking.getElem?_give]
    by_cases hj : j = i
    · simp only [hj, if_true, Option.map_some, Option.elim_some]
    · simp [hj]

/-! ## Acts that switch nothing -/

/-- **Fed.** While it stays the one that is fed, a tracker takes in the frames and what its handle
is given. -/
theorem Tracking.getElem?_fed (hafter : ∀ e ∈ after, e.2.switches = false)
    (hi : w.current = some i) : (after.foldl Tracking.step w).current = some i ∧
      (after.foldl Tracking.step w).trackers[i]? =
        w.trackers[i]?.map fun t => (given (Act.toFed i) after).foldl HeartbeatTracker.apply t := by
  induction after generalizing w with
  | nil => exact ⟨hi, by simp [given]⟩
  | cons e after ih =>
    have he := hafter e List.mem_cons_self
    have hstep := getElem?_step_fed he hi
    obtain ⟨hcur, htr⟩ := ih (fun a ha => hafter a (List.mem_cons_of_mem e ha))
      ((current_step he).trans hi)
    refine ⟨hcur, ?_⟩
    rw [List.foldl_cons, htr, hstep, Option.map_map]
    unfold given
    cases hop : e.2.toFed i <;> simp [hop, Function.comp_def]

/-- **Unfed.** While another one is fed, a tracker takes in what its handle is given. -/
theorem Tracking.getElem?_unfed (hafter : ∀ e ∈ after, e.2.switches = false)
    (hi : w.current ≠ some i) : (after.foldl Tracking.step w).trackers[i]? =
      w.trackers[i]?.map fun t => (given (Act.toUnfed i) after).foldl HeartbeatTracker.apply t := by
  induction after generalizing w with
  | nil => simp [given]
  | cons e after ih =>
    have he := hafter e List.mem_cons_self
    have hstep := getElem?_step_unfed he hi
    have htr := ih (fun a ha => hafter a (List.mem_cons_of_mem e ha))
      (by rw [current_step he]; exact hi)
    rw [List.foldl_cons, htr, hstep, Option.map_map]
    unfold given
    cases hop : e.2.toUnfed i <;> simp [hop, Function.comp_def]

/-- **What a client knows of its daemon.** After any log whose last switch enabled tracking, the
frames routed since and the work on the tracker decide whether the daemon counts as alive, which
state it reported and on which loop; a tracker that was replaced hears of no frame. -/
theorem tracked (hclock : Clocked created after clock)
    (hafter : ∀ e ∈ after, e.2.switches = false) :
    let w := Tracking.run before
    let w' := Tracking.run (before ++ (created, .enable threshold) :: after)
    let ops := given (Act.toFed w.trackers.length) after
    (w'.isDaemonAlive clock = true ↔ AliveAt created threshold ops clock) ∧
      w'.heartbeatTracker.map HeartbeatTracker.getState = some (lastSaid "state" ops) ∧
      w'.heartbeatTracker.map HeartbeatTracker.getLoopId = some (lastSaid "loop_id" ops) ∧
      ∀ j < w.trackers.length, w'.trackers[j]? = w.trackers[j]?.map fun t =>
        (given (Act.toUnfed j) after).foldl HeartbeatTracker.apply t := by
  intro w w' ops
  let w₁ : Tracking := w.step (created, .enable threshold)
  have hrun : w' = after.foldl Tracking.step w₁ := by
    show (before ++ (created, .enable threshold) :: after).foldl Tracking.step {} = _
    rw [List.foldl_append, List.foldl_cons]
    rfl
  have hlast : w₁.trackers[w.trackers.length]? = some (.withThreshold threshold created) :=
    List.getElem?_concat_length
  obtain ⟨hcur, htr⟩ := Tracking.getElem?_fed hafter (w := w₁) rfl
  rw [hlast] at htr
  have htracker : w'.heartbeatTracker = some (trackerAfter created threshold ops) := by
    unfold Tracking.heartbeatTracker
    rw [hrun, hcur]
    exact htr
  have hops : Clocked created ops clock := by
    refine hclock.sublist (List.Sublist.append (List.Sublist.cons_cons _ ?_) (List.Sublist.refl _))
    have hfst : ∀ l : List (ℕ × Act),
        ((given (Act.toFed w.trackers.length) l).map Prod.fst).Sublist (l.map Prod.fst) := by
      intro l
      induction l with
      | nil => exact .slnil
      | cons e l ih =>
        unfold given at ih ⊢
        cases hop : e.2.toFed w.trackers.length with
        | none => simpa [hop] using ih.cons e.1
        | some op => simpa [hop] using ih.cons_cons e.1
    exact hfst after
  refine ⟨?_, ?_, ?_, fun j hj => ?_⟩
  · unfold Tracking.isDaemonAlive
    rw [htracker]
    exact isAlive_trackerAfter hops
  · rw [htracker, Option.map_some, getState_trackerAfter]
  · rw [htracker, Option.map_some, getLoopId_trackerAfter]
  · have hne : w₁.current ≠ some j := fun h => hj.ne' (Option.some.inj h)
    rw [hrun, Tracking.getElem?_unfed hafter hne]
    congr 1
    exact List.getElem?_append_left hj

/-- The tracker is enabled at 1 s, the daemon says that it runs at 30 s, and at 44 s the client
counts it as alive. -/
theorem tracked_running :
    let after : List (ℕ × Act) := [(30 * 10 ^ 9, .route (.obj
      [("namespace", .str "daemon.heartbeat"), ("data", .obj [("state", .str "running")])]))]
    let w := Tracking.run ((10 ^ 9, .enable DEFAULT_ALIVE_THRESHOLD) :: after)
    w.isDaemonAlive (44 * 10 ^ 9) = true ∧
      w.heartbeatTracker.map HeartbeatTracker.getState = some "running" := by
  intro after w
  have h := @tracked (10 ^ 9) DEFAULT_ALIVE_THRESHOLD (44 * 10 ^ 9) [] after
    (by unfold Clocked; decide) (by decide)
  refine ⟨h.1.2 (Or.inl ⟨30 * 10 ^ 9, ?_, ?_⟩), h.2.1.trans ?_⟩
  · decide
  · decide
  · decide

end SootheClient.Heartbeat
