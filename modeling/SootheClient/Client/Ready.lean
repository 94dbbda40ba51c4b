import SootheClient.Client.Connect
import SootheClient.Client.Scripts
import SootheClient.Lib.Duration

/-!
# Waiting for readiness

`wait_for_daemon_ready` asks whether the handshake is complete, and then for the state that its
`connection_ack` brought; otherwise it reads frames until an acknowledgement comes. Calls that
connect or close, readers and other readers of events work between its steps.
-/

namespace SootheClient.Client

open SootheClient.Frame

/-! ## The states that are stored -/

/-- No state, or the one that a handshake accepts. -/
def Accepted (state : String) : Prop := state = "" ∨ state = "ready"

/-- The update stores no state but an accepted one. -/
def Update.Accepts : Update → Prop
  | .setReadinessState state => Accepted state
  | _ => True

/-- The state that is stored and those that calls are still to store. -/
structure Readies (w : Tasks) : Prop where
  stored : Accepted w.shared.readinessState
  pending : Pends (fun _ l => ∀ u ∈ l, u.Accepts) w

variable {w w' : Tasks} {i e : ℕ} {a : Label} {u : Update} {s : Shared} {event : Event}
  {state : String} {msg : Json}

theorem accepts_markDisconnected {cause : DisconnectCause} (h : u ∈ markDisconnected cause) :
    u.Accepts := by
  simp only [markDisconnected, List.mem_cons, List.not_mem_nil, or_false] at h
  obtain rfl | rfl | rfl | rfl | rfl := h
  all_goals trivial

/-- The state of an acknowledgement that a handshake accepts. -/
theorem accepted_of_verdict (h : handshakeVerdict msg = .accept state) : Accepted state := by
  unfold handshakeVerdict at h
  simp only at h
  split_ifs at h with _ _ _ _ _ hready
  cases h
  exact hready.symm

theorem accepts_acceptUpdates (hs : Accepted state) (h : u ∈ acceptUpdates state msg) :
    u.Accepts := by
  obtain h | h := List.mem_append.1 h
  · simp only [List.mem_cons, List.not_mem_nil, or_false] at h
    obtain rfl | rfl := h
    · show Accepted (if state = "" then "ready" else state)
      split_ifs
      · exact Or.inr rfl
      · exact hs
    · trivial
  · obtain ⟨ms, -, rfl⟩ := Option.map_eq_some_iff.1 (Option.mem_toList.1 h)
    trivial

theorem accepted_update (hs : Accepted s.readinessState) (hu : u.Accepts) :
    Accepted (s.update u).readinessState := by
  cases u with
  | setReadinessState state => exact hu
  | dropWriteTx | setConnected | setReaderAlive | setHandshakeComplete | clearCause | setCause
    | clearWaiters | failWaiters | clearInbound | clearDegraded | setHeartbeatInterval => exact hs

/-- **Scripts.** No call ever has another state to store. -/
theorem accepts_scripts : ScriptRule fun _ l => ∀ u ∈ l, u.Accepts where
  none _ _ hu := absurd hu List.not_mem_nil
  tail _ u _ h v hv := h v (List.mem_cons_of_mem u hv)
  close _ u hu := by
    obtain hu | hu := List.mem_append.1 hu
    · simp only [List.mem_cons, List.not_mem_nil, or_false] at hu
      obtain rfl | rfl | rfl := hu
      · trivial
      · trivial
      · exact Or.inl rfl
    · exact accepts_markDisconnected hu
  reconnect _ u hu := by
    simp only [reconnectUpdates, List.mem_cons, List.not_mem_nil, or_false] at hu
    obtain rfl | rfl | rfl | rfl | rfl | rfl | rfl | rfl | rfl := hu
    case inr.inr.inr.inr.inl => exact Or.inl rfl
    all_goals trivial
  publish _ u hu := by
    simp only [publishUpdates, List.mem_cons, List.not_mem_nil, or_false] at hu
    obtain rfl | rfl | rfl := hu
    all_goals trivial
  accept _ _ _ hv _ hu := accepts_acceptUpdates (accepted_of_verdict hv) hu
  grows _ _ _ h := h

namespace Readies

theorem init : Readies {} := ⟨Or.inl rfl, accepts_scripts.init⟩

/-- A call stores a state only if it had that before it. -/
theorem stored_callStep (h : Readies w) (hs : CallStep w i event w') :
    Accepted w'.shared.readinessState := by
  cases hs with
  | connected | dial | dialed | dialFailed | deadline | wake | retry | notify | close | notified
    | install => exact h.stored
  | update u rest k hp =>
    have hu : u.Accepts := by
      refine h.pending i u ?_
      rw [hp]
      exact List.mem_cons_self
    exact accepted_update h.stored hu
  | resume k => cases k <;> exact h.stored
  | sendInit e =>
    obtain ⟨sent, p, -, heq⟩ := sendInit_eq (w := w) (i := i) (e := e)
    rw [heq]
    exact h.stored
  | frame e ev q =>
    unfold Tasks.onFrame
    cases handshakeVerdict ev.2 <;> exact h.stored

theorem stored_readerStep (ho : Owned w) (h : Readies w) (hs : ReaderStep w e w') :
    Accepted w'.shared.readinessState := by
  cases hs with
  | turn | settle | route | ack | miss => exact h.stored
  | hand msg rest s hpc hs =>
    obtain ⟨-, -, -, rfl⟩ := takeWaiter_eq_some.1 hs
    exact h.stored
  | enqueue msg rest =>
    obtain ⟨q, b, heq, -⟩ := enqueue_eq w.shared (e, msg)
    show Accepted (w.shared.enqueuePendingLocked (e, msg)).readinessState
    rw [heq]
    exact h.stored
  | mark u rest hpc =>
    have hu : u ∈ markDisconnected .unclean := (ho.marks e _ hpc).subset List.mem_cons_self
    exact accepted_update h.stored (accepts_markDisconnected hu)

/-- **Step lemma.** -/
theorem step (ho : Owned w) (h : Readies w) (hs : Tasks.step w a = some w') : Readies w' := by
  refine ⟨?_, accepts_scripts.step h.pending hs⟩
  cases taskStep_inv hs with
  | call i op => cases op <;> exact h.stored
  | step i event hs => exact h.stored_callStep hs
  | receive e item hr hs =>
    cases hs with
    | stays | routes | ends => exact h.stored
  | reader e hs => exact h.stored_readerStep ho hs
  | writerDown | register | unregister | readEvent => exact h.stored

end Readies

/-! ## The call -/

/-- Where a `wait_for_daemon_ready` is. -/
inductive ReadyPc where
  /-- It asks whether the handshake is complete. -/
  | asking
  /-- It asks for the state. -/
  | stating
  | reading
  | returned (r : Except Error Json.Members)

inductive ReadyAct where
  | base (a : Label)
  /-- The call goes on; while it reads, it takes a frame off the queue. -/
  | go
  /-- No frame comes within 2 s, or the connection is not alive. -/
  | idle
  /-- The deadline has passed when the call asks for it. -/
  | expire

/-- A client with a call of `wait_for_daemon_ready`, the frames that the call took, and whether it
found the handshake complete. -/
structure Readying where
  tasks : Tasks
  timeout : ℕ
  pc : ReadyPc := .asking
  taken : List Json := []
  found : Bool := false

/-- The state that an acknowledgement brings. -/
def ackState (msg : Json) : String :=
  (((msg.get "result").bind (·.get "readiness_state")).bind Json.asStr?).getD ""

def daemonNotReady (state : String) : Error :=
  .protocol s!"daemon not ready: readiness_state={state}"

namespace Readying

variable (w : Readying)

/-- The timeout in force: 10 s when none is given. -/
def limit : ℕ := if w.timeout = 0 then 10 * 10 ^ 9 else w.timeout

/-- What the call does with a frame. -/
def onFrame (msg : Json) : ReadyPc :=
  if msg.getStrD "type" ≠ "connection_ack" then .reading
  else if ackState msg = "ready" then .returned (.ok (msg.asObject?.getD []))
  else .returned (.error (daemonNotReady (ackState msg)))

def goOn : Option Readying :=
  match w.pc with
  | .asking =>
    if w.tasks.shared.handshakeComplete then some { w with pc := .stating, found := true }
    else some { w with pc := .reading }
  | .stating =>
    let state := w.tasks.shared.readinessState
    some { w with
      pc := .returned <|
        if state = "" ∨ state = "ready" then .ok [("readiness_state", .str "ready")]
        else .error (daemonNotReady state) }
  | .reading =>
    match w.tasks.shared.inbound with
    | [] => none
    | (_, msg) :: q =>
      some { w with
        tasks := { w.tasks with shared := { w.tasks.shared with inbound := q } }
        pc := onFrame msg
        taken := w.taken ++ [msg] }
  | .returned _ => none

def step : ReadyAct → Option Readying
  | .base a => (w.tasks.step a).map fun t => { w with tasks := t }
  | .go => w.goOn
  | .idle =>
    match w.pc with
    | .reading => some w
    | _ => none
  | .expire =>
    match w.pc with
    | .reading =>
      some { w with
        pc := .returned (.error (.timeout "connection_ack" (Duration.debug w.limit))) }
    | _ => none

end Readying

/-! ## What the call does -/

variable {v v' : Readying} {act : ReadyAct} {acts : List ReadyAct} {before : List Label}

/-- The call took frames that are no acknowledgements. -/
def Skips (l : List Json) : Prop := ∀ msg ∈ l, msg.getStrD "type" ≠ "connection_ack"

/-- The result of a call that read, by the frames that it took. -/
def ReadResult (v : Readying) (r : Except Error Json.Members) : Prop :=
  (∃ skipped ack, v.taken = skipped ++ [ack] ∧ Skips skipped ∧
    ack.getStrD "type" = "connection_ack" ∧
      r = if ackState ack = "ready" then .ok (ack.asObject?.getD [])
        else .error (daemonNotReady (ackState ack))) ∨
  Skips v.taken ∧ r = .error (.timeout "connection_ack" (Duration.debug v.limit))

/-- How far the call is. -/
def Proceeds (v : Readying) : Prop :=
  match v.pc with
  | .asking => v.found = false ∧ v.taken = []
  | .stating => v.found = true ∧ v.taken = []
  | .reading => v.found = false ∧ Skips v.taken
  | .returned r =>
    if v.found then v.taken = [] ∧ r = .ok [("readiness_state", .str "ready")] else ReadResult v r

theorem proceeds_onFrame {q : List (ℕ × Json)} (hf : v.found = false) (hsk : Skips v.taken) :
    Proceeds { v with
      tasks := { v.tasks with shared := { v.tasks.shared with inbound := q } }
      pc := Readying.onFrame msg
      taken := v.taken ++ [msg] } := by
  unfold Proceeds Readying.onFrame
  by_cases hack : msg.getStrD "type" = "connection_ack"
  · rw [if_neg (not_not.2 hack)]
    have hr : ReadResult { v with taken := v.taken ++ [msg] }
        (if ackState msg = "ready" then .ok (msg.asObject?.getD [])
          else .error (daemonNotReady (ackState msg))) :=
      Or.inl ⟨v.taken, msg, rfl, hsk, hack, rfl⟩
    by_cases hready : ackState msg = "ready"
    · rw [if_pos hready] at hr ⊢
      simp only [hf, Bool.false_eq_true, if_false]
      exact hr
    · rw [if_neg hready] at hr ⊢
      simp only [hf, Bool.false_eq_true, if_false]
      exact hr
  · rw [if_pos hack]
    refine ⟨hf, fun m hm => ?_⟩
    obtain hm | hm := List.mem_append.1 hm
    · exact hsk m hm
    · exact List.mem_singleton.1 hm ▸ hack

theorem proceeds_step (hr : Readies v.tasks) (h : Proceeds v) (hs : v.step act = some v') :
    Proceeds v' := by
  cases act with
  | base a =>
    obtain ⟨t, -, rfl⟩ := Option.map_eq_some_iff.1 hs
    exact h
  | go =>
    unfold Proceeds at h
    simp only [Readying.step, Readying.goOn] at hs
    split at hs
    · rename_i hpc
      rw [hpc] at h
      split_ifs at hs with hcomp
      · obtain rfl := Option.some.inj hs
        exact ⟨rfl, h.2⟩
      · obtain rfl := Option.some.inj hs
        exact ⟨h.1, h.2 ▸ fun _ hm => absurd hm List.not_mem_nil⟩
    · rename_i hpc
      rw [hpc] at h
      obtain rfl := Option.some.inj hs
      have haccepted : Accepted v.tasks.shared.readinessState := hr.stored
      unfold Accepted at haccepted
      simp only [Proceeds, if_pos haccepted, if_pos h.1]
      exact ⟨h.2, trivial⟩
    · rename_i hpc
      rw [hpc] at h
      split at hs
      · cases hs
      · obtain rfl := Option.some.inj hs
        exact proceeds_onFrame h.1 h.2
    · cases hs
  | idle =>
    simp only [Readying.step] at hs
    split at hs
    · obtain rfl := Option.some.inj hs
      exact h
    · cases hs
  | expire =>
    unfold Proceeds at h
    simp only [Readying.step] at hs
    split at hs
    · rename_i hpc
      rw [hpc] at h
      obtain rfl := Option.some.inj hs
      simp only [Proceeds, h.1, Bool.false_eq_true, if_false]
      exact Or.inr ⟨h.2, rfl⟩
    · cases hs

/-- The client of a call makes the steps of a client; frames that the call takes are read. -/
theorem readies_step (ho : Owned v.tasks) (hr : Readies v.tasks) (hs : v.step act = some v') :
    Owned v'.tasks ∧ Readies v'.tasks := by
  cases act with
  | base a =>
    obtain ⟨t, ht, rfl⟩ := Option.map_eq_some_iff.1 hs
    exact ⟨ho.step ht, hr.step ho ht⟩
  | go =>
    simp only [Readying.step, Readying.goOn] at hs
    split at hs
    · split_ifs at hs
      · obtain rfl := Option.some.inj hs
        exact ⟨ho, hr⟩
      · obtain rfl := Option.some.inj hs
        exact ⟨ho, hr⟩
    · obtain rfl := Option.some.inj hs
      exact ⟨ho, hr⟩
    · split at hs
      · cases hs
      · rename_i q hq
        obtain rfl := Option.some.inj hs
        have hread : Tasks.step v.tasks .readEvent = some
            { v.tasks with shared := { v.tasks.shared with inbound := q } } := by
          unfold Tasks.step
          simp only [hq]
        exact ⟨ho.step hread, hr.step ho hread⟩
    · cases hs
  | idle =>
    simp only [Readying.step] at hs
    split at hs
    · obtain rfl := Option.some.inj hs
      exact ⟨ho, hr⟩
    · cases hs
  | expire =>
    simp only [Readying.step] at hs
    split at hs
    · obtain rfl := Option.some.inj hs
      exact ⟨ho, hr⟩
    · cases hs

/-- **Readiness.** A call that finds the handshake complete takes no frame and returns that the
daemon is ready, whatever the other tasks do: the error of that path never comes. Another call takes
frames up to the first acknowledgement, which decides its result; it succeeds only on the state
`ready`. -/
theorem waitForDaemonReady_spec {t : Tasks} {timeout : ℕ} {r : Except Error Json.Members}
    (ht : Lts.exec Tasks.step {} before = some t)
    (hv : Lts.exec Readying.step { tasks := t, timeout := timeout } acts = some v)
    (hpc : v.pc = .returned r) :
    if v.found then v.taken = [] ∧ r = .ok [("readiness_state", .str "ready")]
    else ReadResult v r := by
  have hstart : Owned t ∧ Readies t :=
    Lts.inv_of_exec (I := fun w => Owned w ∧ Readies w)
      (fun _ _ _ h hs => ⟨h.1.step hs, h.2.step h.1 hs⟩) ⟨owned_init, .init⟩ ht
  have hbegin : Proceeds { tasks := t, timeout := timeout } := ⟨rfl, rfl⟩
  have hinv : (Owned v.tasks ∧ Readies v.tasks) ∧ Proceeds v :=
    Lts.inv_of_exec (I := fun v : Readying => (Owned v.tasks ∧ Readies v.tasks) ∧ Proceeds v)
      (fun _ _ _ h hs => ⟨readies_step h.1.1 h.1.2 hs, proceeds_step h.1.2 h.2 hs⟩)
      ⟨hstart, hbegin⟩ hv
  have hp := hinv.2
  unfold Proceeds at hp
  rw [hpc] at hp
  exact hp

/-- A client that no handshake completed reads the acknowledgement itself. -/
def readsAck : List ReadyAct :=
  .go :: (delivers 0 (connectionAck "warming")).map .base ++ [.idle, .go]

theorem waitForDaemonReady_spec_warming :
    ∃ v, Lts.exec Readying.step
      { tasks := ((Lts.exec Tasks.step {} dials).getD {}), timeout := 0 } readsAck = some v ∧
      ReadResult v (.error (daemonNotReady "warming")) := by
  have hrun : (Lts.exec Readying.step
      { tasks := ((Lts.exec Tasks.step {} dials).getD {}), timeout := 0 } readsAck).map
        (fun v => (v.pc, v.found)) =
      some (.returned (.error (daemonNotReady "warming")), false) := rfl
  obtain ⟨v, hv, hpc⟩ := Option.map_eq_some_iff.1 hrun
  obtain ⟨hpc, hf⟩ := Prod.mk.inj hpc
  refine ⟨v, hv, ?_⟩
  have ht : Lts.exec Tasks.step {} dials = some ((Lts.exec Tasks.step {} dials).getD {}) := rfl
  have hspec := waitForDaemonReady_spec ht hv hpc
  rw [hf] at hspec
  exact hspec

end SootheClient.Client
