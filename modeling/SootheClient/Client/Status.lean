import SootheClient.Client.Epochs

/-!
# The status fields of a client

`write_tx`, `connected`, `handshake_complete` and `disconnect_cause` are written one by one, by the
calls and by the reader tasks. What a task is still to write counts here with the fields: a
`handshake_complete` that a `close` is about to reset is no disagreement yet.
-/

namespace SootheClient.Client

open Tasks

/-! ## The fields -/

namespace Shared

variable (s : Shared)

/-- The fields that tell the status of a client. -/
def status : Option ℕ × Bool × Bool × Option DisconnectCause :=
  (s.writeTx, s.connected, s.handshakeComplete, s.disconnectCause)

/-- `wait_disconnected`: what it returns without a wait. -/
def waitDisconnected : Option DisconnectCause := s.disconnectCause

/-- `wait_for_daemon_ready`: what it returns without reading a frame. -/
def waitForDaemonReady : Option (Except Error Unit) :=
  if s.handshakeComplete then
    if s.readinessState = "" ∨ s.readinessState = "ready" then some (.ok ())
    else some (.error (.protocol s!"daemon not ready: readiness_state={s.readinessState}"))
  else none

end Shared

/-- The fields agree. -/
structure StatusAgrees (w : Tasks) : Prop where
  complete : w.shared.handshakeComplete = true →
    w.shared.connected = true ∧ w.shared.writeTx.isSome = true
  dropped : 0 < w.installed → w.shared.connected = false → w.shared.waitDisconnected.isSome = true
  ready : w.shared.connected = false → w.shared.waitForDaemonReady ≠ some (.ok ())

/-- No call is in progress, and no reader is within `mark_disconnected`. -/
structure Settled (w : Tasks) : Prop where
  calls : ∀ i, w.free i = true
  readers : ∀ e u rest, w.reader e ≠ .marking (u :: rest)

/-! ## What is still to be written -/

/-- The updates that a call has before it. -/
def Pc.pending : Pc → List Update
  | .closing | .notifying => closeUpdates
  | .updating rest _ => rest
  | _ => []

namespace Call

variable (c : Call)

/-- A `connect_with_retries` that has an attempt left. -/
def again : Prop := ∃ attempt max, c.retries = some (attempt, max) ∧ attempt < max

/-- The call may still store a sender. -/
def redials : Prop :=
  match c.pc with
  | .checking | .dialing | .installing | .sleeping | .updating _ .connect => True
  | .returned (.error _) => c.again
  | _ => False

/-- The call may still set `connected`. -/
def raises : Prop := c.redials ∨ .setConnected true ∈ c.pc.pending

/-- The call is still to reset `handshake_complete`. -/
def resets : Prop := .setHandshakeComplete false ∈ c.pc.pending

/-- The call is still to set a cause. -/
def causes : Prop := ∃ cause, .setCause cause ∈ c.pc.pending

end Call

/-- The reader is still to set the cause. -/
def ReaderPc.causes : ReaderPc → Prop
  | .marking rest => ∃ cause, .setCause cause ∈ rest
  | _ => False

namespace Tasks

variable (w : Tasks)

def Redialing : Prop := ∃ i, (w.call i).redials

def Raising : Prop := ∃ i, (w.call i).raises

def Resetting : Prop := ∃ i, (w.call i).resets

def Causing : Prop := (∃ i, (w.call i).causes) ∨ ∃ e, (w.reader e).causes

/-- Another call than `i` is where `P` says. -/
def Others (i : ℕ) (P : Call → Prop) : Prop := ∃ j, j ≠ i ∧ P (w.call j)

/-- The client without the call `i`. -/
def without (i : ℕ) : Tasks := w.setCall i {}

end Tasks

/-- The fields agree, up to what is still to be written. -/
structure Pledged (w : Tasks) : Prop where
  sender : w.shared.handshakeComplete = true →
    w.shared.writeTx.isSome = true ∨ w.Resetting ∨ w.Redialing
  up : w.shared.handshakeComplete = true → w.shared.connected = true ∨ w.Resetting ∨ w.Raising
  cause : 0 < w.installed → w.shared.connected = true ∨ w.shared.disconnectCause.isSome = true ∨
    w.Raising ∨ w.Causing

variable {w w' : Tasks} {i e : ℕ} {a : Label} {c c' : Call} {u : Update} {rest : List Update}
  {k : Cont} {event : Event} {run : List Label}

/-! ## Clients without a call in progress -/

theorem not_redials_of_free (h : w.free i = true) : ¬ (w.call i).redials := by
  unfold free at h
  unfold Call.redials
  cases hp : (w.call i).pc with
  | idle => exact id
  | returned r =>
    cases r with
    | ok _ => exact id
    | error err =>
      rintro ⟨attempt, max, hr, hlt⟩
      rw [hp] at h
      unfold Tasks.retry at h
      simp only [hr, hp] at h
      rw [if_pos hlt] at h
      cases h
  | checking | dialing | installing | updating | sendingInit | awaiting | sleeping | closing
    | notifying =>
    rw [hp] at h
    cases h

theorem pending_of_free (h : w.free i = true) : (w.call i).pc.pending = [] := by
  unfold free at h
  cases hp : (w.call i).pc with
  | idle | returned => rfl
  | checking | dialing | installing | updating | sendingInit | awaiting | sleeping | closing
    | notifying =>
    rw [hp] at h
    cases h

namespace Settled

variable (h : Settled w)
include h

theorem not_redialing : ¬ w.Redialing := fun ⟨i, hi⟩ => not_redials_of_free (h.calls i) hi

theorem not_resetting : ¬ w.Resetting := by
  rintro ⟨i, hi⟩
  unfold Call.resets at hi
  rw [pending_of_free (h.calls i)] at hi
  exact List.not_mem_nil hi

theorem not_raising : ¬ w.Raising := by
  rintro ⟨i, hi | hi⟩
  · exact h.not_redialing ⟨i, hi⟩
  · rw [pending_of_free (h.calls i)] at hi
    exact List.not_mem_nil hi

theorem not_causing : ¬ w.Causing := by
  rintro (⟨i, cause, hi⟩ | ⟨e, he⟩)
  · rw [pending_of_free (h.calls i)] at hi
    exact List.not_mem_nil hi
  · unfold ReaderPc.causes at he
    cases hr : w.reader e with
    | marking rest =>
      rw [hr] at he
      obtain ⟨cause, hmem⟩ := he
      cases rest with
      | nil => exact List.not_mem_nil hmem
      | cons u rest => exact h.readers e u rest hr
    | unspawned | reading | routing | acking | dispatching | enqueueing =>
      rw [hr] at he
      exact he

/-- Where nothing is left to write, the fields agree just if they do up to what is left. -/
theorem agrees_iff : StatusAgrees w ↔ Pledged w := by
  constructor
  · intro ha
    refine ⟨fun hc => Or.inl (ha.complete hc).2, fun hc => Or.inl (ha.complete hc).1, fun hi => ?_⟩
    cases hconn : w.shared.connected with
    | true => exact Or.inl rfl
    | false => exact Or.inr (Or.inl (ha.dropped hi hconn))
  · intro hp
    have hup : w.shared.handshakeComplete = true → w.shared.connected = true := by
      intro hc
      rcases hp.up hc with hconn | hr | hr
      · exact hconn
      · exact absurd hr h.not_resetting
      · exact absurd hr h.not_raising
    refine ⟨fun hc => ⟨hup hc, ?_⟩, fun hi hconn => ?_, fun hconn => ?_⟩
    · rcases hp.sender hc with htx | hr | hr
      · exact htx
      · exact absurd hr h.not_resetting
      · exact absurd hr h.not_redialing
    · rcases hp.cause hi with hc | hd | hr | hr
      · rw [hconn] at hc
        cases hc
      · exact hd
      · exact absurd hr h.not_raising
      · exact absurd hr h.not_causing
    · unfold Shared.waitForDaemonReady
      cases hc : w.shared.handshakeComplete with
      | true => exact absurd (hconn.symm.trans (hup hc)) (by decide)
      | false =>
        rw [if_neg Bool.false_ne_true]
        exact nofun

end Settled

/-! ## Steps that write no field -/

/-- The updates on which others count. -/
def Update.owed : Update → Bool
  | .setHandshakeComplete false | .setConnected true | .setCause _ => true
  | _ => false

/-- What the first call is still to write, the second one is. -/
structure Call.Covers (c c' : Call) : Prop where
  pending : ∀ u, u.owed = true → u ∈ c.pc.pending → u ∈ c'.pc.pending
  redials : c.redials → c'.redials

/-- The fields are the same, and all that was to be written still is. -/
structure Silent (w w' : Tasks) : Prop where
  status : w'.shared.status = w.shared.status
  installed : w'.installed = w.installed
  calls : ∀ i, (w.call i).Covers (w'.call i)
  readers : ∀ e, (w.reader e).causes → (w'.reader e).causes

namespace Call.Covers

theorem refl : c.Covers c := ⟨fun _ _ hu => hu, id⟩

theorem raises (h : c.Covers c') : c.raises → c'.raises := Or.imp h.redials (h.pending _ rfl)

theorem resets (h : c.Covers c') : c.resets → c'.resets := h.pending _ rfl

theorem causes (h : c.Covers c') : c.causes → c'.causes :=
  fun ⟨cause, hu⟩ => ⟨cause, h.pending _ rfl hu⟩

/-- A call on which nobody counts. -/
theorem of_nothing (hp : ∀ u ∈ c.pc.pending, u.owed = false) (hr : ¬ c.redials) :
    c.Covers c' := by
  refine ⟨fun u ho hu => ?_, fun h => absurd h hr⟩
  rw [hp u hu] at ho
  cases ho

end Call.Covers

namespace Silent

theorem redialing (h : Silent w w') : w.Redialing → w'.Redialing :=
  fun ⟨i, hi⟩ => ⟨i, (h.calls i).redials hi⟩

theorem raising (h : Silent w w') : w.Raising → w'.Raising :=
  fun ⟨i, hi⟩ => ⟨i, (h.calls i).raises hi⟩

theorem resetting (h : Silent w w') : w.Resetting → w'.Resetting :=
  fun ⟨i, hi⟩ => ⟨i, (h.calls i).resets hi⟩

theorem causing (h : Silent w w') : w.Causing → w'.Causing := by
  rintro (⟨i, hi⟩ | ⟨e, he⟩)
  · exact Or.inl ⟨i, (h.calls i).causes hi⟩
  · exact Or.inr ⟨e, h.readers e he⟩

/-- A step of the call `i`. -/
theorem of_call (hs : w'.shared.status = w.shared.status) (hi : w'.installed = w.installed)
    (hr : ∀ e, (w.reader e).causes → (w'.reader e).causes)
    (ho : ∀ j, j ≠ i → w'.call j = w.call j) (hc : (w.call i).Covers (w'.call i)) :
    Silent w w' := by
  refine ⟨hs, hi, fun j => ?_, hr⟩
  by_cases hj : j = i
  · rw [hj]
    exact hc
  · rw [ho j hj]
    exact Call.Covers.refl

/-- A step of the reader `e`. -/
theorem of_reader (hs : w'.shared.status = w.shared.status) (hi : w'.installed = w.installed)
    (hc : w'.call = w.call) (ho : ∀ e', e' ≠ e → w'.reader e' = w.reader e')
    (hr : ¬ (w.reader e).causes) : Silent w w' := by
  refine ⟨hs, hi, fun j => ?_, fun e' he' => ?_⟩
  · rw [hc]
    exact Call.Covers.refl
  · by_cases hee : e' = e
    · rw [hee] at he'
      exact absurd he' hr
    · rw [ho e' hee]
      exact he'

theorem pledged (h : Silent w w') (hw : Pledged w) : Pledged w' := by
  obtain ⟨htx, hs⟩ := Prod.mk.inj h.status
  obtain ⟨hconn, hs⟩ := Prod.mk.inj hs
  obtain ⟨hcomp, hcause⟩ := Prod.mk.inj hs
  refine ⟨fun hc => ?_, fun hc => ?_, fun hi => ?_⟩
  · rw [hcomp] at hc
    rw [htx]
    exact (hw.sender hc).imp_right (Or.imp h.resetting h.redialing)
  · rw [hcomp] at hc
    rw [hconn]
    exact (hw.up hc).imp_right (Or.imp h.resetting h.raising)
  · rw [h.installed] at hi
    rw [hconn, hcause]
    exact (hw.cause hi).imp_right (Or.imp_right (Or.imp h.raising h.causing))

end Silent

/-! ## What a step does to the status -/

/-- Steps of the calls and the readers that are at work. -/
def Label.goesOn : Label → Bool
  | .step _ _ | .reader _ => true
  | .call _ _ | .receive _ _ | .writerDown _ | .register _ | .unregister _ | .readEvent => false

/-- What a step does to the fields. -/
inductive StatusStep (w : Tasks) : Label → Tasks → Prop
  /-- Without an attempt left, the step adds nothing that is to be written. -/
  | silent {a : Label} {w' : Tasks} (h : Silent w w')
    (hback : a.goesOn = true → (∀ i, (w'.call i).retries = none) → Silent w' w) : StatusStep w a w'
  | connected (i : ℕ) (hp : (w.call i).pc = .checking) (hc : w.shared.connected = true) :
    StatusStep w (.step i .next) (w.setPc i (.returned (.ok ())))
  | dialFailed (i : ℕ) (hp : (w.call i).pc = .dialing) :
    StatusStep w (.step i .dialFailed) (w.setPc i (.returned (.error (.connection 1))))
  | install (i : ℕ) (hp : (w.call i).pc = .installing) : StatusStep w (.step i .next) (w.install i)
  | update (i : ℕ) (u : Update) (rest : List Update) (k : Cont)
    (hp : (w.call i).pc = .updating (u :: rest) k) :
    StatusStep w (.step i .next) ({ w with shared := w.shared.update u }.setPc i (.updating rest k))
  | mark (e : ℕ) (u : Update) (rest : List Update) (hr : w.reader e = .marking (u :: rest)) :
    StatusStep w (.reader e) ({ w with shared := w.shared.update u }.setReader e (.marking rest))

variable {s : Shared} {sent : List (ℕ × Outgoing)} {acked : List (ℕ × Json)}

/-- A call that moves between places with the same to write. -/
theorem statusStep_moves (hs : s.status = w.shared.status)
    (hp : c.pc.pending = (w.call i).pc.pending) (hr : c.redials ↔ (w.call i).redials) :
    StatusStep w (.step i event)
      ({ w with shared := s, sent := sent, acked := acked }.setCall i c) := by
  refine .silent (.of_call hs rfl (fun _ => id) (fun j hj => setCall_call_ne hj) ?_)
    fun _ _ => .of_call hs.symm rfl (fun _ => id) (fun j hj => (setCall_call_ne hj).symm) ?_
  · rw [setCall_call_self]
    exact ⟨fun u _ hu => hp ▸ hu, hr.2⟩
  · rw [setCall_call_self]
    exact ⟨fun u _ hu => hp ▸ hu, hr.1⟩

/-- A handshake that comes to its end. -/
theorem statusStep_ends (hs : s.status = w.shared.status) (hp : (w.call i).pc.pending = [])
    (hr : ¬ (w.call i).redials) (hp' : ∀ u ∈ c.pc.pending, u.owed = false)
    (hr' : c.retries = none → ¬ c.redials) :
    StatusStep w (.step i event)
      ({ w with shared := s, sent := sent, acked := acked }.setCall i c) := by
  refine .silent (.of_call hs rfl (fun _ => id) (fun j hj => setCall_call_ne hj) ?_)
    fun _ hnone => .of_call hs.symm rfl (fun _ => id) (fun j hj => (setCall_call_ne hj).symm) ?_
  · refine .of_nothing (fun u hu => ?_) hr
    rw [hp] at hu
    exact absurd hu List.not_mem_nil
  · have hc := hnone i
    rw [setCall_call_self] at hc ⊢
    exact .of_nothing hp' (hr' hc)

theorem not_redials_of_error {err : Error} (hr : c.retries = none)
    (hp : c.pc = .returned (.error err)) : ¬ c.redials := by
  unfold Call.redials
  rw [hp]
  rintro ⟨attempt, max, hsome, -⟩
  rw [hr] at hsome
  cases hsome

theorem statusStep_fails {err : Error} (hs : s.status = w.shared.status)
    (hp : (w.call i).pc.pending = []) (hr : ¬ (w.call i).redials) :
    StatusStep w (.step i event)
      ({ w with shared := s, sent := sent, acked := acked }.setPc i (.returned (.error err))) :=
  statusStep_ends hs hp hr (fun _ hu => absurd hu List.not_mem_nil)
    fun hnone => not_redials_of_error hnone rfl

theorem statusStep_sendInit (hp : (w.call i).pc = .sendingInit e) :
    StatusStep w (.step i event) (w.sendInit i e) := by
  obtain ⟨sent, p, hpc, heq⟩ := sendInit_eq (w := w) (i := i) (e := e)
  rw [heq]
  obtain rfl | ⟨err, rfl⟩ := hpc
  · exact statusStep_moves rfl (by rw [hp]; rfl) (by simp [Call.redials, hp])
  · exact statusStep_fails rfl (by rw [hp]; rfl) (by simp [Call.redials, hp])

theorem owed_acceptUpdates {state : String} {ack : Json} (hu : u ∈ acceptUpdates state ack) :
    u.owed = false := by
  unfold acceptUpdates at hu
  simp only [List.cons_append, List.nil_append, List.mem_cons, Option.mem_toList,
    Option.map_eq_some_iff] at hu
  rcases hu with rfl | rfl | ⟨ms, -, rfl⟩ <;> rfl

theorem statusStep_onFrame {origin : ℕ} {msg : Json} {q : List (ℕ × Json)}
    (hp : (w.call i).pc = .awaiting e) : StatusStep w (.step i event)
      ({ w with shared := { w.shared with inbound := q } }.onFrame i e origin msg) := by
  have hpend : (w.call i).pc.pending = [] := by rw [hp]; rfl
  have hre : ¬ (w.call i).redials := by simp [Call.redials, hp]
  unfold Tasks.onFrame
  cases handshakeVerdict msg with
  | ignore =>
    refine .silent ?_ fun _ _ => ?_
    · exact ⟨rfl, rfl, fun _ => .refl, fun _ => id⟩
    · exact ⟨rfl, rfl, fun _ => .refl, fun _ => id⟩
  | resend => exact statusStep_moves rfl hpend.symm (by simp [Call.redials, hp])
  | accept state =>
    exact statusStep_ends rfl hpend hre (fun _ hu => owed_acceptUpdates hu) fun _ => id
  | fail err => exact statusStep_fails rfl hpend hre

/-- The reader of a new connection starts. -/
theorem statusStep_spawn (ho : Owned w) (hp : (w.call i).pc = .updating [] (.spawn e)) :
    StatusStep w (.step i event) ((w.setReader e .reading).setPc i (.sendingInit e)) := by
  have hnew : w.reader e = .unspawned := (ho.spawning i [] e (by rw [hp]; rfl)).2
  have hmove : (w.call i).Covers { w.call i with pc := .sendingInit e } ∧
      Call.Covers { w.call i with pc := .sendingInit e } (w.call i) := by
    refine ⟨.of_nothing (fun u hu => ?_) (by simp [Call.redials, hp]),
      .of_nothing (fun u hu => absurd hu List.not_mem_nil) id⟩
    rw [hp] at hu
    exact absurd hu List.not_mem_nil
  refine .silent (.of_call rfl rfl (fun e' he' => ?_) (fun j hj => setPc_call_ne hj) ?_)
    fun _ _ => .of_call rfl rfl (fun e' he' => ?_) (fun j hj => (setPc_call_ne hj).symm) ?_
  · have hne : e' ≠ e := by
      rintro rfl
      rw [hnew] at he'
      exact he'
    rw [setPc_reader, setReader_reader_ne hne]
    exact he'
  · unfold setPc
    rw [setCall_call_self]
    exact hmove.1
  · have hne : e' ≠ e := by
      rintro rfl
      rw [setPc_reader, setReader_reader_self] at he'
      exact he'
    rw [setPc_reader, setReader_reader_ne hne] at he'
    exact he'
  · unfold setPc
    rw [setCall_call_self]
    exact hmove.2

theorem statusStep_call (ho : Owned w) (hs : CallStep w i event w') :
    StatusStep w (.step i event) w' := by
  cases hs with
  | connected hp hc => exact .connected i hp hc
  | dialFailed hp => exact .dialFailed i hp
  | install hp => exact .install i hp
  | update u rest k hp => exact .update i u rest k hp
  | dial hp | dialed hp | wake hp =>
    exact statusStep_moves rfl (by rw [hp]; rfl) (by simp [Call.redials, hp])
  | resume k hp =>
    have hpend : (w.call i).pc.pending = [] := by rw [hp]; rfl
    cases k with
    | spawn e => exact statusStep_spawn ho hp
    | connect => exact statusStep_moves rfl hpend.symm (by simp [Call.redials, hp])
    | ok => exact statusStep_moves rfl hpend.symm (by simp [Call.redials, hp])
  | sendInit e hp => exact statusStep_sendInit hp
  | frame e ev q hp hq => exact statusStep_onFrame hp
  | deadline e hp => exact statusStep_fails rfl (by rw [hp]; rfl) (by simp [Call.redials, hp])
  | retry attempt max err hp =>
    refine .silent (.of_call rfl rfl (fun _ => id) (fun j hj => setCall_call_ne hj) ?_)
      fun _ hnone => ?_
    · rw [setCall_call_self]
      refine ⟨fun u _ hu => ?_, fun _ => trivial⟩
      rw [hp] at hu
      exact absurd hu List.not_mem_nil
    · have hsome := hnone i
      rw [setCall_call_self] at hsome
      cases hsome
  | notify hp | close hp | notified _ hp =>
    exact statusStep_moves rfl (by rw [hp]; rfl) (by simp [Call.redials, hp])

variable {pc : ReaderPc}

/-- A reader that is not within `mark_disconnected`. -/
theorem statusStep_works (hs : s.status = w.shared.status) (hr : ¬ (w.reader e).causes)
    (hpc : a.goesOn = true → ¬ pc.causes) :
    StatusStep w a ({ w with shared := s, sent := sent }.setReader e pc) := by
  refine .silent (.of_reader hs rfl rfl (fun e' hne => setReader_reader_ne hne) hr)
    fun hgo _ => .of_reader hs.symm rfl rfl (fun e' hne => (setReader_reader_ne hne).symm) ?_
  rw [setReader_reader_self]
  exact hpc hgo

theorem status_takeWaiter {msg : Json} (hs : w.shared.takeWaiter msg = some s) :
    s.status = w.shared.status := by
  obtain ⟨-, -, -, rfl⟩ := takeWaiter_eq_some.1 hs
  rfl

theorem status_enqueue {ev : ℕ × Json} :
    (w.shared.enqueuePendingLocked ev).status = w.shared.status := by
  obtain ⟨q, b, heq, -⟩ := enqueue_eq w.shared ev
  rw [heq]
  rfl

theorem statusStep_reader (hs : ReaderStep w e w') : StatusStep w (.reader e) w' := by
  cases hs with
  | turn hpc | settle _ _ _ hpc | ack _ _ _ _ _ hpc | miss _ _ hpc =>
    exact statusStep_works rfl (by rw [hpc]; exact id) fun _ => id
  | route msg rest pc seqs hpc _ _ hnext =>
    refine statusStep_works rfl (by rw [hpc]; exact id) fun _ => ?_
    obtain rfl | ⟨loopId, seq, rfl⟩ := hnext <;> exact id
  | hand msg rest s hpc hs =>
    exact statusStep_works (status_takeWaiter hs) (by rw [hpc]; exact id) fun _ => id
  | enqueue msg rest hpc =>
    exact statusStep_works status_enqueue (by rw [hpc]; exact id) fun _ => id
  | mark u rest hpc => exact .mark e u rest hpc

theorem statusStep_received {item : Item} (hr : w.reader e = .reading) (hs : Received w e w') :
    StatusStep w (.receive e item) w' := by
  have hread : ¬ (w.reader e).causes := by rw [hr]; exact id
  cases hs with
  | stays sent =>
    exact .silent ⟨rfl, rfl, fun _ => .refl, fun _ => id⟩ fun hgo => nomatch hgo
  | routes msgs => exact statusStep_works rfl hread fun hgo => nomatch hgo
  | ends => exact statusStep_works rfl hread fun hgo => nomatch hgo

theorem statusStep_start {op : Op} (hfree : w.free i = true) :
    StatusStep w (.call i op) (w.start i op) := by
  refine .silent (.of_call ?_ ?_ ?_ (start_moves hfree).others ?_) fun hgo => nomatch hgo
  · cases op <;> rfl
  · exact (start_moves hfree).installed
  · rw [(start_moves hfree).reader]
    exact fun _ => id
  · refine .of_nothing (fun u hu => ?_) (not_redials_of_free hfree)
    rw [pending_of_free hfree] at hu
    exact absurd hu List.not_mem_nil

/-- **Status steps.** -/
theorem step_status (ho : Owned w) (hs : Tasks.step w a = some w') : StatusStep w a w' := by
  cases taskStep_inv hs with
  | call i op hfree => exact statusStep_start hfree
  | step i event hs => exact statusStep_call ho hs
  | receive e item hr hs => exact statusStep_received hr hs
  | reader e hs => exact statusStep_reader hs
  | writerDown | register | unregister | readEvent =>
    exact .silent ⟨rfl, rfl, fun _ => .refl, fun _ => id⟩ fun hgo => nomatch hgo

end SootheClient.Client
