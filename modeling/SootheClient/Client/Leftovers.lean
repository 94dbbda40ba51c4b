import SootheClient.Client.Connect

/-!
# Frames that an earlier connection left

The handshake reads the queue that the application reads. The frames that a lost connection left
in it come before those of the new socket, and each one that the handshake reads is gone. `connect`
does not clear the queue, as `reconnect` does.
-/

namespace SootheClient.Client

open Tasks

/-- The steps of the call `i` and of the tasks of the connection `e`. -/
def Label.ofConnect (i e : ℕ) : Label → Prop
  | .step j _ => j = i
  | .receive e' _ | .reader e' | .writerDown e' => e' = e
  | .call _ _ | .register _ | .unregister _ | .readEvent => False

/-- What the dial and the sockets do. -/
def Label.ofSocket : Label → Bool
  | .step _ event => event = .dialed || event = .dialFailed
  | .receive _ _ | .writerDown _ => true
  | .call _ _ | .reader _ | .register _ | .unregister _ | .readEvent => false

namespace Tasks

/-- The frame that a step of the handshake of `i` takes off the queue. -/
def takes (w : Tasks) (i : ℕ) : Label → List (ℕ × Json)
  | .step j .next =>
    match (w.call j).pc with
    | .awaiting _ => if j = i then w.shared.inbound.take 1 else []
    | _ => []
  | _ => []

/-- The frames that the handshake of `i` takes off the queue in a run. -/
def taken (i : ℕ) (w : Tasks) : List Label → List (ℕ × Json)
  | [] => []
  | a :: run => w.takes i a ++ (w.step a).elim [] fun w' => taken i w' run

/-- The client with an empty queue. -/
def cleared (w : Tasks) : Tasks := { w with shared := w.shared.update .clearInbound }

end Tasks

/-- A `connect` called from `i` does not depend on the queue that it finds: however it runs, all
that was in the queue is still there, in order, when it returns; and from an empty queue, with the
same of its socket, it can return the same and take the same frames of the new connection. -/
def Independent (w : Tasks) (i : ℕ) : Prop :=
  ∀ run w' r, (∀ a ∈ run, a.ofConnect i w.installed) →
    Lts.exec Tasks.step w (.call i .connect :: run) = some w' → (w'.call i).pc = .returned r →
    w.shared.inbound.Sublist w'.shared.inbound ∧
      ∃ run₀ w₀, (∀ a ∈ run₀, a.ofConnect i w.installed) ∧
        Lts.exec Tasks.step w.cleared (.call i .connect :: run₀) = some w₀ ∧
        (w₀.call i).pc = .returned r ∧ run₀.filter Label.ofSocket = run.filter Label.ofSocket ∧
        (w.cleared.taken i (.call i .connect :: run₀)).filter (·.1 = w.installed) =
          (w.taken i (.call i .connect :: run)).filter (·.1 = w.installed)

variable {w w' : Tasks} {e i n : ℕ} {a : Label} {u : Update} {s : Shared} {run : List Label}

/-! ## Writers of connections to come -/

/-- No writer failed before its connection was dialed. -/
def FreshUp (w : Tasks) : Prop := ∀ e, w.installed ≤ e → w.writerUp e = true

theorem FreshUp.same (h : FreshUp w) (hi : w.installed ≤ w'.installed)
    (hw : w'.writerUp = w.writerUp) : FreshUp w' := by
  intro e he
  rw [hw]
  exact h e (hi.trans he)

theorem freshUp_callStep (h : FreshUp w) {event : Event} (hs : CallStep w i event w') :
    FreshUp w' := by
  cases hs with
  | install => exact h.same (Nat.le_succ _) rfl
  | resume k => cases k <;> exact h.same (Nat.le_refl _) rfl
  | sendInit e =>
    obtain ⟨sent, p, -, heq⟩ := sendInit_eq (w := w) (i := i) (e := e)
    rw [heq]
    exact h.same (Nat.le_refl _) rfl
  | frame e ev q hp =>
    unfold Tasks.onFrame
    cases handshakeVerdict ev.2 <;> exact h.same (Nat.le_refl _) rfl
  | connected | dial | dialed | dialFailed | update | deadline | retry | wake | notify | close
    | notified => exact h.same (Nat.le_refl _) rfl

theorem freshUp_step (h : FreshUp w) (hs : w.step a = some w') : FreshUp w' := by
  cases taskStep_inv hs with
  | call i op => cases op <;> exact h.same (Nat.le_refl _) rfl
  | step i event hs => exact freshUp_callStep h hs
  | receive e item hr hs => cases hs <;> exact h.same (Nat.le_refl _) rfl
  | reader e hs => cases hs <;> exact h.same (Nat.le_refl _) rfl
  | writerDown e he =>
    intro e' he'
    have hle : w.installed ≤ e' := he'
    show Function.update w.writerUp e false e' = true
    rw [Function.update_of_ne (by omega)]
    exact h e' hle
  | register | unregister | readEvent => exact h.same (Nat.le_refl _) rfl

theorem freshUp_of_exec (h : Lts.exec Tasks.step {} run = some w) : FreshUp w :=
  Lts.inv_of_exec (fun _ _ _ hi hs => freshUp_step hi hs) (fun _ _ => rfl) h

/-! ## A `connect` that loses a frame -/

/-- The call `i` can return with less than `n` frames in the queue. -/
def Loses (i e n : ℕ) (w : Tasks) : Prop :=
  ∃ run w' r, (∀ a ∈ run, a.ofConnect i e) ∧ Lts.exec Tasks.step w run = some w' ∧
    (w'.call i).pc = .returned r ∧ w'.shared.inbound.length < n

theorem loses_of_step {event : Event} (hs : Tasks.step w (.step i event) = some w')
    (h : Loses i e n w') : Loses i e n w := by
  obtain ⟨run, w'', r, hrun, hexec, hp, hlt⟩ := h
  refine ⟨.step i event :: run, w'', r, ?_, ?_, hp, hlt⟩
  · intro a ha
    rcases List.mem_cons.1 ha with rfl | ha
    · exact rfl
    · exact hrun a ha
  · rw [Lts.exec_cons_of_step hs, hexec]

theorem loses_of_returned {r : Except Error Unit} (hp : (w.call i).pc = .returned r)
    (hlt : w.shared.inbound.length < n) : Loses i e n w :=
  ⟨[], w, r, fun _ h => absurd h List.not_mem_nil, rfl, hp, hlt⟩

/-- The daemon answers nothing until the deadline. -/
theorem loses_of_awaiting {c : ℕ} (hp : (w.call i).pc = .awaiting c)
    (hlt : w.shared.inbound.length < n) : Loses i e n w := by
  have hs : Tasks.step w (.step i .deadline) =
      some (w.setPc i (.returned (.error (.timeout "connection_ack" "15s")))) := by
    show w.callStep i .deadline = _
    unfold Tasks.callStep
    rw [hp]
  exact loses_of_step hs (loses_of_returned setPc_pc_self hlt)

theorem loses_of_sendingInit {c : ℕ} (hp : (w.call i).pc = .sendingInit c)
    (hlt : w.shared.inbound.length < n) : Loses i e n w := by
  refine loses_of_step (step_sendInit hp) ?_
  unfold Tasks.sendInit
  cases hs : w.sends with
  | true =>
    obtain ⟨sent, hsend⟩ := sendRaw_of_sends (m := .connectionInit) hs
    rw [hsend]
    exact loses_of_awaiting setPc_pc_self hlt
  | false =>
    obtain ⟨err, hsend⟩ := sendRaw_of_not_sends (m := .connectionInit) hs
    rw [hsend]
    exact loses_of_returned setPc_pc_self hlt

/-- No update queues a frame. -/
theorem update_length : (s.update u).inbound.length ≤ s.inbound.length := by
  cases u with
  | clearInbound => exact Nat.zero_le _
  | dropWriteTx | setConnected | setReaderAlive | setHandshakeComplete | setReadinessState
    | clearCause | setCause | clearWaiters | failWaiters | clearDegraded | setHeartbeatInterval =>
    exact Nat.le_refl _

theorem loses_of_accepting {rest : List Update} (hp : (w.call i).pc = .updating rest .ok)
    (hlt : w.shared.inbound.length < n) : Loses i e n w := by
  induction rest generalizing w with
  | nil => exact loses_of_step (step_resume hp) (loses_of_returned setPc_pc_self hlt)
  | cons u rest ih =>
    refine loses_of_step (step_updating hp) (ih setPc_pc_self ?_)
    exact Nat.lt_of_le_of_lt update_length hlt

/-- Whatever the frame is, the handshake that reads it does not put it back. -/
theorem loses_of_frame {c : ℕ} (hp : (w.call i).pc = .awaiting c) {ev : ℕ × Json}
    {q : List (ℕ × Json)} (hq : w.shared.inbound = ev :: q) (hlt : q.length < n) :
    Loses i e n w := by
  refine loses_of_step (step_awaiting hp hq) ?_
  unfold Tasks.onFrame
  cases handshakeVerdict ev.2 with
  | ignore => exact loses_of_awaiting hp hlt
  | resend => exact loses_of_sendingInit setPc_pc_self hlt
  | accept state => exact loses_of_accepting setPc_pc_self hlt
  | fail err => exact loses_of_returned setPc_pc_self hlt

theorem loses_of_sent {c : ℕ} (hp : (w.call i).pc = .sendingInit c) (hsends : w.sends = true)
    {ev : ℕ × Json} {q : List (ℕ × Json)} (hq : w.shared.inbound = ev :: q) (hlt : q.length < n) :
    Loses i e n w := by
  refine loses_of_step (step_sendInit hp) ?_
  obtain ⟨sent, hsend⟩ := sendRaw_of_sends (m := .connectionInit) hsends
  unfold Tasks.sendInit
  rw [hsend]
  exact loses_of_frame setPc_pc_self hq hlt

/-- The first frame of the queue is read on the new connection. -/
theorem loses_of_connect (hup : FreshUp w) (hdrop : w.shared.connected = false) {ev : ℕ × Json}
    {q : List (ℕ × Json)} (hq : w.shared.inbound = ev :: q) :
    Loses i w.installed w.shared.inbound.length (w.start i .connect) := by
  have hcheck : Tasks.step (w.start i .connect) (.step i .next) =
      some ((w.start i .connect).setPc i .dialing) := by
    show (w.start i .connect).callStep i .next = _
    unfold Tasks.callStep
    rw [show ((w.start i .connect).call i).pc = .checking from congrArg Call.pc setCall_call_self]
    show some ((w.start i .connect).setPc i (if w.shared.connected then _ else _)) = _
    rw [hdrop]
    rfl
  have hdial : Tasks.step ((w.start i .connect).setPc i .dialing) (.step i .dialed) =
      some (((w.start i .connect).setPc i .dialing).setPc i .installing) := by
    show Tasks.callStep _ i .dialed = _
    unfold Tasks.callStep
    rw [setPc_pc_self]
  apply loses_of_step hcheck
  apply loses_of_step hdial
  apply loses_of_step (step_install setPc_pc_self)
  apply loses_of_step (step_updating setPc_pc_self)
  apply loses_of_step (step_updating setPc_pc_self)
  apply loses_of_step (step_updating setPc_pc_self)
  apply loses_of_step (step_resume setPc_pc_self)
  refine loses_of_sent setPc_pc_self ?_ hq ?_
  · exact hup w.installed (Nat.le_refl _)
  · rw [hq]
    exact Nat.lt_succ_self _

theorem not_independent (hup : FreshUp w) (hfree : w.free i = true)
    (hdrop : w.shared.connected = false) (hne : w.shared.inbound ≠ []) : ¬ Independent w i := by
  obtain ⟨ev, q, hq⟩ := List.exists_cons_of_ne_nil hne
  obtain ⟨run, w', r, hrun, hexec, hp, hlt⟩ := loses_of_connect (i := i) hup hdrop hq
  have hcall : Tasks.step w (.call i .connect) = some (w.start i .connect) := if_pos hfree
  intro hind
  have hkept := (hind run w' r hrun ((Lts.exec_cons_of_step hcall).trans hexec) hp).1
  exact absurd hkept.length_le (Nat.not_le.2 hlt)

/-- **Leftovers.** A `connect` after a drop does not depend on the queue just if there is nothing in
it. -/
theorem connect_independent_iff (run : List Label) (w : Tasks)
    (hw : Lts.exec Tasks.step {} run = some w) (i : ℕ) (hfree : w.free i = true)
    (hdrop : w.shared.connected = false) : Independent w i ↔ w.shared.inbound = [] := by
  constructor
  · intro hind
    by_contra hne
    exact not_independent (freshUp_of_exec hw) hfree hdrop hne hind
  · intro hq run w' r hrun hexec hp
    have hclear : w.cleared = w := by
      unfold cleared
      show { w with shared := { w.shared with inbound := [] } } = w
      rw [← hq]
    rw [hclear, hq]
    exact ⟨List.nil_sublist _, run, w', hrun, hexec, hp, rfl, rfl⟩

/-- The socket of a connection ends, and its reader finishes. -/
def ends (e : ℕ) : List Label := .receive e .ended :: List.replicate 5 (.reader e)

/-- A connection that was acknowledged, delivered a frame and was lost. -/
def leaves (more : List Label) : List Label :=
  dials ++ delivers 0 (connectionAck "ready") ++ goes 4 ++ more ++ ends 0

theorem connect_independent_drained : ∃ w, Lts.exec Tasks.step {} (leaves []) = some w ∧
    w.installed = 1 ∧ Independent w 0 := by
  have hrun : (Lts.exec Tasks.step {} (leaves [])).map
      (fun w => (w.installed, w.free 0, w.shared.connected, w.shared.inbound)) =
        some (1, true, false, []) := rfl
  obtain ⟨w, hw, hpc⟩ := Option.map_eq_some_iff.1 hrun
  obtain ⟨hi, hpc⟩ := Prod.mk.inj hpc
  obtain ⟨hfree, hpc⟩ := Prod.mk.inj hpc
  obtain ⟨hdrop, hq⟩ := Prod.mk.inj hpc
  exact ⟨w, hw, hi, (connect_independent_iff _ w hw 0 hfree hdrop).2 hq⟩

/-- An event that the application did not read is lost. -/
theorem connect_independent_fails : ¬ ∀ run w, Lts.exec Tasks.step {} run = some w →
    ∀ i, w.free i = true → w.shared.connected = false → Independent w i := by
  intro h
  have hrun : (Lts.exec Tasks.step {} (leaves (delivers 0 (.obj [("type", .str "event")])))).map
      (fun w => (w.free 0, w.shared.connected, w.shared.inbound)) =
        some (true, false, [(0, .obj [("type", .str "event")])]) := rfl
  obtain ⟨w, hw, hpc⟩ := Option.map_eq_some_iff.1 hrun
  obtain ⟨hfree, hpc⟩ := Prod.mk.inj hpc
  obtain ⟨hdrop, hq⟩ := Prod.mk.inj hpc
  refine not_independent (freshUp_of_exec hw) hfree hdrop ?_ (h _ w hw 0 hfree hdrop)
  rw [hq]
  exact List.cons_ne_nil _ _

end SootheClient.Client
