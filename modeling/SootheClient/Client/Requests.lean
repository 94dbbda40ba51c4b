import SootheClient.Client.Tasks
import SootheClient.Lib.Duration
import SootheClient.Lib.Lts

/-!
# Requests

The calls `request` and `subscribe`, made from any number of places, beside the other tasks of the
client. A call registers its waiter, sends its envelope and waits for the result or its timeout.

Ghosts are the ids that calls took, which are never taken twice, and those whose envelope was sent.
-/

namespace SootheClient.Client

open SootheClient.Frame

inductive RpcKind where
  | request
  | subscribe
  deriving DecidableEq, Repr

/-- Where a call is. -/
inductive RpcPc where
  | idle
  | registering
  | sending
  /-- The receiver has no result, and the timeout is not over. -/
  | waiting
  /-- The waiter is removed next. -/
  | removing (r : Except Error Json)
  | returned (r : Except Error Json)

/-- A call of `request` or `subscribe`; the timeout is in nanoseconds. -/
structure Rpc where
  pc : RpcPc := .idle
  kind : RpcKind := .request
  method : String := ""
  timeout : ℕ := 0
  id : String := ""

inductive RpcLabel where
  /-- A step of another task. -/
  | client (a : Label)
  /-- A call is made from the place `j`, with a new id. -/
  | call (j : ℕ) (kind : RpcKind) (method : String) (timeout : ℕ) (id : String)
  /-- A call goes on. -/
  | step (j : ℕ)
  /-- The timeout of a call. -/
  | timeout (j : ℕ)

/-- A client with its tasks and its requests. -/
structure Requests where
  tasks : Tasks := {}
  rpc : ℕ → Rpc := fun _ => {}
  issued : List String := []
  sentIds : List String := []

/-- The label stands for a step of a request. -/
def Label.ofRequest : Label → Bool
  | .register _ | .unregister _ => true
  | .call _ _ | .step _ _ | .receive _ _ | .reader _ | .writerDown _ | .readEvent => false

/-- The connection that a message is handed to, as `send_raw` finds it. -/
def Tasks.writer (w : Tasks) : Except Error ℕ :=
  match w.shared.writeTx with
  | none => .error (.protocol "not connected")
  | some e => if w.writerUp e then .ok e else .error (.protocol "write channel closed")

/-- `send_raw` hands the message to the connection that `writer` finds. -/
theorem sendRaw_eq_writer (w : Tasks) (msg : Outgoing) : w.sendRaw msg =
    match w.writer with
    | .error err => (.error err, w)
    | .ok e => (.ok (), { w with sent := w.sent ++ [(e, msg)] }) := by
  unfold Tasks.sendRaw Tasks.writer
  cases w.shared.writeTx with
  | none => rfl
  | some e =>
    simp only
    split_ifs <;> rfl

namespace RpcPc

/-- The envelope is not sent. -/
def unsent : RpcPc → Bool
  | .registering | .sending => true
  | .idle | .waiting | .removing _ | .returned _ => false

/-- A call can be made. -/
def free : RpcPc → Bool
  | .idle | .returned _ => true
  | .registering | .sending | .waiting | .removing _ => false

end RpcPc

/-- What `request` makes of its receiver; no result means that the waiter was dropped. -/
def requestResult : Option (Except DaemonError Json) → Except Error Json
  | some (.ok (.obj m)) => .ok (.obj m)
  | some (.ok other) => .ok (.obj [("result", other)])
  | some (.error de) => .error (.daemon de)
  | none => .error (.protocol "rpc waiter dropped")

namespace Rpc

variable (c : Rpc)

/-- The envelope could not be sent. -/
def onSendError (err : Error) : RpcPc :=
  match c.kind with
  | .request => .removing (.error err)
  | .subscribe => .returned (.error err)

/-- The receiver is done. -/
def onResult (r : Option (Except DaemonError Json)) : RpcPc :=
  match c.kind, r with
  | .request, r => .returned (requestResult r)
  | .subscribe, some (.error de) => .returned (.error (.daemon de))
  | .subscribe, some (.ok _) => .returned (.ok (.str c.id))
  | .subscribe, none => .removing (.ok (.str c.id))

/-- The timeout is over. -/
def onTimeout : RpcPc :=
  match c.kind with
  | .request => .removing (.error (.timeout c.method (Duration.debug c.timeout)))
  | .subscribe => .removing (.ok (.str c.id))

end Rpc

namespace Requests

variable (w : Requests)

def setRpc (j : ℕ) (c : Rpc) : Requests := { w with rpc := Function.update w.rpc j c }

def setPc (j : ℕ) (pc : RpcPc) : Requests := w.setRpc j { w.rpc j with pc := pc }

/-- The envelope with the id of the call is sent. -/
def send (j : ℕ) : Requests :=
  match w.tasks.writer with
  | .error err => w.setPc j ((w.rpc j).onSendError err)
  | .ok _ => { w with sentIds := (w.rpc j).id :: w.sentIds }.setPc j .waiting

/-- A step of a call. The receiver is done as soon as the waiter is out of the map. -/
def rpcStep (j : ℕ) : Option Requests :=
  let id := (w.rpc j).id
  match (w.rpc j).pc with
  | .idle => none
  | .registering =>
    (w.tasks.step (.register id)).map fun t => { w with tasks := t }.setPc j .sending
  | .sending => some (w.send j)
  | .waiting =>
    if id ∈ w.tasks.shared.rpcWaiters then none
    else some (w.setPc j ((w.rpc j).onResult (w.tasks.shared.settled.lookup id)))
  | .removing r =>
    (w.tasks.step (.unregister id)).map fun t => { w with tasks := t }.setPc j (.returned r)
  | .returned _ => none

/-- The timeout ends the wait when there is no result yet. -/
def timeoutStep (j : ℕ) : Option Requests :=
  match (w.rpc j).pc with
  | .waiting =>
    if (w.rpc j).id ∈ w.tasks.shared.rpcWaiters then some (w.setPc j (w.rpc j).onTimeout) else none
  | .idle | .registering | .sending | .removing _ | .returned _ => none

def step : RpcLabel → Option Requests
  | .client a =>
    if a.ofRequest then none else (w.tasks.step a).map fun t => { w with tasks := t }
  | .call j kind method timeout id =>
    if (w.rpc j).pc.free ∧ id ≠ "" ∧ id ∉ w.issued then
      some ({ w with issued := id :: w.issued }.setRpc j ⟨.registering, kind, method, timeout, id⟩)
    else none
  | .step j => w.rpcStep j
  | .timeout j => w.timeoutStep j

end Requests

variable {w w' : Requests} {a : RpcLabel} {j : ℕ}

/-- What a step does. -/
inductive RpcStep (w : Requests) : RpcLabel → Requests → Prop
  | client (a : Label) (t : Tasks) (ha : a.ofRequest = false) (ht : w.tasks.step a = some t) :
      RpcStep w (.client a) { w with tasks := t }
  /-- A call is made. -/
  | call (j : ℕ) (kind : RpcKind) (method : String) (timeout : ℕ) (id : String)
      (hfree : (w.rpc j).pc.free = true) (hid : id ≠ "") (hnew : id ∉ w.issued) :
      RpcStep w (.call j kind method timeout id)
        ({ w with issued := id :: w.issued }.setRpc j ⟨.registering, kind, method, timeout, id⟩)
  | register (j : ℕ) (t : Tasks) (hpc : (w.rpc j).pc = .registering)
      (ht : w.tasks.step (.register (w.rpc j).id) = some t) :
      RpcStep w (.step j) ({ w with tasks := t }.setPc j .sending)
  /-- The envelope is sent. -/
  | send (j e : ℕ) (hpc : (w.rpc j).pc = .sending) (hw : w.tasks.writer = .ok e) :
      RpcStep w (.step j) ({ w with sentIds := (w.rpc j).id :: w.sentIds }.setPc j .waiting)
  /-- The envelope is not sent, or the wait is over. -/
  | go (j : ℕ) (a : RpcLabel) (pc : RpcPc) (ha : a = .step j ∨ a = .timeout j)
      (hpc : (w.rpc j).pc = .waiting ∨ (w.rpc j).pc = .sending ∧ w.tasks.writer.isOk = false)
      (hpc' : (∃ r, pc = .removing r) ∨ ∃ r, pc = .returned r) : RpcStep w a (w.setPc j pc)
  | remove (j : ℕ) (t : Tasks) (r : Except Error Json) (hpc : (w.rpc j).pc = .removing r)
      (ht : w.tasks.step (.unregister (w.rpc j).id) = some t) :
      RpcStep w (.step j) ({ w with tasks := t }.setPc j (.returned r))

theorem onSendError_cases (c : Rpc) (err : Error) :
    (∃ r, c.onSendError err = .removing r) ∨ ∃ r, c.onSendError err = .returned r := by
  unfold Rpc.onSendError
  split
  · exact Or.inl ⟨_, rfl⟩
  · exact Or.inr ⟨_, rfl⟩

theorem onResult_cases (c : Rpc) (r : Option (Except DaemonError Json)) :
    (∃ r', c.onResult r = .removing r') ∨ ∃ r', c.onResult r = .returned r' := by
  unfold Rpc.onResult
  split
  · exact Or.inr ⟨_, rfl⟩
  · exact Or.inr ⟨_, rfl⟩
  · exact Or.inr ⟨_, rfl⟩
  · exact Or.inl ⟨_, rfl⟩

theorem onTimeout_cases (c : Rpc) : ∃ r, c.onTimeout = .removing r := by
  unfold Rpc.onTimeout
  split
  · exact ⟨_, rfl⟩
  · exact ⟨_, rfl⟩

/-- **Steps of a client with requests.** -/
theorem rpcStep_inv (h : w.step a = some w') : RpcStep w a w' := by
  cases a with
  | client a =>
    simp only [Requests.step] at h
    split_ifs at h with ha
    obtain ⟨t, ht, rfl⟩ := Option.map_eq_some_iff.1 h
    exact .client a t (Bool.eq_false_iff.2 ha) ht
  | call j kind method timeout id =>
    simp only [Requests.step] at h
    split_ifs at h with hc
    obtain rfl := Option.some.inj h
    exact .call j kind method timeout id hc.1 hc.2.1 hc.2.2
  | step j =>
    simp only [Requests.step, Requests.rpcStep] at h
    cases hpc : (w.rpc j).pc with
    | idle | returned =>
      rw [hpc] at h
      cases h
    | registering =>
      rw [hpc] at h
      obtain ⟨t, ht, rfl⟩ := Option.map_eq_some_iff.1 h
      exact .register j t hpc ht
    | sending =>
      rw [hpc] at h
      obtain rfl := Option.some.inj h
      unfold Requests.send
      split
      · rename_i err hw
        exact .go j _ _ (Or.inl rfl) (Or.inr ⟨hpc, by rw [hw]; rfl⟩) (onSendError_cases _ _)
      · rename_i e hw
        exact .send j e hpc hw
    | waiting =>
      rw [hpc] at h
      simp only at h
      split_ifs at h
      obtain rfl := Option.some.inj h
      exact .go j _ _ (Or.inl rfl) (Or.inl hpc) (onResult_cases _ _)
    | removing r =>
      rw [hpc] at h
      obtain ⟨t, ht, rfl⟩ := Option.map_eq_some_iff.1 h
      exact .remove j t r hpc ht
  | timeout j =>
    simp only [Requests.step, Requests.timeoutStep] at h
    cases hpc : (w.rpc j).pc with
    | waiting =>
      rw [hpc] at h
      simp only at h
      split_ifs at h
      obtain rfl := Option.some.inj h
      exact .go j _ _ (Or.inr rfl) (Or.inl hpc) (Or.inl (onTimeout_cases _))
    | idle | returned | registering | sending | removing =>
      rw [hpc] at h
      cases h

/-- **Refinement.** What a step does to the tasks is a step of theirs, or nothing. -/
theorem requests_refine (h : w.step a = some w') :
    w'.tasks = w.tasks ∨ ∃ l, w.tasks.step l = some w'.tasks := by
  cases rpcStep_inv h with
  | client l t ha ht => exact Or.inr ⟨l, ht⟩
  | register j t hpc ht => exact Or.inr ⟨_, ht⟩
  | remove j t r hpc ht => exact Or.inr ⟨_, ht⟩
  | call | send | go => exact Or.inl rfl

/-- The tasks of a client with requests run as tasks do. -/
theorem requests_refine_exec {run : List RpcLabel} (h : Lts.exec Requests.step w run = some w') :
    ∃ labels, Lts.exec Tasks.step w.tasks labels = some w'.tasks := by
  induction run generalizing w with
  | nil =>
    obtain rfl := Option.some.inj h
    exact ⟨[], rfl⟩
  | cons a run ih =>
    obtain ⟨w₁, ha, hrun⟩ := Lts.exec_cons_eq_some.1 h
    obtain ⟨labels, hlabels⟩ := ih hrun
    rcases requests_refine ha with heq | ⟨l, hl⟩
    · rw [heq] at hlabels
      exact ⟨labels, hlabels⟩
    · exact ⟨l :: labels, (Lts.exec_cons_of_step hl).trans hlabels⟩

/-! ## Ids -/

/-- The ids of the calls: those that are not sent yet are apart, and those that wait are sent. -/
structure Ids (w : Requests) : Prop where
  unsent : ∀ j, (w.rpc j).pc.unsent = true → (w.rpc j).id ∈ w.issued ∧ (w.rpc j).id ∉ w.sentIds
  apart : ∀ i j, i ≠ j → (w.rpc i).pc.unsent = true → (w.rpc j).pc.unsent = true →
    (w.rpc i).id ≠ (w.rpc j).id
  waiting : ∀ j, (w.rpc j).pc = .waiting → (w.rpc j).id ∈ w.sentIds
  issued : ∀ id ∈ w.sentIds, id ∈ w.issued
  nonempty : ∀ id ∈ w.issued, id ≠ ""

theorem ids_init {t : Tasks} : Ids { tasks := t } where
  unsent := by
    intro j h
    cases h
  apart := by
    intro i j _ h
    cases h
  waiting := by
    intro j h
    cases h
  issued := by
    intro id h
    cases h
  nonempty := by
    intro id h
    cases h

namespace Requests

variable {i : ℕ} {c : Rpc} {pc : RpcPc}

@[simp] theorem setRpc_rpc_self : (w.setRpc j c).rpc j = c := Function.update_self ..

@[simp] theorem setRpc_rpc_ne (h : i ≠ j) : (w.setRpc j c).rpc i = w.rpc i :=
  Function.update_of_ne h ..

@[simp] theorem setPc_rpc_self : (w.setPc j pc).rpc j = { w.rpc j with pc := pc } :=
  setRpc_rpc_self

@[simp] theorem setPc_rpc_ne (h : i ≠ j) : (w.setPc j pc).rpc i = w.rpc i := setRpc_rpc_ne h

theorem setPc_id : ((w.setPc j pc).rpc i).id = (w.rpc i).id := by
  by_cases h : i = j
  · subst h
    rw [setPc_rpc_self]
  · rw [setPc_rpc_ne h]

end Requests

open Requests

/-- A call moves, and is not less sent than before. -/
theorem Ids.setPc (h : Ids w) {pc : RpcPc}
    (hun : pc.unsent = true → (w.rpc j).pc.unsent = true) (hwait : pc ≠ .waiting) :
    Ids (w.setPc j pc) where
  unsent i hi := by
    rw [setPc_id]
    by_cases hij : i = j
    · subst hij
      rw [setPc_rpc_self] at hi
      exact h.unsent i (hun hi)
    · rw [setPc_rpc_ne hij] at hi
      exact h.unsent i hi
  apart i k hik hi hk := by
    rw [setPc_id, setPc_id]
    refine h.apart i k hik ?_ ?_
    · by_cases hij : i = j
      · subst hij
        rw [setPc_rpc_self] at hi
        exact hun hi
      · rwa [setPc_rpc_ne hij] at hi
    · by_cases hkj : k = j
      · subst hkj
        rw [setPc_rpc_self] at hk
        exact hun hk
      · rwa [setPc_rpc_ne hkj] at hk
  waiting i hi := by
    rw [setPc_id]
    by_cases hij : i = j
    · subst hij
      rw [setPc_rpc_self] at hi
      exact absurd hi hwait
    · rw [setPc_rpc_ne hij] at hi
      exact h.waiting i hi
  issued := h.issued
  nonempty := h.nonempty

/-- A call takes a new id. -/
theorem Ids.call (h : Ids w) {c : Rpc} (hpc : c.pc = .registering) (hid : c.id ≠ "")
    (hnew : c.id ∉ w.issued) : Ids ({ w with issued := c.id :: w.issued }.setRpc j c) where
  unsent i hi := by
    by_cases hij : i = j
    · subst hij
      rw [setRpc_rpc_self]
      exact ⟨List.mem_cons_self, fun hsent => hnew (h.issued _ hsent)⟩
    · rw [setRpc_rpc_ne hij] at hi ⊢
      exact ⟨List.mem_cons_of_mem _ (h.unsent i hi).1, (h.unsent i hi).2⟩
  apart i k hik hi hk := by
    by_cases hij : i = j
    · subst hij
      rw [setRpc_rpc_self, setRpc_rpc_ne hik.symm]
      rw [setRpc_rpc_ne hik.symm] at hk
      rintro heq
      exact hnew (heq ▸ (h.unsent k hk).1)
    · rw [setRpc_rpc_ne hij] at hi ⊢
      by_cases hkj : k = j
      · subst hkj
        rw [setRpc_rpc_self]
        rintro heq
        exact hnew (heq ▸ (h.unsent i hi).1)
      · rw [setRpc_rpc_ne hkj] at hk ⊢
        exact h.apart i k hik hi hk
  waiting i hi := by
    by_cases hij : i = j
    · subst hij
      rw [setRpc_rpc_self, hpc] at hi
      cases hi
    · rw [setRpc_rpc_ne hij] at hi ⊢
      exact h.waiting i hi
  issued id hsent := List.mem_cons_of_mem _ (h.issued id hsent)
  nonempty id hmem := by
    rcases List.mem_cons.1 hmem with rfl | hmem
    · exact hid
    · exact h.nonempty id hmem

/-- An envelope is sent. -/
theorem Ids.send (h : Ids w) (hpc : (w.rpc j).pc = .sending) :
    Ids ({ w with sentIds := (w.rpc j).id :: w.sentIds }.setPc j .waiting) where
  unsent i hi := by
    by_cases hij : i = j
    · subst hij
      rw [setPc_rpc_self] at hi
      cases hi
    · rw [setPc_rpc_ne hij] at hi ⊢
      refine ⟨(h.unsent i hi).1, fun hmem => ?_⟩
      rcases List.mem_cons.1 hmem with heq | hmem
      · exact h.apart i j hij hi (by rw [hpc]; rfl) heq
      · exact (h.unsent i hi).2 hmem
  apart i k hik hi hk := by
    have hne : ∀ i, (({ w with sentIds := (w.rpc j).id :: w.sentIds }.setPc j
        RpcPc.waiting).rpc i).pc.unsent = true → i ≠ j := by
      rintro i hi rfl
      rw [setPc_rpc_self] at hi
      cases hi
    rw [setPc_id, setPc_id]
    have hij := hne i hi
    have hkj := hne k hk
    rw [setPc_rpc_ne hij] at hi
    rw [setPc_rpc_ne hkj] at hk
    exact h.apart i k hik hi hk
  waiting i hi := by
    rw [setPc_id]
    by_cases hij : i = j
    · subst hij
      exact List.mem_cons_self
    · rw [setPc_rpc_ne hij] at hi
      exact List.mem_cons_of_mem _ (h.waiting i hi)
  issued id hmem := by
    rcases List.mem_cons.1 hmem with rfl | hmem
    · exact (h.unsent j (by rw [hpc]; rfl)).1
    · exact h.issued id hmem
  nonempty := h.nonempty

theorem ids_step (h : Ids w) (hs : w.step a = some w') : Ids w' := by
  have htasks : ∀ t : Tasks, Ids { w with tasks := t } := fun t =>
    ⟨h.unsent, h.apart, h.waiting, h.issued, h.nonempty⟩
  cases rpcStep_inv hs with
  | client l t => exact htasks t
  | call j kind method timeout id hfree hid hnew => exact h.call rfl hid hnew
  | register j t hpc =>
    refine (htasks t).setPc (fun _ => ?_) (by simp)
    show (w.rpc j).pc.unsent = true
    rw [hpc]
    rfl
  | send j e hpc => exact h.send hpc
  | go j a pc ha hpc hpc' =>
    obtain ⟨r, rfl⟩ | ⟨r, rfl⟩ := hpc'
    · exact h.setPc (fun hu => nomatch hu) (by simp)
    · exact h.setPc (fun hu => nomatch hu) (by simp)
  | remove j t r => exact (htasks t).setPc (fun hu => nomatch hu) (by simp)

end SootheClient.Client
