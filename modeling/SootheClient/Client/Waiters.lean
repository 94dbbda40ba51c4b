import SootheClient.Client.Sequence
import SootheClient.Client.Wires

/-!
# Waiters of returned calls

A waiter is registered by a call and removed by it, by its reply or by a teardown. Every way out of
`request` removes it; `subscribe` returns at once when its envelope cannot be sent.
-/

namespace SootheClient.Client

open SootheClient.Frame

/-- No call that has returned has a waiter, and there is none when all calls have returned. -/
structure NoLeak (w : Requests) : Prop where
  returned : ∀ j r, (w.rpc j).pc = .returned r → (w.rpc j).id ∉ w.tasks.shared.rpcWaiters
  done : (∀ j, (w.rpc j).pc.free = true) → w.tasks.shared.rpcWaiters = []

/-- A `subscribe` whose envelope cannot be sent has no waiter any more. -/
def SubscribeSends (w : Requests) (a : RpcLabel) : Prop :=
  ∀ j, a = .step j → (w.rpc j).pc = .sending → (w.rpc j).kind = .subscribe →
    w.tasks.writer.isOk = false → (w.rpc j).id ∉ w.tasks.shared.rpcWaiters

/-- Calls have ids of their own, and every waiter is that of a call in progress. -/
structure Attended (w : Requests) : Prop where
  owned : Owned w.tasks
  issued : ∀ j, (w.rpc j).pc ≠ .idle → (w.rpc j).id ∈ w.issued
  apart : ∀ i j, i ≠ j → (w.rpc i).pc ≠ .idle → (w.rpc j).pc ≠ .idle →
    (w.rpc i).id ≠ (w.rpc j).id
  attended : ∀ id ∈ w.tasks.shared.rpcWaiters, ∃ j, (w.rpc j).id = id ∧ (w.rpc j).pc.free = false

variable {w w' : Requests} {a : RpcLabel} {j : ℕ} {t : Tasks} {pc : RpcPc} {n : ℕ}

theorem attended_start : Attended { tasks := Tasks.withConfig n } where
  owned := owned_init
  issued _ h := absurd rfl h
  apart _ _ _ h := absurd rfl h
  attended _ h := nomatch h

theorem not_idle_of_busy (h : pc.free = false) : pc ≠ .idle := by
  rintro rfl
  cases h

/-- With every waiter attended, nothing leaks. -/
theorem Attended.noLeak (h : Attended w) : NoLeak w where
  returned j r hj hin := by
    obtain ⟨k, hid, hbusy⟩ := h.attended _ hin
    have hjk : k ≠ j := by
      rintro rfl
      rw [hj] at hbusy
      cases hbusy
    exact h.apart k j hjk (not_idle_of_busy hbusy) (by rw [hj]; exact fun hc => nomatch hc) hid
  done hfree := by
    refine List.eq_nil_iff_forall_not_mem.2 fun id hid => ?_
    obtain ⟨k, -, hbusy⟩ := h.attended id hid
    rw [hfree k] at hbusy
    cases hbusy

/-- The tasks go on, and no waiter is registered. -/
theorem Attended.tasks (h : Attended w) (ho : Owned t)
    (hsub : ∀ id ∈ t.shared.rpcWaiters, id ∈ w.tasks.shared.rpcWaiters) :
    Attended { w with tasks := t } where
  owned := ho
  issued := h.issued
  apart := h.apart
  attended id hid := h.attended id (hsub id hid)

/-- A call in progress moves; when it returns, its waiter is gone. -/
theorem Attended.setPc (h : Attended w) (hbusy : (w.rpc j).pc.free = false)
    (hgone : pc.free = true → (w.rpc j).id ∉ w.tasks.shared.rpcWaiters) :
    Attended (w.setPc j pc) where
  owned := h.owned
  issued i hi := by
    rw [Requests.setPc_id]
    by_cases hij : i = j
    · rw [hij]
      exact h.issued j (not_idle_of_busy hbusy)
    · rw [Requests.setPc_rpc_ne hij] at hi
      exact h.issued i hi
  apart i k hik hi hk := by
    have hother : ∀ l, ((w.setPc j pc).rpc l).pc ≠ .idle → (w.rpc l).pc ≠ .idle := by
      intro l hl
      by_cases hlj : l = j
      · rw [hlj]
        exact not_idle_of_busy hbusy
      · rwa [Requests.setPc_rpc_ne hlj] at hl
    rw [Requests.setPc_id, Requests.setPc_id]
    exact h.apart i k hik (hother i hi) (hother k hk)
  attended id hid := by
    obtain ⟨k, hk, hkb⟩ := h.attended id hid
    refine ⟨k, by rw [Requests.setPc_id, hk], ?_⟩
    by_cases hkj : k = j
    · subst hkj
      rw [Requests.setPc_rpc_self]
      exact Bool.eq_false_iff.2 fun hfree => hgone hfree (hk ▸ hid)
    · rw [Requests.setPc_rpc_ne hkj]
      exact hkb

/-- A call is made with a new id. -/
theorem Attended.call (h : Attended w) {c : Rpc} (hfree : (w.rpc j).pc.free = true)
    (hnew : c.id ∉ w.issued) :
    Attended ({ w with issued := c.id :: w.issued }.setRpc j c) where
  owned := h.owned
  issued i hi := by
    by_cases hij : i = j
    · rw [hij, Requests.setRpc_rpc_self]
      exact List.mem_cons_self
    · rw [Requests.setRpc_rpc_ne hij] at hi ⊢
      exact List.mem_cons_of_mem _ (h.issued i hi)
  apart i k hik hi hk := by
    by_cases hij : i = j
    · subst hij
      rw [Requests.setRpc_rpc_ne hik.symm] at hk ⊢
      rw [Requests.setRpc_rpc_self]
      exact fun heq => hnew (heq ▸ h.issued k hk)
    · rw [Requests.setRpc_rpc_ne hij] at hi ⊢
      by_cases hkj : k = j
      · subst hkj
        rw [Requests.setRpc_rpc_self]
        exact fun heq => hnew (heq ▸ h.issued i hi)
      · rw [Requests.setRpc_rpc_ne hkj] at hk ⊢
        exact h.apart i k hik hi hk
  attended id hid := by
    obtain ⟨k, hk, hkb⟩ := h.attended id hid
    have hkj : k ≠ j := by
      rintro rfl
      rw [hfree] at hkb
      cases hkb
    exact ⟨k, by rw [Requests.setRpc_rpc_ne hkj]; exact hk,
      by rw [Requests.setRpc_rpc_ne hkj]; exact hkb⟩

theorem setPc_pc_self : ((w.setPc j pc).rpc j).pc = pc := by
  rw [Requests.setPc_rpc_self]

/-- What a send comes to when there is no writer. -/
theorem step_unsent (hpc : (w.rpc j).pc = .sending) (hw : w.tasks.writer.isOk = false) :
    ∃ err, w.step (.step j) = some (w.setPc j ((w.rpc j).onSendError err)) := by
  simp only [Requests.step, Requests.rpcStep, hpc, Requests.send]
  cases hwr : w.tasks.writer with
  | error err => exact ⟨err, rfl⟩
  | ok e =>
    rw [hwr] at hw
    cases hw

/-- A call that returns, and had no waiter to remove, has none. -/
theorem gone_of_returned (hG : SubscribeSends w a) (ha : a = .step j ∨ a = .timeout j)
    (hpc : (w.rpc j).pc = .waiting ∨ (w.rpc j).pc = .sending ∧ w.tasks.writer.isOk = false)
    (hs : w.step a = some (w.setPc j pc)) (hfree : pc.free = true) :
    (w.rpc j).id ∉ w.tasks.shared.rpcWaiters := by
  rcases ha with rfl | rfl
  · rcases hpc with hpc | ⟨hpc, hw⟩
    · intro hin
      simp only [Requests.step, Requests.rpcStep, hpc, if_pos hin] at hs
      cases hs
    · cases hkind : (w.rpc j).kind with
      | subscribe => exact hG j rfl hpc hkind hw
      | request =>
        obtain ⟨err, herr⟩ := step_unsent hpc hw
        have hsame := congrArg (fun w : Requests => (w.rpc j).pc)
          (Option.some.inj (herr.symm.trans hs))
        simp only [setPc_pc_self, Rpc.onSendError, hkind] at hsame
        rw [← hsame] at hfree
        cases hfree
  · have htime : ∃ r, w.setPc j pc = w.setPc j (.removing r) := by
      obtain ⟨r, hr⟩ := onTimeout_cases (w.rpc j)
      simp only [Requests.step, Requests.timeoutStep] at hs
      split at hs
      · split_ifs at hs
        exact ⟨r, by rw [← hr]; exact (Option.some.inj hs).symm⟩
      all_goals cases hs
    obtain ⟨r, hr⟩ := htime
    have hsame := congrArg (fun w : Requests => (w.rpc j).pc) hr
    simp only [setPc_pc_self] at hsame
    rw [hsame] at hfree
    cases hfree

/-- An update registers no waiter. -/
theorem waiters_update {s : Shared} {u : Update} :
    ∀ id ∈ (s.update u).rpcWaiters, id ∈ s.rpcWaiters := by
  intro id hid
  cases u with
  | clearWaiters | failWaiters => cases hid
  | dropWriteTx | setConnected | setReaderAlive | setHandshakeComplete | setReadinessState
    | clearCause | setCause | clearInbound | clearDegraded | setHeartbeatInterval => exact hid

/-- Every step keeps the waiters attended, but for a `subscribe` that cannot send. -/
theorem attended_step (h : Attended w) (hG : SubscribeSends w a) (hs : w.step a = some w') :
    Attended w' := by
  cases rpcStep_inv hs with
  | client l t hl ht =>
    refine h.tasks (h.owned.step ht) fun id hid => ?_
    rcases step_wires h.owned hl ht with hq | ⟨u, rest, hp⟩
    · exact hq.shared.waiters id hid
    · exact waiters_update id (hp.shared ▸ hid)
  | call j kind method timeout id hfree hid hnew => exact h.call hfree hnew
  | register j t hpc ht =>
    have ho := h.owned.step ht
    obtain rfl := Option.some.inj ht
    have hsending : Attended (w.setPc j .sending) :=
      h.setPc (by rw [hpc]; rfl) fun hfree => nomatch hfree
    refine ⟨ho, hsending.issued, hsending.apart, fun id hid => ?_⟩
    rcases List.mem_cons.1 hid with rfl | hid
    · exact ⟨j, Requests.setPc_id, by rw [setPc_pc_self]; rfl⟩
    · exact hsending.attended id (List.mem_of_mem_filter hid)
  | send j e hpc hw =>
    have hsent : Attended { w with sentIds := (w.rpc j).id :: w.sentIds } :=
      ⟨h.owned, h.issued, h.apart, h.attended⟩
    refine hsent.setPc ?_ fun hfree => nomatch hfree
    show (w.rpc j).pc.free = false
    rw [hpc]
    rfl
  | go j a pc ha hpc hpc' =>
    have hbusy : (w.rpc j).pc.free = false := by
      rcases hpc with hpc | ⟨hpc, -⟩
      all_goals rw [hpc]; rfl
    exact h.setPc hbusy fun hfree => gone_of_returned hG ha hpc hs hfree
  | remove j t r hpc ht =>
    have ho := h.owned.step ht
    obtain rfl := Option.some.inj ht
    have htasks := h.tasks ho fun id hid => List.mem_of_mem_filter hid
    refine htasks.setPc ?_ fun _ hin => ?_
    · show (w.rpc j).pc.free = false
      rw [hpc]
      rfl
    · simpa using (List.mem_filter.1 hin).2

/-- **A step leaks** exactly when it is that of a `subscribe` that cannot send. -/
theorem noLeak_iff (h : Attended w) (hs : w.step a = some w') :
    NoLeak w' ↔ SubscribeSends w a := by
  refine ⟨fun hno j ha hpc hkind hw hin => ?_, fun hG => (attended_step h hG hs).noLeak⟩
  subst ha
  obtain ⟨err, herr⟩ := step_unsent hpc hw
  obtain rfl := Option.some.inj (hs.symm.trans herr)
  refine hno.returned j (.error err) ?_ ?_
  · rw [setPc_pc_self, Rpc.onSendError, hkind]
  · rw [Requests.setPc_id]
    exact hin

/-- **No waiter leaks.** In every run of the client with its calls, no step leaves a waiter of a call
that has returned, if and only if no `subscribe` fails to send its envelope while its waiter is
registered. -/
theorem no_waiter_leak (maxInbound : ℕ) (run : List RpcLabel) (w : Requests)
    (h : Lts.exec Requests.step { tasks := Tasks.withConfig maxInbound } run = some w) :
    Lts.Every Requests.step (fun _ _ t => NoLeak t) { tasks := Tasks.withConfig maxInbound } run ↔
      Lts.Guarded Requests.step SubscribeSends { tasks := Tasks.withConfig maxInbound } run :=
  Lts.every_iff_guarded (I := Attended) (H := fun _ _ => True)
    (fun _ _ _ hat _ hG hs => attended_step hat hG hs) (fun _ _ _ hat _ hs => noLeak_iff hat hs)
    attended_start (Lts.guarded_of_forall fun _ _ => trivial) h

/-- A request that is never sent removes its waiter. -/
theorem no_waiter_leak_request : Lts.Every Requests.step (fun _ _ t => NoLeak t)
    { tasks := Tasks.withConfig 8 }
    [.call 0 .request "loop_get" 0 "r", .step 0, .step 0, .step 0] := by
  refine (no_waiter_leak 8 _ _ rfl).2 ?_
  refine Lts.guarded_cons (fun j ha => nomatch ha) rfl (Lts.guarded_cons ?_ rfl
    (Lts.guarded_cons ?_ rfl (Lts.guarded_cons ?_ rfl trivial)))
  all_goals
    rintro j ⟨⟩ _ hkind
    exact absurd hkind (by decide)

/-- A subscription on a client that is not connected fails, and its waiter stays. -/
theorem no_waiter_leak_fails : ¬ ∀ (maxInbound : ℕ) (run : List RpcLabel) (w : Requests),
    Lts.exec Requests.step { tasks := Tasks.withConfig maxInbound } run = some w → NoLeak w := by
  intro h
  have hno := h 8 [.call 0 .subscribe "loop_subscribe" 0 "s", .step 0, .step 0] _ rfl
  exact hno.returned 0 (.error (.protocol "not connected")) rfl List.mem_cons_self

end SootheClient.Client
