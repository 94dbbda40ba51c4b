import SootheClient.Client.Wires

/-!
# Requests on a dead connection

Every teardown drops the sender before it drains the waiters. So whenever there is no sender, a
waiter of a sent request is one that some task is about to drain.
-/

namespace SootheClient.Client

/-- Without a sender, a waiter of a sent request is about to be drained. -/
structure Swept (w : Requests) : Prop where
  owned : Owned w.tasks
  ids : Ids w
  tidy : ∀ rest, Pending w.tasks rest → Tidy rest
  drained : w.tasks.shared.writeTx = none → ∀ id ∈ w.sentIds,
    id ∈ w.tasks.shared.rpcWaiters → Tearing w.tasks

theorem swept_init : Swept {} where
  owned := owned_init
  ids := ids_init
  tidy := by
    rintro rest (⟨e, he⟩ | ⟨i, k, hi⟩)
    · cases he
    · cases hi
  drained := by
    intro _ id hid
    cases hid

variable {r r' : Requests} {a : RpcLabel} {u : Update} {rest : List Update}

theorem Swept.quiet (h : Swept r) {t : Tasks} (ho : Owned t) (hq : Quiet r.tasks t)
    (hids : Ids { r with tasks := t }) : Swept { r with tasks := t } where
  owned := ho
  ids := hids
  tidy rest hp := by
    rcases hq.begun rest hp with hp | ht
    · exact h.tidy rest hp
    · exact ht
  drained hn id hid hin :=
    (h.drained (hq.shared.writeTx hn) id hid (hq.shared.waiters id hin)).quiet hq

theorem Swept.performs (h : Swept r) {t : Tasks} (ho : Owned t)
    (hp : Performs r.tasks t u rest) (hids : Ids { r with tasks := t }) :
    Swept { r with tasks := t } where
  owned := ho
  ids := hids
  tidy l hl := by
    rcases hp.begun l hl with hl | rfl
    · exact h.tidy l hl
    · exact (h.tidy _ hp.before).2
  drained := by
    intro hn id hid hin
    replace hn : t.shared.writeTx = none := hn
    replace hin : id ∈ t.shared.rpcWaiters := hin
    rw [hp.shared] at hn hin
    cases hu : u.drains with
    | true =>
      rw [update_drains hu] at hin
      cases hin
    | false =>
      by_cases hdrop : u = .dropWriteTx
      · exact ⟨rest, hp.after, (h.tidy _ hp.before).1 hdrop⟩
      · obtain ⟨htx, hwait⟩ := update_wires (s := r.tasks.shared) hdrop hu
        rw [htx] at hn
        rw [hwait] at hin
        exact (h.drained hn id hid hin).performs hp hu

/-- A step that leaves the tasks and the sent ids as they are. -/
theorem Swept.congr (h : Swept r) (ht : r'.tasks = r.tasks) (hsent : r'.sentIds = r.sentIds)
    (hids : Ids r') : Swept r' where
  owned := ht ▸ h.owned
  ids := hids
  tidy := by
    rw [ht]
    exact h.tidy
  drained := by
    rw [ht, hsent]
    exact h.drained

/-- Every step keeps the waiters of sent requests swept. -/
theorem swept_step (h : Swept r) (hs : r.step a = some r') : Swept r' := by
  have hids := ids_step h.ids hs
  cases rpcStep_inv hs with
  | client l t hl ht =>
    rcases step_wires h.owned hl ht with hq | ⟨u, rest, hp⟩
    · exact h.quiet (h.owned.step ht) hq hids
    · exact h.performs (h.owned.step ht) hp hids
  | call => exact h.congr rfl rfl hids
  | go => exact h.congr rfl rfl hids
  | register j t hpc ht =>
    obtain ⟨-, hnew⟩ := h.ids.unsent j (by rw [hpc]; rfl)
    have ho := h.owned.step ht
    obtain rfl := Option.some.inj ht
    refine ⟨ho, hids, h.tidy, fun hn id hid hin => h.drained hn id hid ?_⟩
    rcases List.mem_cons.1 hin with rfl | hin
    · exact absurd hid hnew
    · exact List.mem_of_mem_filter hin
  | send j e hpc hw =>
    refine ⟨h.owned, hids, h.tidy, fun hn => ?_⟩
    replace hn : r.tasks.shared.writeTx = none := hn
    unfold Tasks.writer at hw
    rw [hn] at hw
    cases hw
  | remove j t res hpc ht =>
    have ho := h.owned.step ht
    obtain rfl := Option.some.inj ht
    exact ⟨ho, hids, h.tidy, fun hn id hid hin =>
      h.drained hn id hid (List.mem_of_mem_filter hin)⟩

/-- **No stranded request.** In every run of requests, dials and teardowns: when there is no sender
and no `mark_disconnected` or `reconnect` is in progress, no request whose envelope was sent has a
waiter, and every call that waits can go on without its timeout. -/
theorem no_stranded_request (run : List RpcLabel) (w : Requests)
    (h : Lts.exec Requests.step {} run = some w) (hdown : w.tasks.shared.writeTx = none)
    (hidle : ¬ Tearing w.tasks) :
    (∀ id ∈ w.sentIds, id ∉ w.tasks.shared.rpcWaiters) ∧
      ∀ j, (w.rpc j).pc = .waiting → (w.step (.step j)).isSome := by
  have hsw : Swept w := Lts.inv_of_exec (fun _ _ _ => swept_step) swept_init h
  have hout : ∀ id ∈ w.sentIds, id ∉ w.tasks.shared.rpcWaiters := fun id hid hin =>
    hidle (hsw.drained hdown id hid hin)
  refine ⟨hout, fun j hj => ?_⟩
  simp only [Requests.step, Requests.rpcStep, hj, if_neg (hout _ (hsw.ids.waiting j hj))]
  rfl

/-- A request is sent on a new connection, which is closed before the daemon replies. -/
def closedEarly : List RpcLabel :=
  [.client (.call 0 .connect), .client (.step 0 .next), .client (.step 0 .dialed),
    .client (.step 0 .next), .call 0 .request "loop_get" 0 "r", .step 0, .step 0,
    .client (.call 1 .close)] ++ List.replicate 9 (.client (.step 1 .next))

theorem no_stranded_request_close : ∃ w, Lts.exec Requests.step {} closedEarly = some w ∧
    (w.rpc 0).pc.unsent = false ∧ w.sentIds = ["r"] ∧
      ∀ id ∈ w.sentIds, id ∉ w.tasks.shared.rpcWaiters := by
  have hrun : (Lts.exec Requests.step {} closedEarly).map (fun w => (w.tasks.shared.writeTx,
      w.sentIds, (w.rpc 0).pc.unsent, w.tasks.reader, (w.tasks.call 0).pc, (w.tasks.call 1).pc,
      fun i => w.tasks.call (i + 2))) =
    some (none, ["r"], false, fun _ => .unspawned, .updating publishUpdates (.spawn 0),
      .updating [] .ok, fun _ => {}) := rfl
  obtain ⟨w, hw, hpc⟩ := Option.map_eq_some_iff.1 hrun
  simp only [Prod.mk.injEq] at hpc
  obtain ⟨htx, hsent, hun, hreader, h0, h1, hcall⟩ := hpc
  refine ⟨w, hw, hun, hsent, (no_stranded_request closedEarly w hw htx ?_).1⟩
  rintro ⟨rest, ⟨e, he⟩ | ⟨i, k, hi⟩, hd⟩
  · rw [hreader] at he
    cases he
  · rcases i with _ | _ | i
    · rw [h0] at hi
      obtain ⟨rfl, -⟩ := Pc.updating.inj hi
      cases hd
    · rw [h1] at hi
      obtain ⟨rfl, -⟩ := Pc.updating.inj hi
      cases hd
    · rw [congrFun hcall i] at hi
      cases hi

end SootheClient.Client
