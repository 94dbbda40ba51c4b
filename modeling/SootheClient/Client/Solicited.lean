import SootheClient.Client.Stranded

/-!
# Solicited frames

A reply whose id has no waiter falls through to the inbound queue. The waiter goes with the first
reply, with a timeout and with the connection, so a late reply and a second one are queued like
events.
-/

namespace SootheClient.Client

open SootheClient.Frame Tasks

/-- A response or an error. -/
def IsReply (msg : Json) : Prop :=
  msg.getStrD "type" = "response" ∨ msg.getStrD "type" = "error"

instance (msg : Json) : Decidable (IsReply msg) := inferInstanceAs (Decidable (_ ∨ _))

/-- A reply with the id of an envelope that was sent. -/
def Solicited (w : Requests) (msg : Json) : Prop := IsReply msg ∧ msg.getStrD "id" ∈ w.sentIds

instance (w : Requests) (msg : Json) : Decidable (Solicited w msg) :=
  inferInstanceAs (Decidable (_ ∧ _))

namespace ReaderPc

/-- The frame whose waiter is looked up next. -/
def asks : ReaderPc → Option Json
  | .dispatching msg _ => some msg
  | .unspawned | .reading | .routing _ | .acking _ _ _ _ | .enqueueing _ _ | .marking _ => none

/-- The frame that is queued next. -/
def queues : ReaderPc → Option Json
  | .enqueueing msg _ => some msg
  | .unspawned | .reading | .routing _ | .acking _ _ _ _ | .dispatching _ _ | .marking _ => none

end ReaderPc

/-- The envelope is sent next. -/
def RpcPc.sends : RpcPc → Bool
  | .sending => true
  | .idle | .registering | .waiting | .removing _ | .returned _ => false

/-- The step puts a solicited frame into the queue. -/
def Leaks (w : Requests) (a : RpcLabel) : Prop :=
  ∃ e msg, a = .client (.reader e) ∧ msg ∈ (w.tasks.reader e).queues ∧ Solicited w msg ∧
    (e, msg) ∈ (w.tasks.shared.enqueuePendingLocked (e, msg)).inbound

/-- A solicited frame is looked up while its waiter is registered, and no envelope is sent while a
reader is about to queue a reply with its id. -/
def Awaited (w : Requests) : RpcLabel → Prop
  | .client (.reader e) => ∀ msg ∈ (w.tasks.reader e).asks, Solicited w msg →
    msg.getStrD "id" ∈ w.tasks.shared.rpcWaiters
  | .step j => (w.rpc j).pc.sends = true → w.tasks.writer.isOk = true →
    ∀ e < w.tasks.installed, ∀ msg ∈ (w.tasks.reader e).queues, IsReply msg →
      msg.getStrD "id" ≠ (w.rpc j).id
  | _ => True

instance (w : Requests) : ∀ a, Decidable (Awaited w a)
  | .client (.reader e) =>
    inferInstanceAs (Decidable (∀ msg ∈ (w.tasks.reader e).asks, _ → _))
  | .step _ => inferInstanceAs (Decidable (_ = _ → _ = _ → ∀ e < w.tasks.installed,
    ∀ msg ∈ (w.tasks.reader e).queues, _ → _))
  | .client (.call _ _) | .client (.step _ _) | .client (.receive _ _) | .client (.writerDown _)
    | .client (.register _) | .client (.unregister _) | .client .readEvent | .call _ _ _ _ _
    | .timeout _ => isTrue trivial

variable {w w' : Tasks} {e : ℕ} {msg : Json}

/-- A frame that is queued next was so before, or was looked up without success. -/
theorem queues_step {a : Label} (h : w.step a = some w') (hmsg : msg ∈ (w'.reader e).queues) :
    msg ∈ (w.reader e).queues ∨
      a = .reader e ∧ msg ∈ (w.reader e).asks ∧ w.shared.takeWaiter msg = none := by
  have hset : ∀ (t : Tasks) (e' : ℕ) (pc : ReaderPc), t.reader = w.reader → pc.queues = none →
      msg ∈ ((t.setReader e' pc).reader e).queues → msg ∈ (w.reader e).queues := by
    intro t e' pc ht hpc hm
    by_cases hne : e = e'
    · subst hne
      rw [setReader_reader_self, hpc] at hm
      cases hm
    · rw [setReader_reader_ne hne, ht] at hm
      exact hm
  cases taskStep_inv h with
  | call i op hfree =>
    rw [(start_moves hfree).reader] at hmsg
    exact Or.inl hmsg
  | step i event =>
    rcases callStep_cases h with ⟨-, -, rfl⟩ | ⟨e', -, rfl⟩ | hm
    · exact Or.inl hmsg
    · exact Or.inl (hset w e' .reading rfl rfl hmsg)
    · rw [hm.reader] at hmsg
      exact Or.inl hmsg
  | receive e' item hr hs =>
    cases hs with
    | stays sent => exact Or.inl hmsg
    | routes msgs => exact Or.inl (hset w e' (.routing msgs) rfl rfl hmsg)
    | ends => exact Or.inl (hset w e' (.marking _) rfl rfl hmsg)
  | reader e' hs =>
    cases hs with
    | turn | settle | ack | hand | enqueue | mark => exact Or.inl (hset _ e' _ rfl rfl hmsg)
    | route m rest pc seqs hpc hping hpong hnext =>
      refine Or.inl (hset _ e' _ rfl ?_ hmsg)
      rcases hnext with rfl | ⟨loopId, seq, rfl⟩
      · rfl
      · rfl
    | miss m rest hpc hs =>
      by_cases hne : e = e'
      · subst hne
        rw [setReader_reader_self] at hmsg
        obtain rfl : m = msg := Option.some.inj hmsg
        exact Or.inr ⟨rfl, by rw [hpc]; rfl, hs⟩
      · rw [setReader_reader_ne hne] at hmsg
        exact Or.inl hmsg
  | writerDown | register | unregister | readEvent => exact Or.inl hmsg

/-! ## The invariant -/

/-- No reader is about to queue a solicited frame. -/
structure Muxed (cap : ℕ) (r : Requests) : Prop where
  owned : Owned r.tasks
  ids : Ids r
  bound : r.tasks.shared.maxInbound = cap
  queues : ∀ e, ∀ msg ∈ (r.tasks.reader e).queues, ¬ Solicited r msg

variable {r r' : Requests} {a : RpcLabel} {cap : ℕ}

theorem muxed_init : Muxed cap { tasks := withConfig cap } where
  owned := owned_init
  ids := ids_init
  bound := rfl
  queues := by
    intro e msg h
    cases h

theorem maxInbound_step {l : Label} (ho : Owned w) (hl : l.ofRequest = false)
    (h : w.step l = some w') : w'.shared.maxInbound = w.shared.maxInbound := by
  rcases step_wires ho hl h with hq | ⟨u, rest, hp⟩
  · exact hq.shared.maxInbound
  · rw [hp.shared]
    cases u <;> rfl

/-- The waiter of a solicited frame is found when it is registered. -/
theorem takeWaiter_of_solicited (hids : Ids r) (hs : Solicited r msg)
    (hin : msg.getStrD "id" ∈ r.tasks.shared.rpcWaiters) :
    r.tasks.shared.takeWaiter msg ≠ none := by
  have hid := hids.nonempty _ (hids.issued _ hs.2)
  rw [takeWaiter_eq_some.2 ⟨hs.1, hid, hin, rfl⟩]
  exact nofun

/-- What every step but a lookup and a send keeps. -/
theorem Muxed.step (h : Muxed cap r) (hs : r.step a = some r') : Owned r'.tasks ∧ Ids r' ∧
    r'.tasks.shared.maxInbound = cap := by
  have hids := ids_step h.ids hs
  cases rpcStep_inv hs with
  | client l t hl ht =>
    refine ⟨h.owned.step ht, hids, ?_⟩
    rw [maxInbound_step h.owned hl ht]
    exact h.bound
  | call | go | send => exact ⟨h.owned, hids, h.bound⟩
  | register j t hpc ht =>
    have ho := h.owned.step ht
    obtain rfl := Option.some.inj ht
    exact ⟨ho, hids, h.bound⟩
  | remove j t res hpc ht =>
    have ho := h.owned.step ht
    obtain rfl := Option.some.inj ht
    exact ⟨ho, hids, h.bound⟩

/-- A step that meets the condition brings no solicited frame to the queue. -/
theorem muxed_step (h : Muxed cap r) (hG : Awaited r a) (hs : r.step a = some r') :
    Muxed cap r' := by
  obtain ⟨ho, hids, hbound⟩ := h.step hs
  refine ⟨ho, hids, hbound, fun e msg hmsg => ?_⟩
  cases rpcStep_inv hs with
  | client l t hl ht =>
    rcases queues_step ht hmsg with hold | ⟨rfl, hasks, hnone⟩
    · exact h.queues e msg hold
    · intro hsol
      exact takeWaiter_of_solicited h.ids hsol (hG msg hasks hsol) hnone
  | call | go => exact h.queues e msg hmsg
  | register j t hpc ht =>
    obtain rfl := Option.some.inj ht
    exact h.queues e msg hmsg
  | remove j t res hpc ht =>
    obtain rfl := Option.some.inj ht
    exact h.queues e msg hmsg
  | send j e' hpc hw =>
    rintro ⟨hreply, hid⟩
    rcases List.mem_cons.1 hid with hid | hid
    · have he : e < r.tasks.installed := by
        by_contra hge
        have hun := h.owned.fresh e (not_lt.1 hge)
        replace hmsg : msg ∈ (r.tasks.reader e).queues := hmsg
        rw [hun] at hmsg
        cases hmsg
      exact hG (by rw [hpc]; rfl) (by rw [hw]; rfl) e he msg hmsg hreply hid
    · exact h.queues e msg hmsg ⟨hreply, hid⟩

theorem Muxed.not_leaks (h : Muxed cap r) : ¬ Leaks r a := by
  rintro ⟨e, msg, -, hmsg, hsol, -⟩
  exact h.queues e msg hmsg hsol

/-! ## Breaking the condition -/

theorem asks_eq_some {pc : ReaderPc} : pc.asks = some msg ↔ ∃ rest, pc = .dispatching msg rest := by
  constructor
  · intro h
    unfold ReaderPc.asks at h
    split at h
    · obtain rfl := Option.some.inj h
      exact ⟨_, rfl⟩
    all_goals cases h
  · rintro ⟨rest, rfl⟩
    rfl

/-- A lookup without success is followed by the queue. -/
theorem queues_of_lookup (hasks : msg ∈ (w.reader e).asks)
    (hid : msg.getStrD "id" ∉ w.shared.rpcWaiters) (h : w.step (.reader e) = some w') :
    msg ∈ (w'.reader e).queues := by
  obtain ⟨rest, hpc⟩ := asks_eq_some.1 hasks
  have hnone : w.shared.takeWaiter msg = none := by
    cases ht : w.shared.takeWaiter msg with
    | none => rfl
    | some s => exact absurd (takeWaiter_eq_some.1 ht).2.2.1 hid
  have hstep : w.step (.reader e) = some (w.setReader e (.enqueueing msg rest)) := by
    show w.readerStep e = _
    simp only [Tasks.readerStep, hpc, hnone]
  obtain rfl := Option.some.inj (hstep.symm.trans h)
  rw [setReader_reader_self]
  rfl

/-- After a step that breaks the condition, a reader is about to queue a solicited frame. -/
theorem queues_of_not_awaited (hno : ¬ Awaited r a) (hs : r.step a = some r') :
    ∃ e msg, msg ∈ (r'.tasks.reader e).queues ∧ Solicited r' msg := by
  unfold Awaited at hno
  split at hno
  · rename_i e
    push Not at hno
    obtain ⟨msg, hasks, hsol, hid⟩ := hno
    cases rpcStep_inv hs with
    | client l t hl ht => exact ⟨e, msg, queues_of_lookup hasks hid ht, hsol⟩
    | go j a pc ha => rcases ha with ha | ha <;> cases ha
  · rename_i j
    push Not at hno
    obtain ⟨hsends, hok, e, -, msg, hmsg, hreply, hid⟩ := hno
    cases rpcStep_inv hs with
    | send j e' hpc hw => exact ⟨e, msg, hmsg, hreply, hid ▸ List.mem_cons_self⟩
    | register j t hpc | remove j t res hpc =>
      rw [hpc] at hsends
      cases hsends
    | go j a pc ha hpc =>
      rcases hpc with hpc | ⟨-, hfail⟩
      · rcases ha with ha | ha
        · obtain rfl := RpcLabel.step.inj ha
          rw [hpc] at hsends
          cases hsends
        · cases ha
      · rw [hfail] at hok
        cases hok
  · exact absurd trivial hno

/-- The application reads until the queue is empty. -/
theorem drain (r : Requests) : ∃ r',
    Lts.exec Requests.step r (List.replicate r.tasks.shared.inbound.length (.client .readEvent)) =
      some r' ∧ r'.tasks.reader = r.tasks.reader ∧ r'.sentIds = r.sentIds ∧
        r'.tasks.shared.inbound = [] ∧
          r'.tasks.shared.maxInbound = r.tasks.shared.maxInbound := by
  generalize hq : r.tasks.shared.inbound = q
  induction q generalizing r with
  | nil => exact ⟨r, rfl, rfl, rfl, hq, rfl⟩
  | cons ev q ih =>
    have hstep : r.step (.client .readEvent) =
        some { r with
          tasks := { r.tasks with shared := { r.tasks.shared with inbound := q } } } := by
      simp only [Requests.step, Label.ofRequest, Tasks.step, hq]
      rfl
    obtain ⟨r', hr', hreader, hsent, hnil, hmax⟩ := ih
      { r with tasks := { r.tasks with shared := { r.tasks.shared with inbound := q } } } rfl
    refine ⟨r', ?_, hreader, hsent, hnil, hmax⟩
    rw [List.length_cons, List.replicate_succ, Lts.exec_cons_of_step hstep]
    exact hr'

/-- Once the queue has been read, the frame is put into it. -/
theorem leaks_of_queues (hbound : 0 < r.tasks.shared.maxInbound)
    (hmsg : msg ∈ (r.tasks.reader e).queues) (hsol : Solicited r msg) :
    ∃ more r', Lts.exec Requests.step r more = some r' ∧ Leaks r' (.client (.reader e)) := by
  obtain ⟨r', hr', hreader, hsent, hnil, hmax⟩ := drain r
  refine ⟨_, r', hr', e, msg, rfl, by rw [hreader]; exact hmsg, ⟨hsol.1, hsent ▸ hsol.2⟩, ?_⟩
  have hlen : r'.tasks.shared.inbound.length < r'.tasks.shared.maxInbound := by
    rw [hnil, hmax]
    exact hbound
  unfold Shared.enqueuePendingLocked
  rw [if_pos hlen]
  exact List.mem_append_right _ (List.mem_singleton_self _)

/-- **Solicited frames.** In a run in which the waiter is registered whenever a reply to a sent
envelope is looked up, and no envelope is sent while a reply to it is about to be queued, no step
puts a solicited frame into the inbound queue. And a run that leaves the condition can go on to a
step that does, whatever the queue may hold. -/
theorem solicited_stay (maxInbound : ℕ) (run : List RpcLabel) (w : Requests)
    (hG : Lts.Guarded Requests.step Awaited { tasks := withConfig maxInbound } run)
    (hw : Lts.exec Requests.step { tasks := withConfig maxInbound } run = some w) :
    (∀ a, ¬ Leaks w a) ∧ (0 < maxInbound → ∀ a w', ¬ Awaited w a → w.step a = some w' →
      ∃ more w'' b, Lts.exec Requests.step w' more = some w'' ∧ Leaks w'' b) := by
  have hmux : Muxed maxInbound w :=
    Lts.inv_of_guarded (fun _ _ _ h hG hs => muxed_step h hG hs) muxed_init hG hw
  refine ⟨fun a => hmux.not_leaks, fun hcap a w' hno hs => ?_⟩
  obtain ⟨e, msg, hmsg, hsol⟩ := queues_of_not_awaited hno hs
  have hbound : 0 < w'.tasks.shared.maxInbound := by
    rw [(hmux.step hs).2.2]
    exact hcap
  obtain ⟨more, w'', hw'', hleak⟩ := leaks_of_queues hbound hmsg hsol
  exact ⟨more, w'', _, hw'', hleak⟩

/-- A request is sent on a new connection. -/
def requested : List RpcLabel :=
  [.client (.call 0 .connect), .client (.step 0 .next), .client (.step 0 .dialed)] ++
    List.replicate 5 (.client (.step 0 .next)) ++
      [.call 0 .request "loop_get" 0 "r", .step 0, .step 0]

/-- An error reply to it. -/
def errorReply : Json := .obj [("type", .str "error"), ("id", .str "r")]

/-- The connection delivers the reply, and the reader is about to look up its waiter. -/
def replied : List RpcLabel :=
  [.client (.receive 0 (.text (some errorReply))), .client (.reader 0)]

/-- The request times out and removes its waiter. -/
def timedOut : List RpcLabel := [.timeout 0, .step 0]

/-- A reply in time stays on the mux, a late one does not. -/
theorem solicited_stay_replied :
    (∃ w, Lts.exec Requests.step { tasks := withConfig 8 } (requested ++ replied) = some w ∧
      ¬ Leaks w (.client (.reader 0))) ∧
    ∃ w more w' b, Lts.exec Requests.step { tasks := withConfig 8 } (requested ++ timedOut ++
      replied ++ [.client (.reader 0)]) = some w ∧ Lts.exec Requests.step w more = some w' ∧
        Leaks w' b := by
  constructor
  · have hrun : (Lts.exec Requests.step { tasks := withConfig 8 } (requested ++ replied)).map
        (·.sentIds) = some ["r"] := rfl
    obtain ⟨w, hw, -⟩ := Option.map_eq_some_iff.1 hrun
    exact ⟨w, hw, (solicited_stay 8 _ w (by decide +kernel) hw).1 _⟩
  · have hrun : (Lts.exec Requests.step { tasks := withConfig 8 }
        (requested ++ timedOut ++ replied)).map (fun w => (decide (Awaited w (.client (.reader 0))),
          (w.step (.client (.reader 0))).isSome)) = some (false, true) := by decide +kernel
    obtain ⟨w, hw, hpc⟩ := Option.map_eq_some_iff.1 hrun
    obtain ⟨hno, hsome⟩ := Prod.mk.inj hpc
    obtain ⟨w', hs⟩ := Option.isSome_iff_exists.1 hsome
    obtain ⟨more, w'', b, hmore, hleak⟩ := (solicited_stay 8 _ w (by decide +kernel) hw).2
      (by decide) (.client (.reader 0)) w' (of_decide_eq_false hno) hs
    exact ⟨w', more, w'', b, (Lts.exec_concat hw).trans hs, hmore, hleak⟩

/-- The late reply is put into the queue. -/
theorem solicited_stay_fails : ¬ ∀ (maxInbound : ℕ) (run : List RpcLabel) (a : RpcLabel)
    (w : Requests), Lts.exec Requests.step { tasks := withConfig maxInbound } run = some w →
      ¬ Leaks w a := by
  intro h
  have hrun : (Lts.exec Requests.step { tasks := withConfig 8 } (requested ++ timedOut ++ replied ++
      [.client (.reader 0)])).map (fun w => ((w.tasks.reader 0).queues, w.sentIds,
        w.tasks.shared.inbound, w.tasks.shared.maxInbound)) =
      some (some errorReply, ["r"], [], 8) := rfl
  obtain ⟨w, hw, hpc⟩ := Option.map_eq_some_iff.1 hrun
  simp only [Prod.mk.injEq] at hpc
  obtain ⟨hqueues, hsent, hnil, hmax⟩ := hpc
  have hlen : w.tasks.shared.inbound.length < w.tasks.shared.maxInbound := by
    rw [hnil, hmax]
    decide
  refine h 8 _ (.client (.reader 0)) w hw
    ⟨0, errorReply, rfl, hqueues, ⟨Or.inr (by decide), ?_⟩, ?_⟩
  · rw [hsent]
    decide
  · unfold Shared.enqueuePendingLocked
    rw [if_pos hlen]
    exact List.mem_append_right _ (List.mem_singleton_self _)

end SootheClient.Client
