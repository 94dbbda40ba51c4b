import SootheClient.Client.Acks
import SootheClient.Client.Payloads

/-!
# Sequence numbers of acknowledgements

The counter of a loop lives as long as the client, while connections and their readers come and
go. A frame that is acknowledged takes the next number of its loop, and the notification with that
number is attempted next.
-/

namespace SootheClient.Client

open SootheClient.Frame
open Tasks

/-- The numbers that the reader took for a loop and did not attempt to send. -/
def ReaderPc.owed (L : String) : ReaderPc → List ℕ
  | .acking loopId seq _ _ => if loopId = L then [seq] else []
  | _ => []

/-- The reader is between a number and its notification. -/
def ReaderPc.owes : ReaderPc → Bool
  | .acking _ _ _ _ => true
  | _ => false

/-- The frame is acknowledged for the loop. -/
def counted (L : String) (msg : Json) : Bool :=
  msg.getStr "type" ≠ some "ping" && msg.getStr "type" ≠ some "pong" &&
    inboundNeedsDeliveryAck msg && extractLoopIdFromInbound msg = L

namespace Tasks

/-- The number that the last acknowledged frame of a loop took. -/
def lastSeq (w : Tasks) (L : String) : ℕ := (w.shared.deliverySeq.lookup L).getD 0

/-- The frames that a step routes. -/
def arrivals (w : Tasks) : Label → List Json
  | .reader e => (w.reader e).next
  | _ => []

/-- The client with a writer task that takes every message. -/
def writable (w : Tasks) : Tasks :=
  { w with shared := { w.shared with writeTx := some w.installed }, writerUp := fun _ => true }

/-- The number of a `delivery_ack` notification for the loop. -/
def ackSeq (L : String) : ℕ × Outgoing → Option ℕ
  | (_, .deliveryAck loopId seq) => if loopId = L then some seq else none
  | _ => none

/-- The numbers of the `delivery_ack` notifications for a loop that a step attempts: those that it
sends when a writer task takes them. -/
def attempts (L : String) (w : Tasks) (a : Label) : List ℕ :=
  ((step w.writable a).elim [] fun w' => w'.sent.drop w.sent.length).filterMap (ackSeq L)

end Tasks

/-- A reader goes on only when no other one is between a number and its notification. -/
def OneReader (w : Tasks) : Label → Prop
  | .reader e => ∀ e' < w.installed, e' ≠ e → (w.reader e').owes = false
  | _ => True

instance (w : Tasks) : ∀ a, Decidable (OneReader w a)
  | .reader _ => inferInstanceAs (Decidable (∀ e' < w.installed, _ → _))
  | .call _ _ | .step _ _ | .receive _ _ | .writerDown _ | .register _ | .unregister _
    | .readEvent => isTrue trivial

variable {w w' : Tasks} {e e' i : ℕ} {a : Label} {msg : Json} {rest : List Json}
  {L loopId : String} {s : Shared} {pc : ReaderPc}

/-! ## The counters -/

theorem lookup_filter_ne {l : List (String × ℕ)} (h : L ≠ loopId) :
    (l.filter (·.1 != loopId)).lookup L = l.lookup L := by
  induction l with
  | nil => rfl
  | cons p l ih =>
    by_cases hkey : p.1 = loopId
    · have hne : (L == p.1) = false := beq_false_of_ne (hkey ▸ h)
      have hdrop : ¬ (p.1 != loopId) = true := by rw [bne_iff_ne]; exact not_not_intro hkey
      rw [List.filter_cons, if_neg hdrop, ih, List.lookup_cons, hne]
    · have hkeep : (p.1 != loopId) = true := bne_iff_ne.2 hkey
      rw [List.filter_cons, if_pos hkeep, List.lookup_cons, List.lookup_cons, ih]

theorem bump_lookup_self : (s.bumpDeliverySeq L).2.deliverySeq.lookup L =
    some ((s.deliverySeq.lookup L).getD 0 + 1) := List.lookup_cons_self

/-- A number of another loop leaves the counter. -/
theorem bump_lookup_ne (h : L ≠ loopId) :
    (s.bumpDeliverySeq loopId).2.deliverySeq.lookup L = s.deliverySeq.lookup L := by
  unfold Shared.bumpDeliverySeq
  rw [List.lookup_cons, beq_false_of_ne h]
  exact lookup_filter_ne h

theorem update_deliverySeq (s : Shared) (u : Update) :
    (s.update u).deliverySeq = s.deliverySeq := by
  cases u <;> rfl

/-! ## Attempts -/

variable {m : Outgoing} {event : Event} {item : Item}

/-- The step sends no acknowledgement for the loop. -/
def SendsNone (L : String) (w w' : Tasks) : Prop :=
  ∃ sent, w'.sent = w.sent ++ sent ∧ sent.filterMap (ackSeq L) = []

theorem sendsNone_of_eq (h : w'.sent = w.sent) : SendsNone L w w' :=
  ⟨[], by rw [h, List.append_nil], rfl⟩

theorem attempts_nil (h : ∀ w', Tasks.step w.writable a = some w' → SendsNone L w w') :
    w.attempts L a = [] := by
  unfold attempts
  cases hs : Tasks.step w.writable a with
  | none => rfl
  | some w' =>
    obtain ⟨sent, hsent, hnone⟩ := h w' hs
    show (w'.sent.drop w.sent.length).filterMap (ackSeq L) = []
    rw [hsent, List.drop_left, hnone]

/-- A message that is no acknowledgement. -/
theorem sendsNone_sendRaw (h : ∀ e, ackSeq L (e, m) = none) (hs : w'.sent =
    (w.writable.sendRaw m).2.sent) : SendsNone L w w' :=
  ⟨[(w.installed, m)], hs, List.filterMap_cons_none (h _)⟩

/-- The calls send no acknowledgement. -/
theorem sendsNone_callStep (h : w.writable.callStep i event = some w') : SendsNone L w w' := by
  cases callStep_inv h with
  | sendInit e hp => exact sendsNone_sendRaw (m := .connectionInit) (fun _ => rfl) rfl
  | notified sent hp =>
    unfold Tasks.callStep at h
    rw [hp] at h
    exact sendsNone_sendRaw (m := .disconnect) (fun _ => rfl)
      (congrArg Tasks.sent (Option.some.inj h)).symm
  | resume k hp => cases k <;> exact sendsNone_of_eq rfl
  | frame e ev q hp hq =>
    refine sendsNone_of_eq ?_
    unfold onFrame
    cases handshakeVerdict ev.2 <;> rfl
  | connected | dial | dialed | dialFailed | install | update | deadline | retry | wake | notify
  | close => exact sendsNone_of_eq rfl

theorem sendsNone_receive : SendsNone L w (w.writable.receive e item) := by
  cases item with
  | text raw => cases raw <;> exact sendsNone_of_eq rfl
  | ping => exact sendsNone_sendRaw (m := .rawPong) (fun _ => rfl) rfl
  | other | ended => exact sendsNone_of_eq rfl

theorem sendsNone_route : SendsNone L w (w.writable.route e msg rest) := by
  unfold Tasks.route
  simp only
  split_ifs
  · exact sendsNone_sendRaw (m := .pong) (fun _ => rfl) rfl
  · exact sendsNone_of_eq rfl
  · exact sendsNone_of_eq rfl
  · exact sendsNone_of_eq rfl

/-- A reader that owes nothing attempts nothing. -/
theorem sendsNone_reader (hnone : (w.reader e).owes = false)
    (h : w.writable.readerStep e = some w') : SendsNone L w w' := by
  cases readerStep_inv h with
  | route msg rest pc seqs hpc hping hpong hnext =>
    rw [readerStep_routing hpc] at h
    exact Option.some.inj h ▸ sendsNone_route
  | settle msg rest sent hpc htype =>
    rw [readerStep_routing hpc] at h
    exact Option.some.inj h ▸ sendsNone_route
  | ack loopId seq msg rest sent hpc =>
    rw [show w.reader e = _ from hpc] at hnone
    cases hnone
  | hand msg rest s hpc hs =>
    obtain ⟨-, -, -, rfl⟩ := takeWaiter_eq_some.1 hs
    exact sendsNone_of_eq rfl
  | turn hpc | miss msg rest hpc | enqueue msg rest hpc | mark u rest hpc =>
    exact sendsNone_of_eq rfl

/-- A reader attempts the number that it owes. -/
theorem attempts_reader : w.attempts L (.reader e) = (w.reader e).owed L := by
  cases hpc : w.reader e with
  | acking loopId seq msg rest =>
    have hstep := readerStep_acking (w := w.writable) hpc
    unfold attempts
    show ((w.writable.readerStep e).elim [] _).filterMap (ackSeq L) = _
    rw [hstep]
    show ((w.sent ++ [(w.installed, Outgoing.deliveryAck loopId seq)]).drop
      w.sent.length).filterMap (ackSeq L) = if loopId = L then [seq] else []
    rw [List.drop_left]
    by_cases hid : loopId = L
    · rw [if_pos hid]
      exact List.filterMap_cons_some (if_pos hid)
    · rw [if_neg hid]
      exact List.filterMap_cons_none (if_neg hid)
  | unspawned | reading | routing | dispatching | enqueueing | marking =>
    exact attempts_nil fun w' h => sendsNone_reader (by rw [hpc]; rfl) h

/-- **Attempts.** Only a reader attempts an acknowledgement. -/
theorem attempts_other (h : ∀ e, a ≠ .reader e) : w.attempts L a = [] := by
  refine attempts_nil fun w' hs => ?_
  cases a with
  | reader e => exact absurd rfl (h e)
  | step i event => exact sendsNone_callStep hs
  | receive e item =>
    unfold Tasks.step at hs
    simp only at hs
    split at hs
    · exact Option.some.inj hs ▸ sendsNone_receive
    · cases hs
  | call i op =>
    cases taskStep_inv hs with
    | call i op hfree => cases op <;> exact sendsNone_of_eq rfl
  | writerDown | register | unregister | readEvent =>
    cases taskStep_inv hs
    exact sendsNone_of_eq rfl

/-! ## Steps -/

theorem counted_iff : counted L msg = true ↔ msg.getStr "type" ≠ some "ping" ∧
    msg.getStr "type" ≠ some "pong" ∧ inboundNeedsDeliveryAck msg = true ∧
      extractLoopIdFromInbound msg = L := by
  unfold counted
  simp only [Bool.and_eq_true, decide_eq_true_eq, and_assoc]

/-- What a step does to the counter of a loop and to the numbers that the readers owe. -/
inductive Counting (L : String) (w : Tasks) : Label → Tasks → Prop
  /-- A frame of the loop takes the next number. -/
  | takes (e : ℕ) (msg : Json) (rest : List Json) (hpc : w.reader e = .routing (msg :: rest))
      (hc : counted L msg = true) : Counting L w (.reader e)
        ({ w with shared := (w.shared.bumpDeliverySeq L).2 }.setReader e
          (.acking L (w.lastSeq L + 1) msg rest))
  /-- A reader does something else, and owes nothing then. -/
  | passes (e : ℕ) {w' : Tasks} (hc : (w.reader e).next.countP (counted L) = 0)
      (hseq : w'.shared.deliverySeq.lookup L = w.shared.deliverySeq.lookup L)
      (hown : (w'.reader e).owed L = []) (hothers : ∀ e', e' ≠ e → w'.reader e' = w.reader e') :
      Counting L w (.reader e) w'
  | rests {a : Label} {w' : Tasks} (ha : w.arrivals a = []) (hatt : w.attempts L a = [])
      (hseq : w'.shared.deliverySeq.lookup L = w.shared.deliverySeq.lookup L)
      (howed : ∀ e, (w'.reader e).owed L = (w.reader e).owed L) : Counting L w a w'

/-- A call leaves the counters, and what the readers owe. -/
theorem callStep_deliverySeq {event : Event} (h : CallStep w i event w') :
    w'.shared.deliverySeq = w.shared.deliverySeq := by
  cases h with
  | update u rest k hp => exact update_deliverySeq w.shared u
  | resume k hp => cases k <;> rfl
  | sendInit e hp =>
    obtain ⟨sent, p, -, heq⟩ := sendInit_eq (w := w) (i := i) (e := e)
    rw [heq]
    rfl
  | frame e ev q hp hq =>
    unfold onFrame
    cases handshakeVerdict ev.2 <;> rfl
  | connected | dial | dialed | dialFailed | install | deadline | retry | wake | notify | close
  | notified => rfl

theorem owed_setReader (hr : (w.reader e).owed L = []) (hpc : pc.owed L = []) (e' : ℕ) :
    ((w.setReader e pc).reader e').owed L = (w.reader e').owed L := by
  by_cases hne : e' = e
  · rw [hne, setReader_reader_self, hpc, hr]
  · rw [setReader_reader_ne hne]

theorem counting_call {event : Event} (ho : Owned w) (h : CallStep w i event w')
    (hs : w.callStep i event = some w') : Counting L w (.step i event) w' := by
  refine .rests rfl (attempts_other (by simp)) (by rw [callStep_deliverySeq h]) fun e => ?_
  rcases callStep_cases hs with ⟨-, -, rfl⟩ | ⟨e', hp, rfl⟩ | hm
  · rfl
  · have hun := (ho.spawning i [] e' (spawns_eq_some.2 hp)).2
    rw [setPc_reader]
    exact owed_setReader (by rw [hun]; rfl) rfl e
  · rw [hm.reader]

/-- A step of a reader that routes no frame of the loop. -/
theorem passes_of {t : Tasks} (ht : t.reader = w.reader)
    (hseq : t.shared.deliverySeq.lookup L = w.shared.deliverySeq.lookup L)
    (hc : (w.reader e).next.countP (counted L) = 0) (hpc : pc.owed L = []) :
    Counting L w (.reader e) (t.setReader e pc) := by
  refine .passes e hc hseq ?_ fun e' hne => ?_
  · rw [setReader_reader_self, hpc]
  · rw [setReader_reader_ne hne, ht]

/-- A frame is counted for its loop, and for no other. -/
theorem counting_route (hL : L ≠ "") (hpc : w.reader e = .routing (msg :: rest))
    (hping : msg.getStr "type" ≠ some "ping") (hpong : msg.getStr "type" ≠ some "pong") :
    Counting L w (.reader e) (w.route e msg rest) := by
  have hcount : counted L msg = false → (w.reader e).next.countP (counted L) = 0 := by
    intro hc
    rw [hpc]
    exact List.countP_eq_zero.2 fun m hm => by
      rw [List.mem_singleton.1 hm, hc]
      exact Bool.false_ne_true
  rw [route_eq w e rest hping hpong]
  split_ifs with hack
  · by_cases hid : extractLoopIdFromInbound msg = L
    · rw [hid]
      exact .takes e msg rest hpc (counted_iff.2 ⟨hping, hpong, hack.1, hid⟩)
    · refine passes_of rfl (bump_lookup_ne (Ne.symm hid)) (hcount ?_) (if_neg hid)
      exact Bool.eq_false_iff.2 fun hc => hid (counted_iff.1 hc).2.2.2
  · refine passes_of rfl rfl (hcount ?_) rfl
    refine Bool.eq_false_iff.2 fun hc => hack ?_
    obtain ⟨-, -, hneeds, hid⟩ := counted_iff.1 hc
    exact ⟨hneeds, hid ▸ hL⟩

/-- **Reader steps.** -/
theorem counting_reader (hL : L ≠ "") (h : w.readerStep e = some w') :
    Counting L w (.reader e) w' := by
  cases readerStep_inv h with
  | route msg rest pc seqs hpc hping hpong hnext =>
    rw [readerStep_routing hpc] at h
    rw [← Option.some.inj h]
    exact counting_route hL hpc hping hpong
  | turn hpc => exact passes_of rfl rfl (by rw [hpc]; rfl) rfl
  | settle msg rest sent hpc htype =>
    refine passes_of rfl rfl ?_ rfl
    rw [hpc]
    refine List.countP_eq_zero.2 fun m hm hc => ?_
    obtain ⟨hping, hpong, -⟩ := counted_iff.1 hc
    rw [List.mem_singleton.1 hm] at hping hpong
    exact htype.elim hping hpong
  | ack loopId seq msg rest sent hpc => exact passes_of rfl rfl (by rw [hpc]; rfl) rfl
  | hand msg rest s hpc hs =>
    obtain ⟨-, -, -, rfl⟩ := takeWaiter_eq_some.1 hs
    exact passes_of rfl rfl (by rw [hpc]; rfl) rfl
  | miss msg rest hpc => exact passes_of rfl rfl (by rw [hpc]; rfl) rfl
  | enqueue msg rest hpc =>
    obtain ⟨q, b, heq, -⟩ := enqueue_eq w.shared (e, msg)
    rw [heq]
    exact passes_of rfl rfl (by rw [hpc]; rfl) rfl
  | mark u rest hpc =>
    refine passes_of rfl ?_ (by rw [hpc]; rfl) rfl
    rw [update_deliverySeq]

/-- **Steps.** -/
theorem step_counting (ho : Owned w) (hL : L ≠ "") (h : Tasks.step w a = some w') :
    Counting L w a w' := by
  cases taskStep_inv h with
  | step i event hs => exact counting_call ho hs h
  | reader e => exact counting_reader hL h
  | call i op hfree =>
    refine .rests rfl (attempts_other (by simp)) ?_ fun e => ?_
    · cases op <;> rfl
    · rw [(start_moves hfree).reader]
  | receive e item hr hs =>
    have hatt : w.attempts L (.receive e item) = [] := attempts_other (by simp)
    cases hs with
    | stays sent => exact .rests rfl hatt rfl fun _ => rfl
    | routes msgs => exact .rests rfl hatt rfl (owed_setReader (by rw [hr]; rfl) rfl)
    | ends => exact .rests rfl hatt rfl (owed_setReader (by rw [hr]; rfl) rfl)
  | writerDown | register | unregister | readEvent =>
    exact .rests rfl (attempts_other (by simp)) rfl fun _ => rfl

/-! ## Runs -/

/-- The numbers attempted so far and the one that is owed are all that were taken, in order. -/
def Gapless (L : String) (attempted : List ℕ) (w : Tasks) : Prop :=
  ∃ e, attempted ++ (w.reader e).owed L = List.range' 1 (w.lastSeq L) ∧
    ∀ e', e' ≠ e → (w.reader e').owed L = []

theorem owed_of_owes (h : pc.owes = false) : pc.owed L = [] := by
  cases pc with
  | acking loopId seq msg rest => cases h
  | unspawned | reading | routing | dispatching | enqueueing | marking => rfl

/-- Beside a reader that goes on no other one owes a number. -/
theorem OneReader.others (ho : Owned w) (h : OneReader w (.reader e)) (hne : e' ≠ e) :
    (w.reader e').owed L = [] := by
  by_cases hlt : e' < w.installed
  · exact owed_of_owes (h e' hlt hne)
  · rw [ho.fresh e' (not_lt.1 hlt)]
    rfl

/-- A reader that goes on attempts what is owed. -/
theorem Gapless.attempts {l : List ℕ} (ho : Owned w) (h : Gapless L l w)
    (hone : OneReader w (.reader e)) :
    l ++ (w.reader e).owed L = List.range' 1 (w.lastSeq L) := by
  obtain ⟨e₀, heq, hothers⟩ := h
  by_cases hne : e = e₀
  · rw [hne]
    exact heq
  · rw [hone.others ho (Ne.symm hne)] at heq
    rw [hothers e hne]
    exact heq

theorem gapless_step {l : List ℕ} (ho : Owned w) (hL : L ≠ "") (h : Gapless L l w)
    (hone : OneReader w a) (hs : Tasks.step w a = some w') :
    Gapless L (l ++ w.attempts L a) w' := by
  cases step_counting ho hL hs with
  | takes e msg rest hpc hc =>
    have hnext : (({ w with shared := (w.shared.bumpDeliverySeq L).2 }.setReader e
        (.acking L (w.lastSeq L + 1) msg rest)).lastSeq L) = w.lastSeq L + 1 := by
      unfold lastSeq
      rw [setReader_shared, bump_lookup_self, Option.getD_some]
    have howed : (ReaderPc.acking L (w.lastSeq L + 1) msg rest).owed L = [w.lastSeq L + 1] :=
      if_pos rfl
    refine ⟨e, ?_, fun e' hne => ?_⟩
    · rw [hnext, setReader_reader_self, howed, List.range'_1_concat, Nat.add_comm 1,
        ← h.attempts ho hone, attempts_reader]
    · have hnone : (w.reader e').owed L = [] := hone.others ho hne
      rw [setReader_reader_ne hne]
      exact hnone
  | passes e hc hseq hown hothers =>
    refine ⟨e, ?_, fun e' hne => ?_⟩
    · unfold lastSeq
      rw [hown, List.append_nil, hseq, attempts_reader]
      exact h.attempts ho hone
    · rw [hothers e' hne]
      exact hone.others ho hne
  | rests ha hatt hseq howed =>
    obtain ⟨e, heq, hothers⟩ := h
    refine ⟨e, ?_, fun e' hne => ?_⟩
    · unfold lastSeq
      rw [hatt, List.append_nil, howed, hseq]
      exact heq
    · rw [howed, hothers e' hne]

/-- The counter is the number of the frames that were counted. -/
theorem lastSeq_step (ho : Owned w) (hL : L ≠ "") (hs : Tasks.step w a = some w') :
    w'.lastSeq L = w.lastSeq L + (w.arrivals a).countP (counted L) := by
  unfold lastSeq
  cases step_counting ho hL hs with
  | takes e msg rest hpc hc =>
    have harr : w.arrivals (.reader e) = [msg] := by
      show (w.reader e).next = [msg]
      rw [hpc]
      rfl
    rw [setReader_shared, bump_lookup_self, Option.getD_some, harr, List.countP_singleton,
      if_pos hc]
  | passes e hc hseq =>
    rw [hseq]
    exact (congrArg (_ + ·) hc).symm
  | rests ha hatt hseq =>
    rw [hseq, ha]
    rfl

/-- **Steps of other loops.** -/
theorem lookup_step (ho : Owned w) (hL : L ≠ "") (hs : Tasks.step w a = some w')
    (hc : (w.arrivals a).countP (counted L) = 0) :
    w'.shared.deliverySeq.lookup L = w.shared.deliverySeq.lookup L := by
  cases step_counting ho hL hs with
  | takes e msg rest hpc hcount =>
    have hmem : msg ∈ w.arrivals (.reader e) := by
      show msg ∈ (w.reader e).next
      rw [hpc]
      exact List.mem_singleton_self msg
    exact absurd hcount (List.countP_eq_zero.1 hc msg hmem)
  | passes e hzero hseq => exact hseq
  | rests ha hatt hseq => exact hseq

/-- **Gapless acknowledgements.** While one reader at a time routes, over any number of connections,
the notifications for a loop carry 1, 2, 3 and so on, one for each frame that is acknowledged for
the loop; the last of them may be owed. Nothing else changes the counter of the loop. -/
theorem delivery_acks_gapless (maxInbound : ℕ) (L : String) (run : List Label) (w : Tasks)
    (hL : L ≠ "")
    (hone : Lts.Guarded Tasks.step OneReader (withConfig maxInbound) run)
    (hrun : Lts.exec Tasks.step (withConfig maxInbound) run = some w) :
    (∃ e, Lts.collect Tasks.step (Tasks.attempts L) (withConfig maxInbound) run ++
        (w.reader e).owed L = List.range' 1 ((Lts.collect Tasks.step Tasks.arrivals
          (withConfig maxInbound) run).countP (counted L)) ∧
      ∀ e', e' ≠ e → (w.reader e').owed L = []) ∧
    ∀ a w', Tasks.step w a = some w' → (w.arrivals a).countP (counted L) = 0 →
      w'.shared.deliverySeq.lookup L = w.shared.deliverySeq.lookup L := by
  have ho := Lts.inv_of_exec (fun _ _ _ ho hs => ho.step hs) owned_init hrun
  have hcount : Owned w ∧ w.lastSeq L = (Lts.collect Tasks.step Tasks.arrivals
      (withConfig maxInbound) run).countP (counted L) := by
    refine Lts.collect_inv (G := fun _ _ => True) (l := [])
      (I := fun l w => Owned w ∧ w.lastSeq L = l.countP (counted L))
      (fun l s a t hI _ hs => ⟨hI.1.step hs, ?_⟩) ⟨owned_init, rfl⟩
      (Lts.guarded_of_forall fun _ _ => trivial) hrun
    rw [lastSeq_step hI.1 hL hs, hI.2, List.countP_append]
  have hgapless : Owned w ∧ Gapless L (Lts.collect Tasks.step (Tasks.attempts L)
      (withConfig maxInbound) run) w :=
    Lts.collect_inv (l := []) (I := fun l w => Owned w ∧ Gapless L l w)
      (fun l s a t hI hG hs => ⟨hI.1.step hs, gapless_step hI.1 hL hI.2 hG hs⟩)
      ⟨owned_init, 0, rfl, fun _ _ => rfl⟩ hone hrun
  obtain ⟨e, heq, hothers⟩ := hgapless.2
  rw [hcount.2] at heq
  exact ⟨⟨e, heq, hothers⟩, fun a w' hs hc => lookup_step ho hL hs hc⟩

/-- Frames of two loops in a batch. -/
def ackedBatch : Json :=
  .obj [("type", .str "event_batch"), ("events", .arr [completeFrame "loop_id" "loop-1",
    completeFrame "loop_id" "loop-2", completeFrame "loop_id" "loop-1"])]

/-- A first connection is made. -/
def ackedDial : List Label :=
  [.call 0 .connect, .step 0 .next, .step 0 .dialed] ++ List.replicate 6 (.step 0 .next)

/-- The first connection is lost, and a second one made. -/
def ackedRedial : List Label :=
  (.receive 0 .ended :: List.replicate 5 (.reader 0)) ++
    (.call 1 .reconnect :: List.replicate 11 (.step 1 .next)) ++
    (.step 1 .dialed :: List.replicate 6 (.step 1 .next))

/-- The first reader routes the batch, and the second one routes a frame. -/
def ackedRun : List Label :=
  ackedDial ++ (.receive 0 (.text (some ackedBatch)) :: List.replicate 13 (.reader 0)) ++
    ackedRedial ++
    (.receive 1 (.text (some (completeFrame "loop_id" "loop-1"))) :: List.replicate 2 (.reader 1))

theorem delivery_acks_gapless_reconnect : ∃ w e,
    Lts.exec Tasks.step (withConfig 8) ackedRun = some w ∧
    Lts.collect Tasks.step (Tasks.attempts "loop-1") (withConfig 8) ackedRun ++
      (w.reader e).owed "loop-1" = List.range' 1 3 := by
  have hrun : (Lts.exec Tasks.step (withConfig 8) ackedRun).isSome = true := by decide +kernel
  obtain ⟨w, hw⟩ := Option.isSome_iff_exists.1 hrun
  have hone : Lts.Guarded Tasks.step OneReader (withConfig 8) ackedRun := by decide +kernel
  obtain ⟨⟨e, heq, -⟩, -⟩ := delivery_acks_gapless 8 "loop-1" ackedRun w (by decide) hone hw
  have hcount : (Lts.collect Tasks.step Tasks.arrivals (withConfig 8) ackedRun).countP
      (counted "loop-1") = 3 := by decide +kernel
  rw [hcount] at heq
  exact ⟨w, e, hw, heq⟩

end SootheClient.Client
