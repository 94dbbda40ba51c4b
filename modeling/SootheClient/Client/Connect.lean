import SootheClient.Client.Handshake

/-!
# What a `connect` that returns has done

Orderly steps keep the invariant, so in an orderly run every `connect` that returns `Ok` completed
the handshake on the newest connection, and every one that fails leaves the client disconnected.
After such a run the first step that is not orderly leads, by the steps of the call alone, to a
return that breaks this.
-/

namespace SootheClient.Client

open Tasks

variable {w w' : Tasks} {e : ℕ} {a : Label} {err : Error} {msg : Json}

/-! ## The verdict on a frame -/

theorem verdict_ack (h : msg.getStr "type" = some "connection_ack") : handshakeVerdict msg =
    if readinessText msg = "starting" ∨ readinessText msg = "warming" then .resend
    else if readinessText msg = "ready" ∨ readinessText msg = "" then .accept (readinessText msg)
    else .fail (.protocol s!"connection_ack readiness_state={readinessText msg}") := by
  have ht : msg.getStrD "type" = "connection_ack" := by
    unfold Json.getStrD
    rw [h]
    rfl
  unfold handshakeVerdict
  simp only [ht, String.reduceEq, if_false, if_true]
  rfl

theorem verdict_error (h : msg.getStr "type" = some "error") : handshakeVerdict msg =
    if -32003 ≤ (parseDaemonError msg).code ∧ (parseDaemonError msg).code ≤ -32001 then .resend
    else .fail (.daemon (parseDaemonError msg)) := by
  have ht : msg.getStrD "type" = "error" := by
    unfold Json.getStrD
    rw [h]
    rfl
  unfold handshakeVerdict
  simp only [ht, String.reduceEq, if_false, if_true]

theorem verdict_other (hack : msg.getStr "type" ≠ some "connection_ack")
    (herr : msg.getStr "type" ≠ some "error") : handshakeVerdict msg = .ignore := by
  have hne : ∀ t, t ≠ "" → msg.getStr "type" ≠ some t → msg.getStrD "type" ≠ t := by
    intro t ht hn heq
    unfold Json.getStrD at heq
    cases hs : msg.getStr "type" with
    | none =>
      rw [hs] at heq
      exact ht heq.symm
    | some t' =>
      rw [hs] at heq hn
      exact hn (congrArg some heq)
  unfold handshakeVerdict
  simp only [hne "error" (by decide) herr, hne "connection_ack" (by decide) hack, if_false, ite_self]

/-- The frames on which a handshake ends with success. -/
theorem accepts_iff : Accepts msg = true ↔ ∃ state, handshakeVerdict msg = .accept state := by
  unfold Accepts
  by_cases hack : msg.getStr "type" = some "connection_ack"
  · rw [verdict_ack hack, decide_eq_true hack, Bool.true_and]
    simp only [Bool.or_eq_true, decide_eq_true_iff]
    constructor
    · intro h
      refine ⟨readinessText msg, ?_⟩
      rw [if_neg (by rcases h with h | h <;> rw [h] <;> decide), if_pos h]
    · rintro ⟨state, h⟩
      split_ifs at h with _ h'
      exact h'
  · refine iff_of_false (by rw [decide_eq_false hack]; exact Bool.false_ne_true) ?_
    rintro ⟨state, h⟩
    by_cases herr : msg.getStr "type" = some "error"
    · rw [verdict_error herr] at h
      split_ifs at h
    · rw [verdict_other hack herr] at h
      cases h

/-- The frames on which it fails. -/
theorem rejects_iff : Rejects msg = true ↔ ∃ err, handshakeVerdict msg = .fail err := by
  unfold Rejects
  by_cases hack : msg.getStr "type" = some "connection_ack"
  · rw [verdict_ack hack, decide_eq_true hack, hack]
    simp only [Option.some.injEq, String.reduceEq, decide_false, Bool.false_and, Bool.true_and,
      Bool.false_or, List.contains_eq_mem, List.mem_cons, List.not_mem_nil, or_false,
      Bool.not_eq_true', decide_eq_false_iff_not, not_or]
    constructor
    · rintro ⟨h1, h2, h3, h4⟩
      rw [if_neg (not_or.2 ⟨h1, h2⟩), if_neg (not_or.2 ⟨h3, h4⟩)]
      exact ⟨_, rfl⟩
    · rintro ⟨err, h⟩
      split_ifs at h with h1 h2
      exact ⟨(not_or.1 h1).1, (not_or.1 h1).2, (not_or.1 h2).1, (not_or.1 h2).2⟩
  · rw [decide_eq_false hack, Bool.false_and, Bool.or_false]
    by_cases herr : msg.getStr "type" = some "error"
    · rw [verdict_error herr, decide_eq_true herr, Bool.true_and, Bool.not_eq_true']
      rw [Bool.and_eq_false_iff, decide_eq_false_iff_not, decide_eq_false_iff_not, ← not_and_or]
      constructor
      · intro h
        rw [if_neg h]
        exact ⟨_, rfl⟩
      · rintro ⟨err, h⟩
        split_ifs at h with h'
        exact h'
    · refine iff_of_false (by rw [decide_eq_false herr]; exact Bool.false_ne_true) ?_
      rintro ⟨err, h⟩
      rw [verdict_other hack herr] at h
      cases h

/-- An accepted frame that is not vague is ready, or says nothing about it. -/
theorem readyAck_of_accepts (h : Accepts msg = true) (hv : Vague msg = false) : ReadyAck msg := by
  unfold Accepts at h
  rw [Bool.and_eq_true, decide_eq_true_iff, Bool.or_eq_true, decide_eq_true_iff,
    decide_eq_true_iff] at h
  obtain ⟨hack, htext⟩ := h
  refine ⟨hack, ?_⟩
  unfold Vague at hv
  rw [decide_eq_true hack, Bool.true_and] at hv
  unfold readinessText at htext
  cases hr : readinessState msg with
  | none => exact .inl rfl
  | some v =>
    rw [hr] at hv htext
    have hfull : ¬ v.asStr?.getD "" = "" := of_decide_eq_false hv
    have hready : v.asStr?.getD "" = "ready" := htext.resolve_right hfull
    cases v with
    | str t => exact .inr (congrArg (some ∘ Json.str) hready)
    | null | bool | num | arr | obj => exact absurd hready (show ¬ "" = "ready" by decide)

theorem accepts_of_vague (h : Vague msg = true) : Accepts msg = true ∧ ¬ ReadyAck msg := by
  unfold Vague at h
  rw [Bool.and_eq_true, decide_eq_true_iff] at h
  obtain ⟨hack, hr⟩ := h
  obtain ⟨v, hv, hempty⟩ := (Option.any_eq_true _ _).1 hr
  have htext : v.asStr?.getD "" = "" := of_decide_eq_true hempty
  constructor
  · unfold Accepts readinessText
    rw [decide_eq_true hack, hv, Option.bind_some, htext]
    rfl
  · rintro ⟨-, hnone | hready⟩
    · rw [hv] at hnone
      cases hnone
    · rw [hv] at hready
      obtain rfl := Option.some.inj hready
      exact absurd htext (by decide)

/-! ## Orderly steps -/

theorem sendRaw_of_sends {m : Outgoing} (h : w.sends = true) :
    ∃ sent, w.sendRaw m = (.ok (), { w with sent := sent }) := by
  unfold sends at h
  unfold sendRaw
  cases htx : w.shared.writeTx with
  | none =>
    rw [htx] at h
    cases h
  | some e =>
    rw [htx] at h
    exact ⟨_, if_pos h⟩

theorem sendRaw_of_not_sends {m : Outgoing} (h : w.sends = false) :
    ∃ err, w.sendRaw m = (.error err, w) := by
  unfold sends at h
  unfold sendRaw
  cases htx : w.shared.writeTx with
  | none => exact ⟨_, rfl⟩
  | some e =>
    rw [htx] at h
    have hup : w.writerUp e = false := h
    exact ⟨_, if_neg (by rw [hup]; decide)⟩

theorem Inv.sendInit (h : Inv w) (hp : (w.call 0).pc = .sendingInit e)
    (ho : w.sends = false → (w.reader e).up = false) : Inv (w.sendInit 0 e) := by
  obtain ⟨he, hnone⟩ : w.installed = e + 1 ∧ ∀ ack ∈ w.acked, ack.1 ≠ e := by
    have hpc := h.pc
    rw [hp] at hpc
    exact hpc
  unfold Tasks.sendInit
  cases hs : w.sends with
  | true =>
    obtain ⟨sent, hsend⟩ := sendRaw_of_sends (m := .connectionInit) hs
    rw [hsend]
    have hsent : Inv { w with sent := sent } := h.congr rfl rfl rfl rfl rfl
    refine hsent.setPc ?_ ⟨he, hnone⟩
    show true = (w.call 0).pc.published
    rw [hp]
    rfl
  | false =>
    obtain ⟨err, hsend⟩ := sendRaw_of_not_sends (m := .connectionInit) hs
    rw [hsend]
    refine h.setPc (by rw [hp]; rfl) ?_
    show w.shared.connected = false
    rw [h.link e he, ho hs]
    rfl

/-- The queue loses its first frame. -/
theorem Inv.pop (h : Inv w) (hp : (w.call 0).pc = .awaiting e) {ev : ℕ × Json}
    {q : List (ℕ × Json)} (hq : w.shared.inbound = ev :: q) :
    Inv { w with shared := { w.shared with inbound := q } } where
  fresh := h.fresh
  earlier := h.earlier
  marks := h.marks
  origin ev' hev := h.origin ev' (hq ▸ List.mem_cons_of_mem ev hev)
  acked := h.acked
  undialed := h.undialed
  link := h.link
  pc := by
    have hpc := h.pc
    rw [hp] at hpc
    show PcOk _ (w.call 0).pc
    rw [hp]
    exact hpc

theorem Inv.onFrame (h : Inv w) (hp : (w.call 0).pc = .awaiting e) {origin : ℕ}
    (hacc : Accepts msg = true → origin = e) (hv : Vague msg = false)
    (ho : Rejects msg = true → (w.reader e).up = false) : Inv (w.onFrame 0 e origin msg) := by
  obtain ⟨he, hnone⟩ : w.installed = e + 1 ∧ ∀ ack ∈ w.acked, ack.1 ≠ e := by
    have hpc := h.pc
    rw [hp] at hpc
    exact hpc
  unfold Tasks.onFrame
  cases hverdict : handshakeVerdict msg with
  | ignore => exact h
  | resend => exact h.setPc (by rw [hp]; rfl) ⟨he, hnone⟩
  | accept state =>
    have haccepts := accepts_iff.2 ⟨state, hverdict⟩
    obtain rfl := hacc haccepts
    have hlt : origin < w.installed := he ▸ Nat.lt_succ_self _
    have hack : Acked { w with acked := (origin, msg) :: w.acked } :=
      ⟨(origin, msg), List.mem_cons_self, he, readyAck_of_accepts haccepts hv⟩
    exact
      { fresh := h.fresh
        earlier := h.earlier
        marks := h.marks
        origin := h.origin
        acked := List.forall_mem_cons.2 ⟨hlt, h.acked⟩
        undialed := h.undialed
        link := fun e' he' => by
          have hlink := h.link e' he'
          rw [hp] at hlink
          rw [setPc_pc_self]
          exact hlink
        pc := by
          rw [setPc_pc_self]
          refine ⟨hack, ⟨state, msg, List.suffix_rfl⟩, fun hn => ?_⟩
          exact absurd (List.mem_append_left _ (List.mem_cons_of_mem _ List.mem_cons_self)) hn }
  | fail err =>
    refine h.setPc (by rw [hp]; rfl) ?_
    show w.shared.connected = false
    rw [h.link e he, ho (rejects_iff.2 ⟨err, hverdict⟩)]
    rfl

/-- An orderly step of the call keeps the invariant. -/
theorem Inv.callStep (h : Inv w) {event : Event} (ho : Orderly w (.step 0 event))
    (hstep : w.callStep 0 event = some w') : Inv w' := by
  have hpc := h.pc
  cases callStep_inv hstep with
  | connected hp hc =>
    rw [hp] at hpc
    exact h.setPc (by rw [hp]; rfl) (hpc hc)
  | dial hp hc => exact h.setPc (by rw [hp]; rfl) hc
  | dialed hp | dialFailed hp =>
    rw [hp] at hpc
    exact h.setPc (by rw [hp]; rfl) hpc
  | install hp =>
    have hat : OrderlyAt w .installing := hp ▸ ho
    exact h.install hp hat
  | update u rest k hp =>
    rw [hp] at hpc
    cases k with
    | spawn e => exact h.publish hp
    | connect => exact absurd hpc id
    | ok => exact h.accept hp
  | resume k hp =>
    rw [hp] at hpc
    cases k with
    | spawn e => exact h.spawn hp
    | connect => exact absurd hpc id
    | ok =>
      obtain ⟨hack, -, hdone⟩ := hpc
      exact h.setPc (by rw [hp]; rfl) ⟨hdone List.not_mem_nil, hack⟩
  | sendInit e hp =>
    have hat : OrderlyAt w (.sendingInit e) := hp ▸ ho
    exact h.sendInit hp hat
  | frame e ev q hp hq =>
    rw [hp] at hpc
    have hat : OrderlyAt w (.awaiting e) := hp ▸ ho
    have hhead : (Rejects ev.2 = true → (w.reader e).up = false) ∧ Vague ev.2 = false := by
      unfold OrderlyAt at hat
      rw [hq] at hat
      exact hat
    have he : w.installed = e + 1 := hpc.1
    refine (h.pop hp hq).onFrame hp (fun ha => ?_) hhead.2 hhead.1
    have horigin := (h.origin ev (hq ▸ List.mem_cons_self)).2 ha
    omega
  | deadline e hp =>
    rw [hp] at hpc
    have hend : OrderlyEnd w (.awaiting e) := hp ▸ ho
    refine h.setPc (by rw [hp]; rfl) ?_
    show w.shared.connected = false
    rw [h.link e hpc.1, show (w.reader e).up = false from hend]
    rfl
  | wake hp =>
    rw [hp] at hpc
    have hconn : w.shared.connected = false := hpc
    refine h.setPc (by rw [hp]; rfl) fun hc => ?_
    rw [hconn] at hc
    cases hc
  | retry attempt max err hp =>
    rw [hp] at hpc
    exact h.setCall (by rw [hp]; rfl) hpc
  | notify hp | close hp | notified _ hp =>
    rw [hp] at hpc
    exact absurd hpc id

/-- A new call starts where the last one ended. -/
theorem Inv.start (h : Inv w) {op : Op} (hop : op ≠ .close ∧ op ≠ .reconnect)
    (hfree : w.free 0 = true) : Inv (w.start 0 op) := by
  have hpc := h.pc
  have hok : (w.shared.connected = true → Complete w) ∧ (w.call 0).pc.published = true := by
    unfold free at hfree
    cases hp : (w.call 0).pc with
    | idle =>
      rw [hp] at hpc
      exact ⟨hpc, rfl⟩
    | returned r =>
      rw [hp] at hpc
      cases r with
      | ok _ => exact ⟨fun _ => hpc, rfl⟩
      | error _ =>
        have hconn : w.shared.connected = false := hpc
        refine ⟨fun hc => ?_, rfl⟩
        rw [hconn] at hc
        cases hc
    | checking | dialing | installing | updating | sendingInit | awaiting | sleeping | closing
      | notifying =>
      rw [hp] at hfree
      cases hfree
  cases op with
  | connect => exact h.setCall hok.2.symm hok.1
  | connectWithRetries n => exact h.setCall hok.2.symm hok.1
  | close => exact absurd rfl hop.1
  | reconnect => exact absurd rfl hop.2

/-- **Step lemma.** -/
theorem Inv.step (h : Inv w) (hseq : Sequential a) (ho : Orderly w a)
    (hstep : Tasks.step w a = some w') : Inv w' := by
  cases taskStep_inv hstep with
  | call i op hfree =>
    obtain ⟨rfl, hop⟩ := hseq
    exact h.start hop hfree
  | step i event =>
    obtain rfl : i = 0 := hseq
    exact h.callStep ho hstep
  | receive e item hr hs => exact h.working (working_received hr hs)
  | reader e =>
    rcases readerStep_cases hstep with hw | hm
    · exact h.working hw
    · exact h.marking hm
  | writerDown => exact h.congr rfl rfl rfl rfl rfl
  | register | unregister | readEvent => exact hseq.elim

/-! ## Steps that are not orderly -/

/-- The steps of the call lead to a return that should not be. -/
def Fails (w : Tasks) : Prop :=
  ∃ n w', Lts.exec Tasks.step w (List.replicate n (.step 0 .next)) = some w' ∧ ¬ Handshaken w'

theorem fails_of_step (hs : Tasks.step w (.step 0 .next) = some w') (h : Fails w') : Fails w := by
  obtain ⟨n, t, ht, hn⟩ := h
  refine ⟨n + 1, t, ?_, hn⟩
  rw [List.replicate_succ, Lts.exec_cons_of_step hs, ht]

theorem fails_of_error (hp : (w.call 0).pc = .returned (.error err))
    (hc : w.shared.connected = true) : Fails w := by
  refine ⟨0, w, rfl, ?_⟩
  unfold Handshaken
  rw [hp]
  show ¬ w.shared.connected = false
  rw [hc]
  decide

/-- The connection sent no acknowledgement that is ready, or says nothing about it. -/
def Unacked (w : Tasks) (e : ℕ) : Prop := ∀ ack ∈ w.acked, ack.1 = e → ¬ ReadyAck ack.2

theorem fails_of_ok {u : Unit} (hp : (w.call 0).pc = .returned (.ok u)) (he : w.installed = e + 1)
    (hn : Unacked w e) : Fails w := by
  refine ⟨0, w, rfl, ?_⟩
  unfold Handshaken
  rw [hp]
  rintro ⟨-, ack, hmem, he', hack⟩
  exact hn ack hmem (Nat.succ.inj (he'.symm.trans he)) hack

theorem step_sendInit {i : ℕ} (hp : (w.call i).pc = .sendingInit e) :
    Tasks.step w (.step i .next) = some (w.sendInit i e) := by
  show w.callStep i .next = _
  unfold Tasks.callStep
  rw [hp]

theorem step_awaiting {i : ℕ} {ev : ℕ × Json} {q : List (ℕ × Json)}
    (hp : (w.call i).pc = .awaiting e) (hq : w.shared.inbound = ev :: q) :
    Tasks.step w (.step i .next) =
      some ({ w with shared := { w.shared with inbound := q } }.onFrame i e ev.1 ev.2) := by
  show w.callStep i .next = _
  unfold Tasks.callStep
  rw [hp, hq]

/-- A handshake that another connection's frame completed. -/
theorem fails_of_accepting {rest : List Update} (hp : (w.call 0).pc = .updating rest .ok)
    (he : w.installed = e + 1) (hn : Unacked w e) : Fails w := by
  induction rest generalizing w with
  | nil => exact fails_of_step (step_resume hp) (fails_of_ok setPc_pc_self he hn)
  | cons u rest ih => exact fails_of_step (step_updating hp) (ih setPc_pc_self he hn)

/-- A connection that is up behind an acceptable frame of an earlier one. -/
structure Doomed (w : Tasks) (e : ℕ) : Prop where
  installed : w.installed = e + 1
  connected : w.shared.connected = true
  unacked : Unacked w e
  older : ∀ ev ∈ w.shared.inbound, ev.1 ≠ e
  accepts : ∃ ev ∈ w.shared.inbound, Accepts ev.2 = true

theorem Doomed.congr (h : Doomed w e) (hs : w'.shared = w.shared) (hi : w'.installed = w.installed)
    (ha : w'.acked = w.acked) : Doomed w' e where
  installed := hi.trans h.installed
  connected := by rw [hs]; exact h.connected
  unacked := by unfold Unacked; rw [ha]; exact h.unacked
  older := by rw [hs]; exact h.older
  accepts := by rw [hs]; exact h.accepts

theorem fails_of_sendingInit (h : Doomed w e) (hp : (w.call 0).pc = .sendingInit e)
    (hnext : ∀ w', Doomed w' e → (w'.call 0).pc = .awaiting e →
      w'.shared.inbound = w.shared.inbound → Fails w') : Fails w := by
  refine fails_of_step (step_sendInit hp) ?_
  unfold Tasks.sendInit
  cases hs : w.sends with
  | true =>
    obtain ⟨sent, hsend⟩ := sendRaw_of_sends (m := .connectionInit) hs
    rw [hsend]
    exact hnext _ (h.congr rfl rfl rfl) setPc_pc_self rfl
  | false =>
    obtain ⟨err, hsend⟩ := sendRaw_of_not_sends (m := .connectionInit) hs
    rw [hsend]
    exact fails_of_error setPc_pc_self h.connected

theorem fails_of_awaiting (h : Doomed w e) (hp : (w.call 0).pc = .awaiting e) : Fails w := by
  obtain ⟨q, hq⟩ : ∃ q, w.shared.inbound = q := ⟨_, rfl⟩
  induction q generalizing w with
  | nil =>
    obtain ⟨ev, hev, -⟩ := h.accepts
    rw [hq] at hev
    cases hev
  | cons ev q ih =>
    refine fails_of_step (step_awaiting hp hq) ?_
    have hne := h.older ev (hq ▸ List.mem_cons_self)
    have hrest : (∀ state, handshakeVerdict ev.2 ≠ .accept state) →
        Doomed { w with shared := { w.shared with inbound := q } } e := by
      intro hv
      refine ⟨h.installed, h.connected, h.unacked,
        fun ev' hev => h.older ev' (hq ▸ List.mem_cons_of_mem ev hev), ?_⟩
      obtain ⟨ev', hev, hacc⟩ := h.accepts
      rw [hq] at hev
      rcases List.mem_cons.1 hev with rfl | hev
      · obtain ⟨state, hstate⟩ := accepts_iff.1 hacc
        exact absurd hstate (hv state)
      · exact ⟨ev', hev, hacc⟩
    unfold Tasks.onFrame
    cases hv : handshakeVerdict ev.2 with
    | ignore => exact ih (hrest fun state h => by rw [hv] at h; cases h) hp rfl
    | resend =>
      have hdoomed := hrest fun state h => by rw [hv] at h; cases h
      refine fails_of_sendingInit (hdoomed.congr rfl rfl rfl) setPc_pc_self ?_
      exact fun w' hd hp' hin => ih hd hp' hin
    | accept state =>
      refine fails_of_accepting setPc_pc_self h.installed fun ack hmem he => ?_
      rcases List.mem_cons.1 hmem with rfl | hmem
      · exact absurd he hne
      · exact h.unacked ack hmem he
    | fail err => exact fails_of_error setPc_pc_self h.connected

/-- A new connection behind an acceptable frame. -/
theorem fails_of_install (h : Inv w) (hacc : ∃ ev ∈ w.shared.inbound, Accepts ev.2 = true) :
    Fails (w.install 0) := by
  have hdoomed : ∀ w', w'.installed = w.installed + 1 → w'.acked = w.acked →
      w'.shared.inbound = w.shared.inbound → w'.shared.connected = true → Doomed w' w.installed := by
    intro w' hi ha hq hc
    refine ⟨hi, hc, ?_, ?_, ?_⟩
    · intro ack hmem he
      rw [ha] at hmem
      exact absurd he (Nat.ne_of_lt (h.acked ack hmem))
    · rw [hq]
      exact fun ev hev => Nat.ne_of_lt (h.origin ev hev).1
    · rw [hq]
      exact hacc
  apply fails_of_step (step_updating setPc_pc_self)
  apply fails_of_step (step_updating setPc_pc_self)
  apply fails_of_step (step_updating setPc_pc_self)
  apply fails_of_step (step_resume setPc_pc_self)
  exact fails_of_sendingInit (hdoomed _ rfl rfl rfl rfl) setPc_pc_self
    fun w' hd hp _ => fails_of_awaiting hd hp

/-- **Exactness.** A step that is not orderly leads to a return that should not be. -/
theorem fails_of_not_orderly (h : Inv w) (hseq : Sequential a) (hno : ¬ Orderly w a)
    (hstep : Tasks.step w a = some w') : Fails w' := by
  have hconn : ∀ e, (w.call 0).pc = .awaiting e ∨ (w.call 0).pc = .sendingInit e →
      ¬ (w.reader e).up = false → w.shared.connected = true := by
    intro e hp hup
    have he : w.installed = e + 1 ∧ (w.call 0).pc.published = true := by
      have hpc := h.pc
      rcases hp with hp | hp <;> rw [hp] at hpc ⊢ <;> exact ⟨hpc.1, rfl⟩
    rw [h.link e he.1, he.2, Bool.and_true]
    exact (Bool.not_eq_false _).mp hup
  cases a with
  | step i event =>
    obtain rfl : i = 0 := hseq
    cases event with
    | next =>
      have hat : ¬ OrderlyAt w (w.call 0).pc := hno
      cases hp : (w.call 0).pc with
      | installing =>
        rw [hp] at hat
        obtain rfl := Option.some.inj ((step_install hp).symm.trans hstep)
        refine fails_of_install h ?_
        by_contra hc
        refine hat fun ev hev => ?_
        rw [← Bool.not_eq_true]
        exact fun ha => hc ⟨ev, hev, ha⟩
      | sendingInit e =>
        rw [hp] at hat
        obtain ⟨hs, hup⟩ := Classical.not_imp.1 hat
        obtain rfl := Option.some.inj ((step_sendInit hp).symm.trans hstep)
        obtain ⟨err, hsend⟩ := sendRaw_of_not_sends (m := .connectionInit) hs
        unfold Tasks.sendInit
        rw [hsend]
        exact fails_of_error setPc_pc_self (hconn e (Or.inr hp) hup)
      | awaiting e =>
        rw [hp] at hat
        cases hq : w.shared.inbound with
        | nil =>
          refine absurd ?_ hat
          unfold OrderlyAt
          rw [hq]
          exact ⟨fun h => (by cases h), rfl⟩
        | cons ev q =>
          have hbad : ¬ ((Rejects ev.2 = true → (w.reader e).up = false) ∧ Vague ev.2 = false) := by
            unfold OrderlyAt at hat
            rw [hq] at hat
            exact hat
          obtain rfl := Option.some.inj ((step_awaiting hp hq).symm.trans hstep)
          unfold Tasks.onFrame
          rcases not_and_or.1 hbad with hbad | hvague
          · obtain ⟨hrejects, hup⟩ := Classical.not_imp.1 hbad
            obtain ⟨err, hv⟩ := rejects_iff.1 hrejects
            rw [hv]
            exact fails_of_error setPc_pc_self (hconn e (Or.inl hp) hup)
          · obtain ⟨haccepts, hnot⟩ := accepts_of_vague ((Bool.not_eq_false _).mp hvague)
            obtain ⟨state, hv⟩ := accepts_iff.1 haccepts
            rw [hv]
            have hpc := h.pc
            rw [hp] at hpc
            refine fails_of_accepting setPc_pc_self hpc.1 fun ack hmem he => ?_
            rcases List.mem_cons.1 hmem with rfl | hmem
            · exact hnot
            · exact absurd he (hpc.2 ack hmem)
      | idle | checking | dialing | updating | sleeping | closing | notifying | returned =>
        rw [hp] at hat
        exact absurd trivial hat
    | deadline =>
      have hend : ¬ OrderlyEnd w (w.call 0).pc := hno
      cases hp : (w.call 0).pc with
      | awaiting e =>
        rw [hp] at hend
        have hw' : w' = w.setPc 0 (.returned (.error (.timeout "connection_ack" "15s"))) := by
          change w.callStep 0 .deadline = some w' at hstep
          unfold Tasks.callStep at hstep
          rw [hp] at hstep
          exact (Option.some.inj hstep).symm
        rw [hw']
        exact fails_of_error setPc_pc_self (hconn e (Or.inl hp) hend)
      | idle | checking | dialing | installing | updating | sendingInit | sleeping | closing
        | notifying | returned =>
        rw [hp] at hend
        exact absurd trivial hend
    | dialed | dialFailed => exact absurd trivial hno
  | call | receive | reader | writerDown | register | unregister | readEvent =>
    exact absurd trivial hno

/-! ## The calls -/

theorem inv_of_orderly {run : List Label} (hseq : ∀ a ∈ run, Sequential a)
    (ho : Lts.Guarded Tasks.step Orderly {} run) (hw : Lts.exec Tasks.step {} run = some w) :
    Inv w :=
  Lts.inv_of_guarded (fun _ _ _ h hG hs => h.step hG.1 hG.2 hs) inv_init (ho.and_mem hseq) hw

/-- **Connect.** In orderly runs `Ok` means handshaken and an error means disconnected, and any
other step after such a run leads to a return where this fails. -/
theorem connect_handshaken (run : List Label) (w : Tasks) (hseq : ∀ a ∈ run, Sequential a)
    (ho : Lts.Guarded Tasks.step Orderly {} run) (hw : Lts.exec Tasks.step {} run = some w) :
    Handshaken w ∧ ∀ a w', Sequential a → Tasks.step w a = some w' → ¬ Orderly w a → Fails w' := by
  have hinv := inv_of_orderly hseq ho hw
  exact ⟨hinv.handshaken, fun a w' ha hstep hno => fails_of_not_orderly hinv ha hno hstep⟩

/-- The call goes on. -/
def goes (n : ℕ) : List Label := List.replicate n (.step 0 .next)

/-- `connect` is called, dials and sends `connection_init`. -/
def dials : List Label := [.call 0 .connect, .step 0 .next, .step 0 .dialed] ++ goes 6

/-- A frame gets from the socket of a connection into the queue. -/
def delivers (e : ℕ) (msg : Json) : List Label :=
  .receive e (.text (some msg)) :: List.replicate 4 (.reader e)

def connectionAck (state : String) : Json :=
  .obj [("type", .str "connection_ack"), ("result", .obj [("readiness_state", .str state)])]

/-- The daemon warms up, and then it is ready. -/
def warmStart : List Label :=
  dials ++ delivers 0 (connectionAck "warming") ++ goes 2 ++
    delivers 0 (connectionAck "ready") ++ goes 4

theorem connect_handshaken_warming : ∃ w, Lts.exec Tasks.step {} warmStart = some w ∧
    (w.call 0).pc = .returned (.ok ()) ∧ Handshaken w := by
  have hrun : (Lts.exec Tasks.step {} warmStart).map (fun w => (w.call 0).pc) =
      some (.returned (.ok ())) := rfl
  obtain ⟨w, hw, hpc⟩ := Option.map_eq_some_iff.1 hrun
  exact ⟨w, hw, hpc, (connect_handshaken warmStart w (by decide) (by decide +kernel) hw).1⟩

/-- A `connect` that the daemon refuses on an open socket, and a second one. -/
def refused : List Label :=
  dials ++ delivers 0 (connectionAck "degraded") ++ goes 1 ++ [.call 0 .connect] ++ goes 1

/-- The second `connect` returns `Ok` without a handshake. -/
theorem connect_handshaken_fails : ¬ ∀ run w, (∀ a ∈ run, Sequential a) →
    Lts.exec Tasks.step {} run = some w → Handshaken w := by
  intro h
  have hrun : (Lts.exec Tasks.step {} refused).map
      (fun w => ((w.call 0).pc, w.shared.handshakeComplete)) =
        some (.returned (.ok ()), false) := rfl
  obtain ⟨w, hw, hpc⟩ := Option.map_eq_some_iff.1 hrun
  obtain ⟨hp, hc⟩ := Prod.mk.inj hpc
  have hs := h refused w (by decide) hw
  unfold Handshaken at hs
  rw [hp] at hs
  exact absurd (hs.1.symm.trans hc) (by decide)

end SootheClient.Client
