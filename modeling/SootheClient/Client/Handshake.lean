import SootheClient.Client.Steps

/-!
# Handshakes

One task makes `connect` and `connect_with_retries` calls one after the other. A step is `Orderly`
when a new connection finds no acceptable `connection_ack` in the queue, and when no handshake
fails before the reader of its connection has stored the loss. `Inv` holds in every state that
orderly steps reach.
-/

namespace SootheClient.Client

open Tasks

/-- The `readiness_state` of an acknowledgement. -/
def readinessState (msg : Json) : Option Json :=
  (msg.get "result").bind (·.get "readiness_state")

/-- Its text, as `wait_connection_ack` reads it. -/
def readinessText (msg : Json) : String := ((readinessState msg).bind Json.asStr?).getD ""

/-- A `connection_ack` that is ready, or that says nothing about it. -/
def ReadyAck (msg : Json) : Prop :=
  msg.getStr "type" = some "connection_ack" ∧
    (readinessState msg = none ∨ readinessState msg = some (.str "ready"))

/-- A `connection_ack` whose `readiness_state` is there, but is no text or an empty one. -/
def Vague (msg : Json) : Bool :=
  msg.getStr "type" = some "connection_ack" &&
    (readinessState msg).any fun v => v.asStr?.getD "" = ""

/-- A `connection_ack` that ends a handshake with success. -/
def Accepts (msg : Json) : Bool :=
  msg.getStr "type" = some "connection_ack" &&
    (readinessText msg = "ready" || readinessText msg = "")

/-- An error that does not ask to try again, or a `connection_ack` of another state. -/
def Rejects (msg : Json) : Bool :=
  msg.getStr "type" = some "error" &&
      !(-32003 ≤ (parseDaemonError msg).code && (parseDaemonError msg).code ≤ -32001) ||
    msg.getStr "type" = some "connection_ack" &&
      !(["starting", "warming", "ready", ""].contains (readinessText msg))

/-- The steps of one task that connects, with or without retries, and of the readers. -/
def Sequential : Label → Prop
  | .call i op => i = 0 ∧ op ≠ .close ∧ op ≠ .reconnect
  | .step i _ => i = 0
  | .receive _ _ | .reader _ | .writerDown _ => True
  | .register _ | .unregister _ | .readEvent => False

/-- A message to the daemon gets to a writer task. -/
def Tasks.sends (w : Tasks) : Bool := w.shared.writeTx.any w.writerUp

/-- The call goes on from a place without taking a branch that goes wrong. -/
def OrderlyAt (w : Tasks) : Pc → Prop
  | .installing => ∀ ev ∈ w.shared.inbound, Accepts ev.2 = false
  | .sendingInit e => w.sends = false → (w.reader e).up = false
  | .awaiting e => ((w.shared.inbound.head?.any fun ev => Rejects ev.2) = true →
      (w.reader e).up = false) ∧ (w.shared.inbound.head?.any fun ev => Vague ev.2) = false
  | _ => True

/-- The handshake gives up where its reader has stored the loss. -/
def OrderlyEnd (w : Tasks) : Pc → Prop
  | .awaiting e => (w.reader e).up = false
  | _ => True

def Orderly (w : Tasks) : Label → Prop
  | .step _ .next => OrderlyAt w (w.call 0).pc
  | .step _ .deadline => OrderlyEnd w (w.call 0).pc
  | _ => True

/-- A handshake took a `connection_ack` of the newest connection that is ready, or that says nothing
about it. -/
def Acked (w : Tasks) : Prop :=
  ∃ ack ∈ w.acked, w.installed = ack.1 + 1 ∧ ReadyAck ack.2

/-- The handshake of the newest connection is complete. -/
def Complete (w : Tasks) : Prop := w.shared.handshakeComplete = true ∧ Acked w

/-- A call that returned `Ok` completed the handshake, and one that returned an error left the
client disconnected. -/
def Handshaken (w : Tasks) : Prop :=
  match (w.call 0).pc with
  | .returned (.ok _) => Complete w
  | .returned (.error _) => w.shared.connected = false
  | _ => True

instance : ∀ a, Decidable (Sequential a)
  | .call _ _ => inferInstanceAs (Decidable (_ ∧ _ ∧ _))
  | .step _ _ => inferInstanceAs (Decidable (_ = _))
  | .receive _ _ | .reader _ | .writerDown _ => isTrue trivial
  | .register _ | .unregister _ | .readEvent => isFalse id

instance (w : Tasks) : ∀ p, Decidable (OrderlyAt w p)
  | .installing => inferInstanceAs (Decidable (∀ ev ∈ w.shared.inbound, _))
  | .sendingInit _ => inferInstanceAs (Decidable (_ = _ → _ = _))
  | .awaiting _ => inferInstanceAs (Decidable ((_ = _ → _ = _) ∧ _ = _))
  | .idle | .checking | .dialing | .updating _ _ | .sleeping | .closing | .notifying
    | .returned _ => isTrue trivial

instance (w : Tasks) : ∀ p, Decidable (OrderlyEnd w p)
  | .awaiting _ => inferInstanceAs (Decidable (_ = _))
  | .idle | .checking | .dialing | .installing | .updating _ _ | .sendingInit _ | .sleeping
    | .closing | .notifying | .returned _ => isTrue trivial

instance (w : Tasks) : ∀ a, Decidable (Orderly w a)
  | .step _ .next => inferInstanceAs (Decidable (OrderlyAt w _))
  | .step _ .deadline => inferInstanceAs (Decidable (OrderlyEnd w _))
  | .step _ .dialed | .step _ .dialFailed => isTrue trivial
  | .call _ _ | .receive _ _ | .reader _ | .writerDown _ | .register _ | .unregister _
    | .readEvent => isTrue trivial

/-! ## The invariant -/

/-- The connection was stored as connected. -/
def Pc.published : Pc → Bool
  | .updating rest (.spawn _) => !rest.contains (.setConnected true)
  | _ => true

/-- What holds of the client at each place of the call. -/
def PcOk (w : Tasks) : Pc → Prop
  | .idle | .checking => w.shared.connected = true → Complete w
  | .dialing | .installing | .sleeping | .returned (.error _) => w.shared.connected = false
  | .returned (.ok _) => Complete w
  | .updating rest (.spawn e) =>
    w.installed = e + 1 ∧ w.reader e = .unspawned ∧ rest <:+ publishUpdates ∧
      ∀ ack ∈ w.acked, ack.1 ≠ e
  | .sendingInit e | .awaiting e => w.installed = e + 1 ∧ ∀ ack ∈ w.acked, ack.1 ≠ e
  | .updating rest .ok =>
    Acked w ∧ (∃ state ack, rest <:+ acceptUpdates state ack) ∧
      (.setHandshakeComplete true ∉ rest → w.shared.handshakeComplete = true)
  | .updating _ .connect | .closing | .notifying => False

structure Inv (w : Tasks) : Prop where
  fresh : ∀ e, w.installed ≤ e → w.reader e = .unspawned
  earlier : ∀ e, e + 1 < w.installed → (w.reader e).up = false
  marks : ∀ e rest, w.reader e = .marking rest → rest <:+ markDisconnected .unclean
  origin : ∀ ev ∈ w.shared.inbound,
    ev.1 < w.installed ∧ (Accepts ev.2 = true → ev.1 + 1 = w.installed)
  acked : ∀ ack ∈ w.acked, ack.1 < w.installed
  undialed : w.installed = 0 → w.shared.connected = false
  link : ∀ e, w.installed = e + 1 →
    w.shared.connected = ((w.reader e).up && (w.call 0).pc.published)
  pc : PcOk w (w.call 0).pc

variable {w w' : Tasks} {e : ℕ} {p : Pc} {u : Update} {rest : List Update} {s : Shared}
  {c : Call} {a : Label}

theorem inv_init : Inv {} where
  fresh _ _ := rfl
  earlier _ h := (nomatch h)
  marks _ _ h := (nomatch h)
  origin _ h := (nomatch h)
  acked _ h := (nomatch h)
  undialed _ := rfl
  link _ h := (nomatch h)
  pc h := (nomatch h)

theorem Acked.congr (h : Acked w) (hi : w'.installed = w.installed) (ha : w'.acked = w.acked) :
    Acked w' := by
  unfold Acked
  rw [hi, ha]
  exact h

theorem Inv.handshaken (h : Inv w) : Handshaken w := by
  have hpc := h.pc
  unfold Handshaken
  generalize (w.call 0).pc = p at hpc
  cases p with
  | returned r =>
    cases r with
    | ok _ => exact hpc
    | error _ => exact hpc
  | idle | checking | dialing | installing | updating | sendingInit | awaiting | sleeping | closing
    | notifying => trivial

/-- The demands of a place concern the shared state, the connections and what they sent. -/
theorem PcOk.congr (hp : PcOk w p) (hs : w'.shared = w.shared) (hi : w'.installed = w.installed)
    (hr : w'.reader = w.reader) (ha : w'.acked = w.acked) : PcOk w' p := by
  cases p with
  | returned r =>
    cases r with
    | ok _ => exact ⟨hs ▸ hp.1, hp.2.congr hi ha⟩
    | error _ => exact (congrArg Shared.connected hs).trans hp
  | updating rest k =>
    cases k with
    | spawn e =>
      obtain ⟨he, hun, hsuf, hnone⟩ := hp
      exact ⟨hi.trans he, (congrFun hr e).trans hun, hsuf, ha ▸ hnone⟩
    | connect => exact hp
    | ok => exact ⟨hp.1.congr hi ha, hp.2.1, fun hn => hs ▸ hp.2.2 hn⟩
  | idle | checking =>
    intro hc
    rw [hs] at hc
    exact ⟨hs ▸ (hp hc).1, (hp hc).2.congr hi ha⟩
  | dialing | installing | sleeping => exact (congrArg Shared.connected hs).trans hp
  | sendingInit | awaiting => exact ⟨hi.trans hp.1, ha ▸ hp.2⟩
  | closing | notifying => exact hp

theorem Inv.congr (h : Inv w) (hs : w'.shared = w.shared) (hi : w'.installed = w.installed)
    (hr : w'.reader = w.reader) (ha : w'.acked = w.acked) (hc : w'.call = w.call) : Inv w' where
  fresh := by rw [hi, hr]; exact h.fresh
  earlier := by rw [hi, hr]; exact h.earlier
  marks := by rw [hr]; exact h.marks
  origin := by rw [hs, hi]; exact h.origin
  acked := by rw [ha, hi]; exact h.acked
  undialed := by rw [hi, hs]; exact h.undialed
  link := by rw [hi, hs, hr, hc]; exact h.link
  pc := by
    rw [hc]
    exact h.pc.congr hs hi hr ha

/-- The call moves to a place whose demands are met. -/
theorem Inv.setCall (h : Inv w) (hpub : c.pc.published = (w.call 0).pc.published)
    (hp : PcOk w c.pc) : Inv (w.setCall 0 c) where
  fresh := h.fresh
  earlier := h.earlier
  marks := h.marks
  origin := h.origin
  acked := h.acked
  undialed := h.undialed
  link e he := by
    rw [setCall_call_self, hpub]
    exact h.link e he
  pc := by
    rw [setCall_call_self]
    exact hp.congr rfl rfl rfl rfl

theorem Inv.setPc (h : Inv w) (hpub : p.published = (w.call 0).pc.published) (hp : PcOk w p) :
    Inv (w.setPc 0 p) := h.setCall hpub hp

/-! ## The readers -/

/-- A reader that is at work belongs to the newest connection. -/
theorem Inv.newest (h : Inv w) (hw : (w.reader e).up = true) (hs : w.reader e ≠ .unspawned) :
    w.installed = e + 1 := by
  have hlt : e < w.installed := by
    by_contra hge
    exact hs (h.fresh e (Nat.le_of_not_lt hge))
  by_contra hne
  rw [h.earlier e (by omega)] at hw
  cases hw

theorem Inv.working (h : Inv w) (hw : Working w w' e) : Inv w' := by
  have hup := ReaderPc.up_of_working hw.working
  have hspawned := ReaderPc.working_ne_unspawned hw.working
  have hn := h.newest hup hspawned
  have hup' : (w'.reader e).up = true := by
    rcases hw.next with hnext | hnext
    · exact ReaderPc.up_of_working hnext
    · rw [hnext]
      rfl
  have hcomplete : Complete w → Complete w' := fun hc =>
    ⟨hw.routed.handshakeComplete.trans hc.1, hc.2.congr hw.installed hw.acked⟩
  refine
    { fresh := fun e' he' => ?_
      earlier := fun e' he' => ?_
      marks := fun e' rest hr => ?_
      origin := fun ev hev => ?_
      acked := by rw [hw.acked, hw.installed]; exact h.acked
      undialed := fun h0 => absurd (hw.installed.symm.trans h0) (by omega)
      link := fun e' he' => ?_
      pc := ?_ }
  · rw [hw.installed] at he'
    rw [hw.others e' (by omega)]
    exact h.fresh e' he'
  · rw [hw.installed] at he'
    rw [hw.others e' (by omega)]
    exact h.earlier e' he'
  · by_cases hee : e' = e
    · subst hee
      rcases hw.next with hnext | hnext
      · exact absurd hr (ReaderPc.working_ne_marking hnext)
      · rw [hnext] at hr
        injection hr with hr
        exact hr ▸ List.suffix_rfl
    · rw [hw.others e' hee] at hr
      exact h.marks e' rest hr
  · rw [hw.installed]
    rcases hw.routed.inbound ev hev with hold | hnew
    · exact h.origin ev hold
    · rw [hnew]
      exact ⟨by omega, fun _ => hn.symm⟩
  · rw [hw.installed] at he'
    obtain rfl : e = e' := by omega
    rw [hw.routed.connected, hw.call, hup', h.link e hn, hup]
  · have hpc := h.pc
    rw [hw.call]
    generalize (w.call 0).pc = p at hpc
    cases p with
    | idle | checking =>
      intro hc
      rw [hw.routed.connected] at hc
      exact hcomplete (hpc hc)
    | dialing | installing | sleeping => exact hw.routed.connected.trans hpc
    | returned r =>
      cases r with
      | ok _ => exact hcomplete hpc
      | error _ => exact hw.routed.connected.trans hpc
    | updating rest k =>
      cases k with
      | spawn e' =>
        obtain ⟨he', hr, -⟩ := hpc
        obtain rfl : e = e' := by omega
        exact absurd hr hspawned
      | connect => exact hpc
      | ok =>
        obtain ⟨hack, hsuf, hdone⟩ := hpc
        exact ⟨hack.congr hw.installed hw.acked, hsuf,
          fun hn => hw.routed.handshakeComplete.trans (hdone hn)⟩
    | sendingInit e' | awaiting e' => exact ⟨hw.installed.trans hpc.1, hw.acked ▸ hpc.2⟩
    | closing | notifying => exact hpc

/-- An update of `mark_disconnected` leaves the handshake and the queue alone; the first one stores
that the connection is lost. -/
theorem mark_update (h : u :: rest <:+ markDisconnected .unclean) :
    (s.update u).handshakeComplete = s.handshakeComplete ∧ (s.update u).inbound = s.inbound ∧
      (s.update u).connected = (s.connected && !(ReaderPc.marking (u :: rest)).up) ∧
      (ReaderPc.marking rest).up = false := by
  rcases mark_cases h with ⟨rfl, rfl⟩ | ⟨rfl, rfl⟩ | ⟨rfl, rfl⟩ | ⟨rfl, rfl⟩ | ⟨rfl, rfl⟩
  · exact ⟨rfl, rfl, (Bool.and_false _).symm, rfl⟩
  all_goals exact ⟨rfl, rfl, (Bool.and_true _).symm, rfl⟩

theorem Inv.marking (h : Inv w) (hm : Marks w w' e) : Inv w' := by
  obtain ⟨u, rest, hr, rfl⟩ := hm
  obtain ⟨hhand, hinb, hconn, hdown⟩ := mark_update (s := w.shared) (h.marks e _ hr)
  have hlt : e < w.installed := by
    by_contra hge
    rw [h.fresh e (Nat.le_of_not_lt hge)] at hr
    cases hr
  rw [← hr] at hconn
  have hfalse : w.shared.connected = false → (w.shared.update u).connected = false := by
    intro hc
    rw [hconn, hc]
    rfl
  have hcomplete : Complete w →
      Complete ({ w with shared := w.shared.update u }.setReader e (.marking rest)) := by
    rintro ⟨hc, hack⟩
    exact ⟨hhand.trans hc, hack⟩
  refine
    { fresh := fun e' he' => ?_
      earlier := fun e' he' => ?_
      marks := fun e' rest' hr' => ?_
      origin := fun ev hev => ?_
      acked := h.acked
      undialed := fun h0 => hfalse (h.undialed h0)
      link := fun e' he' => ?_
      pc := ?_ }
  · have hne : e' ≠ e := fun hc => absurd (hc ▸ hlt) (Nat.not_lt.2 he')
    rw [setReader_reader_ne hne]
    exact h.fresh e' he'
  · by_cases hee : e' = e
    · subst hee
      rw [setReader_reader_self]
      exact hdown
    · rw [setReader_reader_ne hee]
      exact h.earlier e' he'
  · by_cases hee : e' = e
    · subst hee
      rw [setReader_reader_self] at hr'
      injection hr' with hr'
      exact hr' ▸ (List.suffix_cons u rest).trans (h.marks e' _ hr)
    · rw [setReader_reader_ne hee] at hr'
      exact h.marks e' rest' hr'
  · have hold : ev ∈ w.shared.inbound := hinb ▸ hev
    exact h.origin ev hold
  · show (w.shared.update u).connected = _
    by_cases hee : e' = e
    · subst hee
      rw [setReader_reader_self, hdown, hconn, h.link e' he']
      cases (w.reader e').up <;> cases (w.call 0).pc.published <;> rfl
    · have hearlier := h.earlier e (show e + 1 < w.installed by
        have : w.installed = e' + 1 := he'
        omega)
      rw [setReader_reader_ne hee, hconn, hearlier, h.link e' he']
      exact Bool.and_true _
  · have hpc := h.pc
    show PcOk _ (w.call 0).pc
    generalize (w.call 0).pc = p at hpc
    cases p with
    | idle | checking =>
      intro hc
      refine hcomplete (hpc ?_)
      rw [← Bool.not_eq_false]
      intro hf
      rw [setReader_shared, hfalse hf] at hc
      cases hc
    | dialing | installing | sleeping => exact hfalse hpc
    | returned r =>
      cases r with
      | ok _ => exact hcomplete hpc
      | error _ => exact hfalse hpc
    | updating rest' k =>
      cases k with
      | spawn e' =>
        obtain ⟨he', hun, hsuf, hnone⟩ := hpc
        have hne : e' ≠ e := by
          rintro rfl
          rw [hr] at hun
          cases hun
        exact ⟨he', (setReader_reader_ne hne).trans hun, hsuf, hnone⟩
      | connect => exact hpc
      | ok =>
        obtain ⟨hack, hsuf, hdone⟩ := hpc
        exact ⟨hack, hsuf, fun hn => hhand.trans (hdone hn)⟩
    | sendingInit e' | awaiting e' => exact hpc
    | closing | notifying => exact hpc

/-! ## The call -/

theorem Inv.install (h : Inv w) (hp : (w.call 0).pc = .installing)
    (hq : ∀ ev ∈ w.shared.inbound, Accepts ev.2 = false) : Inv (w.install 0) := by
  have hpc := h.pc
  rw [hp] at hpc
  have hconn : w.shared.connected = false := hpc
  refine
    { fresh := fun e he => h.fresh e (Nat.le_of_succ_le he)
      earlier := fun e he => ?_
      marks := h.marks
      origin := fun ev hev => ⟨Nat.lt_succ_of_lt (h.origin ev hev).1, fun ha => ?_⟩
      acked := fun ack hack => Nat.lt_succ_of_lt (h.acked ack hack)
      undialed := fun h0 => (nomatch h0)
      link := fun e he => ?_
      pc := ?_ }
  · show (w.reader e).up = false
    have hle : e + 1 < w.installed + 1 := he
    by_cases hlt : e + 1 < w.installed
    · exact h.earlier e hlt
    · have hlink := h.link e (by omega)
      rw [hconn, hp] at hlink
      exact (Bool.and_true _).symm.trans hlink.symm
  · rw [hq ev hev] at ha
    cases ha
  · unfold Tasks.install
    rw [setPc_pc_self, setPc_shared, setPc_reader]
    show w.shared.connected = _
    rw [hconn]
    exact (Bool.and_false _).symm
  · unfold Tasks.install
    rw [setPc_pc_self]
    exact ⟨rfl, h.fresh _ (Nat.le_refl _), List.suffix_rfl,
      fun ack hack => Nat.ne_of_lt (h.acked ack hack)⟩

/-- The updates between the new sender and the spawn. -/
theorem Inv.publish (h : Inv w) (hp : (w.call 0).pc = .updating (u :: rest) (.spawn e)) :
    Inv ({ w with shared := w.shared.update u }.setPc 0 (.updating rest (.spawn e))) := by
  have hpc := h.pc
  rw [hp] at hpc
  obtain ⟨he, hr, hsuf, hnone⟩ := hpc
  have hlink := h.link e he
  rw [hp, hr] at hlink
  have hup : (w.shared.update u).inbound = w.shared.inbound ∧
      (w.shared.update u).connected = !rest.contains (.setConnected true) := by
    simp only [publishUpdates, List.suffix_cons_iff, List.cons.injEq, List.suffix_nil, reduceCtorEq,
      or_false] at hsuf
    rcases hsuf with ⟨rfl, rfl⟩ | ⟨rfl, rfl⟩ | ⟨rfl, rfl⟩
    · exact ⟨rfl, rfl⟩
    · exact ⟨rfl, hlink⟩
    · exact ⟨rfl, hlink⟩
  refine
    { fresh := h.fresh
      earlier := h.earlier
      marks := h.marks
      origin := fun ev hev => h.origin ev (hup.1 ▸ hev)
      acked := h.acked
      undialed := fun h0 => ?_
      link := fun e' he' => ?_
      pc := ?_ }
  · rw [setPc_installed] at h0
    exact absurd (he.symm.trans h0) (Nat.succ_ne_zero e)
  · obtain rfl : e = e' := Nat.succ.inj (he.symm.trans he')
    rw [setPc_pc_self, setPc_reader, hr]
    exact hup.2
  · rw [setPc_pc_self]
    exact ⟨he, hr, (List.suffix_cons u rest).trans hsuf, hnone⟩

theorem Inv.spawn (h : Inv w) (hp : (w.call 0).pc = .updating [] (.spawn e)) :
    Inv ((w.setReader e .reading).setPc 0 (.sendingInit e)) := by
  have hpc := h.pc
  rw [hp] at hpc
  obtain ⟨he, hr, -, hnone⟩ := hpc
  have hlink := h.link e he
  rw [hp, hr] at hlink
  refine
    { fresh := fun e' he' => ?_
      earlier := fun e' he' => ?_
      marks := fun e' rest hr' => ?_
      origin := h.origin
      acked := h.acked
      undialed := h.undialed
      link := fun e' he' => ?_
      pc := ?_ }
  · have hle : w.installed ≤ e' := he'
    rw [setPc_reader, setReader_reader_ne (by omega)]
    exact h.fresh e' he'
  · have hlt : e' + 1 < w.installed := he'
    rw [setPc_reader, setReader_reader_ne (by omega)]
    exact h.earlier e' he'
  · rw [setPc_reader] at hr'
    by_cases hee : e' = e
    · subst hee
      rw [setReader_reader_self] at hr'
      cases hr'
    · rw [setReader_reader_ne hee] at hr'
      exact h.marks e' rest hr'
  · obtain rfl : e = e' := Nat.succ.inj (he.symm.trans he')
    rw [setPc_pc_self, setPc_reader, setReader_reader_self]
    exact hlink
  · rw [setPc_pc_self]
    exact ⟨he, hnone⟩

/-- The updates of an acknowledged handshake. -/
theorem Inv.accept (h : Inv w) (hp : (w.call 0).pc = .updating (u :: rest) .ok) :
    Inv ({ w with shared := w.shared.update u }.setPc 0 (.updating rest .ok)) := by
  have hpc := h.pc
  rw [hp] at hpc
  obtain ⟨hack, ⟨state, ack, hsuf⟩, hdone⟩ := hpc
  have hmem : u ∈ acceptUpdates state ack := hsuf.subset List.mem_cons_self
  have hu : (∃ st, u = .setReadinessState st) ∨ u = .setHandshakeComplete true ∨
      ∃ ms, u = .setHeartbeatInterval ms := by
    unfold acceptUpdates at hmem
    simp only [List.cons_append, List.nil_append, List.mem_cons, Option.mem_toList,
      Option.map_eq_some_iff] at hmem
    rcases hmem with rfl | rfl | ⟨ms, -, rfl⟩
    · exact Or.inl ⟨_, rfl⟩
    · exact Or.inr (Or.inl rfl)
    · exact Or.inr (Or.inr ⟨ms, rfl⟩)
  have hsame : (w.shared.update u).connected = w.shared.connected ∧
      (w.shared.update u).inbound = w.shared.inbound ∧
      (.setHandshakeComplete true ∉ rest → (w.shared.update u).handshakeComplete = true) := by
    rcases hu with ⟨st, rfl⟩ | rfl | ⟨ms, rfl⟩
    · exact ⟨rfl, rfl, fun hn => hdone (by simpa using hn)⟩
    · exact ⟨rfl, rfl, fun _ => rfl⟩
    · exact ⟨rfl, rfl, fun hn => hdone (by simpa using hn)⟩
  refine
    { fresh := h.fresh
      earlier := h.earlier
      marks := h.marks
      origin := fun ev hev => h.origin ev (hsame.2.1 ▸ hev)
      acked := h.acked
      undialed := fun h0 => hsame.1.trans (h.undialed h0)
      link := fun e' he' => ?_
      pc := ?_ }
  · have hlink := h.link e' he'
    rw [hp] at hlink
    rw [setPc_pc_self, setPc_reader]
    exact hsame.1.trans hlink
  · rw [setPc_pc_self]
    exact ⟨hack, ⟨state, ack, (List.suffix_cons u rest).trans hsuf⟩, hsame.2.2⟩

end SootheClient.Client
