import SootheClient.Client.Status

/-!
# What calls are still to write

A call writes what is left of a fixed list of updates: of `close`, of `reconnect`, of a new
connection, or of an acknowledgement that a handshake took. What holds of these lists and of their
tails holds of all that calls have before them, in every run.
-/

namespace SootheClient.Client

/-- Every list of updates that a call starts with is as `P` says, and so are its tails. `P` may ask
for frames that handshakes accepted. -/
structure ScriptRule (P : List (ℕ × Json) → List Update → Prop) : Prop where
  none : ∀ acked, P acked []
  tail : ∀ acked u rest, P acked (u :: rest) → P acked rest
  close : ∀ acked, P acked closeUpdates
  reconnect : ∀ acked, P acked reconnectUpdates
  publish : ∀ acked, P acked publishUpdates
  accept : ∀ acked ack state, handshakeVerdict ack.2 = .accept state →
    P (ack :: acked) (acceptUpdates state ack.2)
  grows : ∀ acked ack rest, P acked rest → P (ack :: acked) rest

/-- What the calls have before them is as `P` says. -/
def Pends (P : List (ℕ × Json) → List Update → Prop) (w : Tasks) : Prop :=
  ∀ i, P w.acked (w.call i).pc.pending

variable {P : List (ℕ × Json) → List Update → Prop} {w w' : Tasks} {i e : ℕ} {a : Label}
  {c : Call} {p : Pc} {event : Event} {msg : Json}

theorem Pends.congr (h : Pends P w) (hc : w'.call = w.call) (ha : w'.acked = w.acked) :
    Pends P w' := by
  intro i
  rw [hc, ha]
  exact h i

theorem Pends.setCall (h : Pends P w) (hc : P w.acked c.pc.pending) :
    Pends P (w.setCall i c) := by
  intro j
  by_cases hj : j = i
  · subst hj
    rw [Tasks.setCall_call_self]
    exact hc
  · rw [Tasks.setCall_call_ne hj]
    exact h j

theorem Pends.setPc (h : Pends P w) (hp : P w.acked p.pending) : Pends P (w.setPc i p) :=
  h.setCall hp

/-- What a handshake took stays taken. -/
theorem acked_subset (hs : Tasks.step w a = some w') : w.acked ⊆ w'.acked := by
  cases taskStep_inv hs with
  | call i op => cases op <;> exact fun _ h => h
  | step i event hs =>
    cases hs with
    | sendInit e =>
      obtain ⟨sent, p, -, heq⟩ := sendInit_eq (w := w) (i := i) (e := e)
      rw [heq]
      exact fun _ h => h
    | resume k => cases k <;> exact fun _ h => h
    | frame e ev q =>
      unfold Tasks.onFrame
      cases handshakeVerdict ev.2 with
      | accept state => exact fun _ h => List.mem_cons_of_mem _ h
      | ignore | resend | fail => exact fun _ h => h
    | connected | dial | dialed | dialFailed | install | update | deadline | retry | wake | notify
    | close | notified => exact fun _ h => h
  | receive e item hr hs =>
    rw [(working_received hr hs).acked]
    exact fun _ h => h
  | reader e hs =>
    cases hs with
    | turn | settle | route | ack | miss | hand | enqueue | mark => exact fun _ h => h
  | writerDown | register | unregister | readEvent => exact fun _ h => h

namespace ScriptRule

variable (hP : ScriptRule P)
include hP

theorem init : Pends P {} := fun _ => hP.none []

theorem start (h : Pends P w) (op : Op) : Pends P (w.start i op) := by
  cases op with
  | connect | connectWithRetries => exact h.setCall (hP.none _)
  | close => exact h.setCall (hP.close _)
  | reconnect => exact h.setCall (hP.reconnect _)

theorem onFrame {origin : ℕ} (h : Pends P w) : Pends P (w.onFrame i e origin msg) := by
  unfold Tasks.onFrame
  cases hv : handshakeVerdict msg with
  | ignore => exact h
  | resend | fail => exact h.setPc (hP.none _)
  | accept state =>
    have hacked : Pends P { w with acked := (origin, msg) :: w.acked } :=
      fun j => hP.grows w.acked (origin, msg) _ (h j)
    exact hacked.setPc (hP.accept w.acked (origin, msg) state hv)

theorem callStep (h : Pends P w) (hs : CallStep w i event w') : Pends P w' := by
  cases hs with
  | connected | dial | dialed | dialFailed | deadline | wake => exact h.setPc (hP.none _)
  | retry => exact h.setCall (hP.none _)
  | notify | close => exact h.setPc (hP.close _)
  | notified sent =>
    have hsent : Pends P { w with sent := sent } := h.congr rfl rfl
    exact hsent.setPc (hP.close _)
  | install =>
    have hnew : Pends P { w with
        shared := { w.shared with writeTx := some w.installed }
        installed := w.installed + 1 } := h.congr rfl rfl
    exact hnew.setPc (hP.publish _)
  | update u rest k hp =>
    have hpend : P w.acked (u :: rest) := by
      have hi := h i
      rw [hp] at hi
      exact hi
    have hdone : Pends P { w with shared := w.shared.update u } := h.congr rfl rfl
    exact hdone.setPc (hP.tail w.acked u rest hpend)
  | resume k =>
    cases k with
    | spawn e =>
      have hread : Pends P (w.setReader e .reading) := h.congr rfl rfl
      exact hread.setPc (hP.none _)
    | connect | ok => exact h.setPc (hP.none _)
  | sendInit e =>
    obtain ⟨sent, p, hp, heq⟩ := sendInit_eq (w := w) (i := i) (e := e)
    rw [heq]
    have hsent : Pends P { w with sent := sent } := h.congr rfl rfl
    obtain rfl | ⟨err, rfl⟩ := hp
    · exact hsent.setPc (hP.none _)
    · exact hsent.setPc (hP.none _)
  | frame e ev q =>
    have hpopped : Pends P { w with shared := { w.shared with inbound := q } } := h.congr rfl rfl
    exact hP.onFrame hpopped

/-- **Script rule.** -/
theorem step (h : Pends P w) (hs : Tasks.step w a = some w') : Pends P w' := by
  cases taskStep_inv hs with
  | call i op => exact hP.start h op
  | step i event hs => exact hP.callStep h hs
  | receive e item hr hs =>
    have hw := working_received hr hs
    exact h.congr hw.call hw.acked
  | reader e hs =>
    cases hs with
    | turn | settle | route | ack | miss | hand | enqueue | mark => exact h.congr rfl rfl
  | writerDown | register | unregister | readEvent => exact h.congr rfl rfl

end ScriptRule

end SootheClient.Client
