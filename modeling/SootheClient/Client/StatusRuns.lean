import SootheClient.Client.Leftovers
import SootheClient.Client.Status

/-!
# Runs that keep the status

The fields go apart in few ways: a connection is lost after a completed handshake, a handshake
completes on a connection that was lost, the last dial of a `connect` or a `reconnect` fails after
the cause was cleared. `Keeping` says of each such step which calls under way still put the fields
right. In runs of such steps the fields agree whenever nothing is left to write. Any other step
breaks them for good: no call or reader that is under way mends what it broke.
-/

namespace SootheClient.Client

open Tasks

/-! ## Updates that keep the status -/

/-- The update leaves nothing behind that nobody puts right. The loss of a connection drops the
sender and `connected`: after a completed handshake only while a `close` or a `reconnect` is still to
reset the handshake, or a `connect` to bring up the field. A handshake completes on a connection that
is up, or under the same exceptions. A `connect` clears the cause while `connected` is set, or while
another task is still to set `connected` or a cause. -/
def Bears (w : Tasks) : Update → Prop
  | .dropWriteTx => w.shared.handshakeComplete = true → w.Resetting ∨ w.Redialing
  | .setConnected false => w.shared.handshakeComplete = true → w.Resetting ∨ w.Raising
  | .setHandshakeComplete true =>
    (w.shared.writeTx.isSome = true ∨ w.Resetting ∨ w.Redialing) ∧
      (w.shared.connected = true ∨ w.Resetting ∨ w.Raising)
  | .clearCause => 0 < w.installed → w.shared.connected = true ∨ w.Raising ∨ w.Causing
  | _ => True

/-- What a call with its next step may do. A `connect` that finds `connected` does not dial: after a
completed handshake there is a sender, or another call is still to reset the handshake or to store
one. A `connect` or a `reconnect` whose last dial fails brings nothing up: a completed handshake is
reset by another call, or it has its sender and `connected`; and where there was a connection,
`connected` or a cause is set, or another task is still to set one of them. -/
def KeepingAt (w : Tasks) (i : ℕ) : Pc → Event → Prop
  | .checking, .next => w.shared.connected = true → w.shared.handshakeComplete = true →
    w.shared.writeTx.isSome = true ∨ w.Others i Call.resets ∨ w.Others i Call.redials
  | .dialing, .dialFailed => (w.call i).again ∨
    ((w.shared.handshakeComplete = true → w.Others i Call.resets ∨
        ((w.shared.writeTx.isSome = true ∨ w.Others i Call.redials) ∧
          (w.shared.connected = true ∨ w.Others i Call.raises))) ∧
      (0 < w.installed → w.shared.connected = true ∨ w.shared.disconnectCause.isSome = true ∨
        w.Others i Call.raises ∨ w.Others i Call.causes ∨ ∃ e, (w.reader e).causes))
  | .updating (u :: _) _, .next => Bears w u
  | _, _ => True

/-- A reader that exits goes through `mark_disconnected`. -/
def KeepingReader (w : Tasks) : ReaderPc → Prop
  | .marking (u :: _) => Bears w u
  | _ => True

/-- The step leaves nothing behind that nobody puts right. -/
def Keeping (w : Tasks) : Label → Prop
  | .step i event => KeepingAt w i (w.call i).pc event
  | .reader e => KeepingReader w (w.reader e)
  | _ => True

/-- A task performs an update. -/
structure Stores (w w' : Tasks) (u : Update) : Prop where
  status : w'.shared.status = (w.shared.update u).status
  installed : w'.installed = w.installed
  redialing : w'.Redialing ↔ w.Redialing
  raising : w'.Raising → w.Raising
  resetting : w'.Resetting → w.Resetting
  causing : w'.Causing → w.Causing
  raised : w.Raising → u = .setConnected true ∨ w'.Raising
  reset : w.Resetting → u = .setHandshakeComplete false ∨ w'.Resetting
  caused : w.Causing → (∃ cause, u = .setCause cause) ∨ w'.Causing
  raises : u = .setConnected true → w.Raising
  resets : u = .setHandshakeComplete false → w.Resetting
  causes : ∀ cause, u = .setCause cause → w.Causing
  /-- Who drops `connected` goes on to set a cause or to connect. -/
  goesOn : u = .setConnected false → w'.Raising ∨ w'.Causing

variable {w w' : Tasks} {i e : ℕ} {a : Label} {c c' : Call} {u : Update} {rest : List Update}
  {k : Cont} {event : Event} {run : List Label}

namespace Stores

variable (h : Stores w w' u)
include h

theorem writeTx : w'.shared.writeTx = (w.shared.update u).writeTx := congrArg Prod.fst h.status

theorem connected : w'.shared.connected = (w.shared.update u).connected :=
  congrArg (fun s => s.2.1) h.status

theorem handshakeComplete :
    w'.shared.handshakeComplete = (w.shared.update u).handshakeComplete :=
  congrArg (fun s => s.2.2.1) h.status

theorem disconnectCause : w'.shared.disconnectCause = (w.shared.update u).disconnectCause :=
  congrArg (fun s => s.2.2.2) h.status

theorem sends (hu : u ≠ .setHandshakeComplete false) :
    w.Resetting ∨ w.Redialing → w'.Resetting ∨ w'.Redialing :=
  Or.imp (fun hr => (h.reset hr).resolve_left hu) h.redialing.2

theorem lifts (hu : u ≠ .setHandshakeComplete false) (hu' : u ≠ .setConnected true) :
    w.Resetting ∨ w.Raising → w'.Resetting ∨ w'.Raising :=
  Or.imp (fun hr => (h.reset hr).resolve_left hu) fun hr => (h.raised hr).resolve_left hu'

theorem tells (hu : u ≠ .setConnected true) (hu' : ∀ cause, u ≠ .setCause cause) :
    w.Raising ∨ w.Causing → w'.Raising ∨ w'.Causing :=
  Or.imp (fun hr => (h.raised hr).resolve_left hu)
    fun hr => (h.caused hr).resolve_left fun ⟨cause, hc⟩ => hu' cause hc

end Stores

/-- An update that the fields bear. -/
theorem Pledged.stores (hw : Pledged w) (hk : Bears w u) (h : Stores w w' u) : Pledged w' := by
  have hcomp := h.handshakeComplete
  have hconn := h.connected
  have htx := h.writeTx
  have hcause := h.disconnectCause
  have hsends := h.sends
  have hlifts := h.lifts
  have htells := h.tells
  refine ⟨fun hc => ?_, fun hc => ?_, fun hi => ?_⟩
  · rw [hcomp] at hc
    rw [htx]
    cases u with
    | dropWriteTx => exact Or.inr (hsends (by simp) (hk hc))
    | setHandshakeComplete b =>
      cases b with
      | true => exact hk.1.imp_right (hsends (by simp))
      | false => cases hc
    | setConnected | setReaderAlive | setReadinessState | clearCause | setCause | clearWaiters
      | failWaiters | clearInbound | clearDegraded | setHeartbeatInterval =>
      exact (hw.sender hc).imp_right (hsends (by simp))
  · rw [hcomp] at hc
    rw [hconn]
    cases u with
    | setConnected b =>
      cases b with
      | true => exact Or.inl rfl
      | false => exact Or.inr (hlifts (by simp) (by simp) (hk hc))
    | setHandshakeComplete b =>
      cases b with
      | true => exact hk.2.imp_right (hlifts (by simp) (by simp))
      | false => cases hc
    | dropWriteTx | setReaderAlive | setReadinessState | clearCause | setCause | clearWaiters
      | failWaiters | clearInbound | clearDegraded | setHeartbeatInterval =>
      exact (hw.up hc).imp_right (hlifts (by simp) (by simp))
  · rw [h.installed] at hi
    rw [hconn, hcause]
    cases u with
    | setConnected b =>
      cases b with
      | true => exact Or.inl rfl
      | false => exact Or.inr (Or.inr (h.goesOn rfl))
    | clearCause => exact (hk hi).imp_right fun hr => Or.inr (htells (by simp) (by simp) hr)
    | setCause cause =>
      refine Or.inr (Or.inl ?_)
      show (w.shared.disconnectCause.or (some cause)).isSome = true
      cases w.shared.disconnectCause <;> rfl
    | dropWriteTx | setHandshakeComplete | setReaderAlive | setReadinessState | clearWaiters
      | failWaiters | clearInbound | clearDegraded | setHeartbeatInterval =>
      exact (hw.cause hi).imp_right (Or.imp_right (htells (by simp) (by simp)))

/-- What an update leaves agrees only where the fields bear it. -/
theorem Stores.bears (h : Stores w w' u) (hw : Pledged w') : Bears w u := by
  have hcomp := h.handshakeComplete
  have hconn := h.connected
  have htx := h.writeTx
  have hcause := h.disconnectCause
  cases u with
  | dropWriteTx =>
    intro hc
    rcases hw.sender (hcomp.trans hc) with hs | hr | hr
    · rw [htx] at hs
      cases hs
    · exact Or.inl (h.resetting hr)
    · exact Or.inr (h.redialing.1 hr)
  | setConnected b =>
    cases b with
    | true => trivial
    | false =>
      intro hc
      rcases hw.up (hcomp.trans hc) with hs | hr | hr
      · rw [hconn] at hs
        cases hs
      · exact Or.inl (h.resetting hr)
      · exact Or.inr (h.raising hr)
  | setHandshakeComplete b =>
    cases b with
    | true =>
      have hsender := hw.sender hcomp
      have hup := hw.up hcomp
      rw [htx] at hsender
      rw [hconn] at hup
      exact ⟨hsender.imp_right (Or.imp h.resetting h.redialing.1),
        hup.imp_right (Or.imp h.resetting h.raising)⟩
    | false => trivial
  | clearCause =>
    intro hi
    rcases hw.cause (h.installed ▸ hi) with hs | hs | hr | hr
    · exact Or.inl (hconn ▸ hs)
    · rw [hcause] at hs
      cases hs
    · exact Or.inr (Or.inl (h.raising hr))
    · exact Or.inr (Or.inr (h.causing hr))
  | setReaderAlive | setReadinessState | setCause | clearWaiters | failWaiters | clearInbound
    | clearDegraded | setHeartbeatInterval => trivial

/-! ## What an update does not mend -/

variable {s : Shared}

theorem update_handshakeComplete (hu : u ≠ .setHandshakeComplete false)
    (hc : s.handshakeComplete = true) : (s.update u).handshakeComplete = true := by
  cases u with
  | setHandshakeComplete b =>
    cases b with
    | true => rfl
    | false => exact absurd rfl hu
  | dropWriteTx | setConnected | setReaderAlive | setReadinessState | clearCause | setCause
    | clearWaiters | failWaiters | clearInbound | clearDegraded | setHeartbeatInterval => exact hc

theorem update_connected (hu : u ≠ .setConnected true) (hc : (s.update u).connected = true) :
    s.connected = true := by
  cases u with
  | setConnected b =>
    cases b with
    | true => exact absurd rfl hu
    | false => cases hc
  | dropWriteTx | setHandshakeComplete | setReaderAlive | setReadinessState | clearCause | setCause
    | clearWaiters | failWaiters | clearInbound | clearDegraded | setHeartbeatInterval => exact hc

theorem update_writeTx (hs : (s.update u).writeTx.isSome = true) : s.writeTx.isSome = true := by
  cases u with
  | dropWriteTx => cases hs
  | setConnected | setHandshakeComplete | setReaderAlive | setReadinessState | clearCause | setCause
    | clearWaiters | failWaiters | clearInbound | clearDegraded | setHeartbeatInterval => exact hs

theorem update_disconnectCause (hu : ∀ cause, u ≠ .setCause cause)
    (hs : (s.update u).disconnectCause.isSome = true) : s.disconnectCause.isSome = true := by
  cases u with
  | clearCause => cases hs
  | setCause cause => exact absurd rfl (hu cause)
  | dropWriteTx | setConnected | setHandshakeComplete | setReaderAlive | setReadinessState
    | clearWaiters | failWaiters | clearInbound | clearDegraded | setHeartbeatInterval => exact hs

/-- An update mends nothing: somebody was still to perform it. -/
theorem Stores.before (h : Stores w w' u) (hw : Pledged w') : Pledged w := by
  have hcomp : u ≠ .setHandshakeComplete false → w.shared.handshakeComplete = true →
      w'.shared.handshakeComplete = true := by
    intro hu hc
    rw [h.handshakeComplete]
    exact update_handshakeComplete hu hc
  have hconn : w'.shared.connected = true → w.shared.connected = true ∨ w.Raising := by
    intro hc
    by_cases hu : u = .setConnected true
    · exact Or.inr (h.raises hu)
    · exact Or.inl (update_connected hu (h.connected ▸ hc))
  refine ⟨fun hc => ?_, fun hc => ?_, fun hi => ?_⟩
  · by_cases hu : u = .setHandshakeComplete false
    · exact Or.inr (Or.inl (h.resets hu))
    rcases hw.sender (hcomp hu hc) with hs | hr | hr
    · exact Or.inl (update_writeTx (h.writeTx ▸ hs))
    · exact Or.inr (Or.inl (h.resetting hr))
    · exact Or.inr (Or.inr (h.redialing.1 hr))
  · by_cases hu : u = .setHandshakeComplete false
    · exact Or.inr (Or.inl (h.resets hu))
    rcases hw.up (hcomp hu hc) with hs | hr | hr
    · exact (hconn hs).imp_right Or.inr
    · exact Or.inr (Or.inl (h.resetting hr))
    · exact Or.inr (Or.inr (h.raising hr))
  · rcases hw.cause (h.installed.symm ▸ hi) with hs | hs | hr | hr
    · exact (hconn hs).imp_right fun hr => Or.inr (Or.inl hr)
    · by_cases hu : ∃ cause, u = .setCause cause
      · obtain ⟨cause, rfl⟩ := hu
        exact Or.inr (Or.inr (Or.inr (h.causes cause rfl)))
      · refine Or.inr (Or.inl (update_disconnectCause (fun cause hc => hu ⟨cause, hc⟩) ?_))
        exact h.disconnectCause ▸ hs
    · exact Or.inr (Or.inr (Or.inl (h.raising hr)))
    · exact Or.inr (Or.inr (Or.inr (h.causing hr)))

/-! ## The tasks that perform updates -/

/-- Who is to drop `connected` goes on to set a cause or to connect. -/
def Scripted (w : Tasks) : Prop :=
  ∀ i rest k, (w.call i).pc = .updating rest k →
    k = .connect ∨ rest <:+ closeUpdates ∨ .setConnected false ∉ rest

theorem exists_setCall {P : Call → Prop} (h : P (w.call i) → P c) :
    (∃ j, P (w.call j)) → ∃ j, P ((w.setCall i c).call j) := by
  rintro ⟨j, hj⟩
  by_cases hji : j = i
  · subst hji
    exact ⟨j, by rw [setCall_call_self]; exact h hj⟩
  · exact ⟨j, by rw [setCall_call_ne hji]; exact hj⟩

theorem exists_of_setCall {P : Call → Prop} (h : P c → P (w.call i)) :
    (∃ j, P ((w.setCall i c).call j)) → ∃ j, P (w.call j) := by
  rintro ⟨j, hj⟩
  by_cases hji : j = i
  · subst hji
    rw [setCall_call_self] at hj
    exact ⟨j, h hj⟩
  · rw [setCall_call_ne hji] at hj
    exact ⟨j, hj⟩

/-- The second call is the first one when the update is performed. -/
structure Call.Performed (c c' : Call) (u : Update) : Prop where
  redials : c'.redials ↔ c.redials
  own : u ∈ c.pc.pending
  fewer : ∀ v ∈ c'.pc.pending, v ∈ c.pc.pending
  kept : ∀ v ∈ c.pc.pending, u ≠ v → v ∈ c'.pc.pending

theorem performed_updating (hp : c.pc = .updating (u :: rest) k) :
    c.Performed { c with pc := .updating rest k } u := by
  have hpend : c.pc.pending = u :: rest := by rw [hp]; rfl
  refine ⟨?_, ?_, fun v hv => ?_, fun v hv hne => ?_⟩
  · unfold Call.redials
    rw [hp]
    cases k <;> exact Iff.rfl
  · rw [hpend]
    exact List.mem_cons_self
  · rw [hpend]
    exact List.mem_cons_of_mem u hv
  · rw [hpend] at hv
    exact List.mem_of_ne_of_mem (Ne.symm hne) hv

/-- Who drops `connected` in `close` goes on to set a cause. -/
theorem causes_of_suffix (h : .setConnected false :: rest <:+ closeUpdates) :
    .setCause .clean ∈ rest := by
  simp only [closeUpdates, markDisconnected, List.cons_append, List.nil_append,
    List.suffix_cons_iff, List.cons.injEq, List.suffix_nil, reduceCtorEq, false_and, or_false,
    false_or, true_and] at h
  rw [h]
  simp

/-- A call performs an update. -/
theorem stores_update (hs : Scripted w) (hp : (w.call i).pc = .updating (u :: rest) k) :
    Stores w ({ w with shared := w.shared.update u }.setPc i (.updating rest k)) u := by
  have hperf := performed_updating hp
  have hself : ({ w with shared := w.shared.update u }.setPc i (.updating rest k)).call i =
      { w.call i with pc := .updating rest k } := setCall_call_self
  refine
    { status := rfl
      installed := rfl
      redialing := ⟨exists_of_setCall (P := Call.redials) hperf.redials.1,
        exists_setCall (P := Call.redials) hperf.redials.2⟩
      raising := exists_of_setCall (P := Call.raises) (Or.imp hperf.redials.1 (hperf.fewer _))
      resetting := exists_of_setCall (P := Call.resets) (hperf.fewer _)
      causing := Or.imp_left (exists_of_setCall (P := Call.causes) ?_)
      raised := fun hr => ?_
      reset := fun hr => ?_
      caused := fun hr => ?_
      raises := fun hu => ⟨i, Or.inr (hu ▸ hperf.own)⟩
      resets := fun hu => ⟨i, show _ ∈ _ from hu ▸ hperf.own⟩
      causes := fun cause hu => Or.inl ⟨i, cause, hu ▸ hperf.own⟩
      goesOn := fun hu => ?_ }
  · exact fun ⟨cause, hc⟩ => ⟨cause, hperf.fewer _ hc⟩
  · by_cases hu : u = .setConnected true
    · exact Or.inl hu
    · exact Or.inr (exists_setCall (P := Call.raises)
        (Or.imp hperf.redials.2 fun h => hperf.kept _ h hu) hr)
  · by_cases hu : u = .setHandshakeComplete false
    · exact Or.inl hu
    · exact Or.inr (exists_setCall (P := Call.resets) (fun h => hperf.kept _ h hu) hr)
  · by_cases hu : ∃ cause, u = .setCause cause
    · exact Or.inl hu
    · refine Or.inr (hr.imp_left (exists_setCall (P := Call.causes) fun ⟨cause, h⟩ => ?_))
      exact ⟨cause, hperf.kept _ h fun hc => hu ⟨cause, hc⟩⟩
  · subst hu
    rcases hs i _ k hp with rfl | hsuf | hn
    · exact Or.inl ⟨i, Or.inl (by rw [hself]; trivial)⟩
    · exact Or.inr (Or.inl ⟨i, .clean, by rw [hself]; exact causes_of_suffix hsuf⟩)
    · exact absurd List.mem_cons_self hn

/-- A reader performs an update of `mark_disconnected`. -/
theorem stores_mark (ho : Owned w) (hr : w.reader e = .marking (u :: rest)) :
    Stores w ({ w with shared := w.shared.update u }.setReader e (.marking rest)) u := by
  have hsuf := mark_cases (ho.marks e _ hr)
  have hown : ∀ cause, u = .setCause cause → (w.reader e).causes := by
    rintro cause rfl
    rw [hr]
    exact ⟨cause, List.mem_cons_self⟩
  refine
    { status := rfl
      installed := rfl
      redialing := Iff.rfl
      raising := id
      resetting := id
      causing := Or.imp_right ?_
      raised := Or.inr
      reset := Or.inr
      caused := fun hc => ?_
      raises := fun hu => ?_
      resets := fun hu => ?_
      causes := fun cause hu => Or.inr ⟨e, hown cause hu⟩
      goesOn := fun hu => ?_ }
  · rintro ⟨e', he'⟩
    by_cases hee : e' = e
    · subst hee
      rw [setReader_reader_self] at he'
      obtain ⟨cause, hmem⟩ := he'
      refine ⟨e', ?_⟩
      rw [hr]
      exact ⟨cause, List.mem_cons_of_mem u hmem⟩
    · rw [setReader_reader_ne hee] at he'
      exact ⟨e', he'⟩
  · by_cases hu : ∃ cause, u = .setCause cause
    · exact Or.inl hu
    refine Or.inr (hc.imp_right fun ⟨e', he'⟩ => ⟨e', ?_⟩)
    by_cases hee : e' = e
    · subst hee
      rw [hr] at he'
      obtain ⟨cause, hmem⟩ := he'
      rw [setReader_reader_self]
      refine ⟨cause, List.mem_of_ne_of_mem ?_ hmem⟩
      rintro rfl
      exact hu ⟨cause, rfl⟩
    · rw [setReader_reader_ne hee]
      exact he'
  · rcases hsuf with ⟨rfl, -⟩ | ⟨rfl, -⟩ | ⟨rfl, -⟩ | ⟨rfl, -⟩ | ⟨rfl, -⟩ <;> cases hu
  · rcases hsuf with ⟨rfl, -⟩ | ⟨rfl, -⟩ | ⟨rfl, -⟩ | ⟨rfl, -⟩ | ⟨rfl, -⟩ <;> cases hu
  · subst hu
    refine Or.inr (Or.inr ⟨e, ?_⟩)
    rw [setReader_reader_self]
    rcases hsuf with ⟨-, rfl⟩ | ⟨hn, -⟩ | ⟨hn, -⟩ | ⟨hn, -⟩ | ⟨hn, -⟩
    · exact ⟨.unclean, by simp⟩
    all_goals cases hn

/-! ## The call that is out -/

theorem without_call_self : (w.without i).call i = {} := setCall_call_self

theorem without_call_ne {j : ℕ} (hj : j ≠ i) : (w.without i).call j = (w.setCall i c).call j := by
  unfold Tasks.without
  rw [setCall_call_ne hj, setCall_call_ne hj]

/-- A call can only add to what is to be written. -/
theorem Pledged.setCall (h : Pledged (w.without i)) : Pledged (w.setCall i c) := by
  suffices hsilent : Silent (w.without i) (w.setCall i c) from hsilent.pledged h
  refine .of_call (i := i) rfl rfl (fun _ => id) (fun j hj => (without_call_ne hj).symm)
    (.of_nothing ?_ ?_)
  · rw [without_call_self]
    exact fun u hu => absurd hu List.not_mem_nil
  · rw [without_call_self]
    exact id

theorem Pledged.of_without (h : Pledged (w.without i)) : Pledged w := by
  have hset := h.setCall (c := w.call i)
  unfold Tasks.setCall at hset
  rw [Function.update_eq_self] at hset
  exact hset

/-- A call that returned and dials no more is as good as none. -/
theorem Pledged.without {r : Except Error Unit}
    (hr : ¬ Call.redials { w.call i with pc := .returned r })
    (h : Pledged (w.setPc i (.returned r))) : Pledged (w.without i) := by
  suffices hsilent : Silent (w.setPc i (.returned r)) (w.without i) from hsilent.pledged h
  refine .of_call (i := i) rfl rfl (fun _ => id) (fun j hj => without_call_ne hj)
    (.of_nothing ?_ ?_)
  · rw [setPc_pc_self]
    exact fun u hu => absurd hu List.not_mem_nil
  · unfold Tasks.setPc
    rw [setCall_call_self]
    exact hr

theorem others_iff {P : Call → Prop} (hP : ¬ P {}) :
    (∃ j, P ((w.without i).call j)) ↔ w.Others i P := by
  constructor
  · rintro ⟨j, hj⟩
    have hne : j ≠ i := by
      rintro rfl
      rw [without_call_self] at hj
      exact hP hj
    unfold Tasks.without at hj
    rw [setCall_call_ne hne] at hj
    exact ⟨j, hne, hj⟩
  · rintro ⟨j, hne, hj⟩
    refine ⟨j, ?_⟩
    unfold Tasks.without
    rwa [setCall_call_ne hne]

theorem resetting_without : (w.without i).Resetting ↔ w.Others i Call.resets :=
  others_iff (P := Call.resets) fun h => absurd h List.not_mem_nil

theorem redialing_without : (w.without i).Redialing ↔ w.Others i Call.redials :=
  others_iff (P := Call.redials) id

theorem raising_without : (w.without i).Raising ↔ w.Others i Call.raises :=
  others_iff (P := Call.raises) fun h => h.elim id fun hm => absurd hm List.not_mem_nil

theorem causing_without :
    (w.without i).Causing ↔ w.Others i Call.causes ∨ ∃ e, (w.reader e).causes :=
  or_congr_left (others_iff (P := Call.causes) fun ⟨_, h⟩ => absurd h List.not_mem_nil)

theorem pledged_connected (hc : w.shared.connected = true) : Pledged (w.without i) ↔
    (w.shared.handshakeComplete = true →
      w.shared.writeTx.isSome = true ∨ w.Others i Call.resets ∨ w.Others i Call.redials) := by
  rw [← resetting_without, ← redialing_without]
  exact ⟨fun h => h.sender, fun h => ⟨h, fun _ => Or.inl hc, fun _ => Or.inl hc⟩⟩

/-- What a call that gives up leaves to the others. -/
theorem pledged_without : Pledged (w.without i) ↔
    (w.shared.handshakeComplete = true → w.Others i Call.resets ∨
      ((w.shared.writeTx.isSome = true ∨ w.Others i Call.redials) ∧
        (w.shared.connected = true ∨ w.Others i Call.raises))) ∧
    (0 < w.installed → w.shared.connected = true ∨ w.shared.disconnectCause.isSome = true ∨
      w.Others i Call.raises ∨ w.Others i Call.causes ∨ ∃ e, (w.reader e).causes) := by
  rw [← resetting_without, ← redialing_without, ← raising_without, ← causing_without]
  constructor
  · intro h
    refine ⟨fun hc => ?_, h.cause⟩
    rcases h.sender hc with hs | hr | hs
    · exact (h.up hc).elim (fun hu => Or.inr ⟨Or.inl hs, Or.inl hu⟩)
        (Or.imp_right fun hu => ⟨Or.inl hs, Or.inr hu⟩)
    · exact Or.inl hr
    · exact (h.up hc).elim (fun hu => Or.inr ⟨Or.inr hs, Or.inl hu⟩)
        (Or.imp_right fun hu => ⟨Or.inr hs, Or.inr hu⟩)
  · rintro ⟨hcomplete, hcause⟩
    refine ⟨fun hc => ?_, fun hc => ?_, hcause⟩
    · rcases hcomplete hc with hr | ⟨hs | hs, -⟩
      · exact Or.inr (Or.inl hr)
      · exact Or.inl hs
      · exact Or.inr (Or.inr hs)
    · rcases hcomplete hc with hr | ⟨-, hu | hu⟩
      · exact Or.inr (Or.inl hr)
      · exact Or.inl hu
      · exact Or.inr (Or.inr hu)

theorem pledged_of_redials (hr : (w.call i).redials) : Pledged w where
  sender _ := Or.inr (Or.inr ⟨i, hr⟩)
  up _ := Or.inr (Or.inr ⟨i, Or.inl hr⟩)
  cause _ := Or.inr (Or.inr (Or.inl ⟨i, Or.inl hr⟩))

/-- The new sender is there, and `connected` is set next. -/
theorem pledged_install : Pledged (w.install i) := by
  have hraise : (w.install i).Raising := by
    refine ⟨i, Or.inr ?_⟩
    unfold Tasks.install
    rw [setPc_pc_self]
    exact List.mem_cons_self
  exact ⟨fun _ => Or.inl rfl, fun _ => Or.inr (Or.inr hraise),
    fun _ => Or.inr (Or.inr (Or.inl hraise))⟩

/-! ## Steps -/

theorem scripted_init : Scripted {} := fun _ _ _ h => nomatch h

theorem Scripted.congr (h : Scripted w) (hc : w'.call = w.call) : Scripted w' := by
  unfold Scripted
  rw [hc]
  exact h

/-- A call goes to a place with its script. -/
theorem Scripted.setCall (h : Scripted w) {s : Shared} {sent : List (ℕ × Outgoing)}
    {acked : List (ℕ × Json)} {reader : ℕ → ReaderPc} {n : ℕ}
    (hc : ∀ rest k, c.pc = .updating rest k →
      k = .connect ∨ rest <:+ closeUpdates ∨ .setConnected false ∉ rest) :
    Scripted ({ w with
      shared := s
      sent := sent
      acked := acked
      reader := reader
      installed := n }.setCall i c) := by
  intro j rest k hp
  by_cases hj : j = i
  · subst hj
    rw [setCall_call_self] at hp
    exact hc rest k hp
  · rw [setCall_call_ne hj] at hp
    exact h j rest k hp

theorem scripted_callStep (h : Scripted w) (hs : CallStep w i event w') : Scripted w' := by
  have hno : ∀ {p : Pc}, (∀ rest k, p ≠ .updating rest k) → ∀ rest k, p = .updating rest k →
      k = .connect ∨ rest <:+ closeUpdates ∨ .setConnected false ∉ rest :=
    fun hne rest k hp => absurd hp (hne rest k)
  cases hs with
  | connected | dial | dialed | dialFailed | deadline | retry | wake | notify =>
    exact h.setCall (hno nofun)
  | install =>
    refine h.setCall fun rest k hp => ?_
    cases hp
    exact Or.inr (Or.inr (by decide))
  | update u rest k hp =>
    refine h.setCall fun rest' k' hp' => ?_
    cases hp'
    rcases h i _ k hp with hk | hsuf | hn
    · exact Or.inl hk
    · exact Or.inr (Or.inl ((List.suffix_cons u rest).trans hsuf))
    · exact Or.inr (Or.inr fun hmem => hn (List.mem_cons_of_mem u hmem))
  | resume k hp => cases k <;> exact h.setCall (hno nofun)
  | sendInit e hp =>
    obtain ⟨sent, p, hpc, heq⟩ := sendInit_eq (w := w) (i := i) (e := e)
    rw [heq]
    obtain rfl | ⟨err, rfl⟩ := hpc
    · exact h.setCall (hno nofun)
    · exact h.setCall (hno nofun)
  | frame e ev q hp hq =>
    unfold Tasks.onFrame
    cases handshakeVerdict ev.2 with
    | ignore => exact h
    | resend | fail => exact h.setCall (hno nofun)
    | accept state =>
      refine h.setCall fun rest k hp => ?_
      cases hp
      refine Or.inr (Or.inr fun hmem => ?_)
      unfold acceptUpdates at hmem
      simp only [List.cons_append, List.nil_append, List.mem_cons, reduceCtorEq, false_or,
        Option.mem_toList, Option.map_eq_some_iff, and_false, exists_false] at hmem
  | close | notified =>
    refine h.setCall fun rest k hp => ?_
    cases hp
    exact Or.inr (Or.inl List.suffix_rfl)

theorem scripted_start {op : Op} (h : Scripted w) : Scripted (w.start i op) := by
  cases op with
  | connect | connectWithRetries | close => exact h.setCall fun _ _ hp => nomatch hp
  | reconnect =>
    refine h.setCall fun rest k hp => ?_
    cases hp
    exact Or.inl rfl

theorem scripted_step (h : Scripted w) (hs : Tasks.step w a = some w') : Scripted w' := by
  cases taskStep_inv hs with
  | call i op => exact scripted_start h
  | step i event hs => exact scripted_callStep h hs
  | receive e item hr hs => exact h.congr (working_received hr hs).call
  | reader e =>
    rcases readerStep_cases hs with hw | ⟨u, rest, -, rfl⟩
    · exact h.congr hw.call
    · exact h
  | writerDown | register | unregister | readEvent => exact h

/-- **Step lemma.** -/
theorem pledged_step (ho : Owned w) (hsc : Scripted w) (h : Pledged w) (hk : Keeping w a)
    (hs : Tasks.step w a = some w') : Pledged w' := by
  cases step_status ho hs with
  | silent hsilent => exact hsilent.pledged h
  | connected i hp hc =>
    have hat : KeepingAt w i .checking .next := hp ▸ hk
    exact ((pledged_connected hc).2 (hat hc)).setCall
  | dialFailed i hp =>
    have hat : KeepingAt w i .dialing .dialFailed := hp ▸ hk
    rcases hat with hagain | hw
    · refine pledged_of_redials (i := i) ?_
      unfold setPc
      rw [setCall_call_self]
      exact hagain
    · exact (pledged_without.2 hw).setCall
  | install i hp => exact pledged_install
  | update i u rest k hp =>
    have hat : KeepingAt w i (.updating (u :: rest) k) .next := hp ▸ hk
    exact h.stores hat (stores_update hsc hp)
  | mark e u rest hr =>
    have hat : KeepingReader w (.marking (u :: rest)) := hr ▸ hk
    exact h.stores hat (stores_mark ho hr)

/-- A step that leaves what agrees was borne. -/
theorem keeping_of_pledged (ho : Owned w) (hsc : Scripted w) (h : Pledged w')
    (hs : Tasks.step w a = some w') : Keeping w a := by
  cases a with
  | step i event =>
    show KeepingAt w i (w.call i).pc event
    unfold KeepingAt
    split
    · rename_i hp
      intro hc
      have hret : w' = w.setPc i (.returned (.ok ())) := by
        cases callStep_inv hs with
        | connected => rfl
        | dial _ hn => exact absurd (hn.symm.trans hc) (by decide)
        | install hp' | update _ _ _ hp' | resume _ hp' | sendInit _ hp' | frame _ _ _ hp'
        | retry _ _ _ hp' | wake hp' | notify hp' | close hp' | notified _ hp' =>
          exact absurd (hp.symm.trans hp') (by simp)
      rw [hret] at h
      exact (pledged_connected hc).1 (h.without id)
    · rename_i hp
      by_cases hagain : (w.call i).again
      · exact Or.inl hagain
      have hret : w' = w.setPc i (.returned (.error (.connection 1))) := by
        cases callStep_inv hs
        rfl
      rw [hret] at h
      exact Or.inr (pledged_without.1 (h.without (r := .error (.connection 1)) hagain))
    · rename_i u rest k hp
      obtain rfl := Option.some.inj ((step_updating hp).symm.trans hs)
      exact (stores_update hsc hp).bears h
    · trivial
  | reader e =>
    show KeepingReader w (w.reader e)
    unfold KeepingReader
    split
    · rename_i u rest hr
      have hmark : w' = { w with shared := w.shared.update u }.setReader e (.marking rest) := by
        have hs' : w.readerStep e = some w' := hs
        unfold Tasks.readerStep at hs'
        rw [hr] at hs'
        exact (Option.some.inj hs').symm
      rw [hmark] at h
      exact (stores_mark ho hr).bears h
    · trivial
  | call | receive | writerDown | register | unregister | readEvent => trivial

/-- A call or a reader that goes on does not mend what does not agree. -/
theorem pledged_before (ho : Owned w) (hsc : Scripted w) (hgo : a.goesOn = true)
    (hnone : ∀ i, (w'.call i).retries = none) (h : Pledged w') (hs : Tasks.step w a = some w') :
    Pledged w := by
  cases step_status ho hs with
  | silent _ hback => exact (hback hgo hnone).pledged h
  | connected i hp hc => exact (h.without id).of_without
  | dialFailed i hp | install i hp =>
    refine pledged_of_redials (i := i) ?_
    unfold Call.redials
    rw [hp]
    trivial
  | update i u rest k hp => exact (stores_update hsc hp).before h
  | mark e u rest hr => exact (stores_mark ho hr).before h

/-! ## Runs -/

theorem setPc_retries {p : Pc} {j : ℕ} :
    ((w.setPc i p).call j).retries = (w.call j).retries := by
  by_cases hj : j = i
  · subst hj
    unfold setPc
    rw [setCall_call_self]
  · rw [setPc_call_ne hj]

/-- A call keeps its attempts, or it takes one more. -/
theorem retries_callStep (hs : CallStep w i event w') {j : ℕ} (hnone : (w'.call j).retries = none) :
    (w.call j).retries = none := by
  cases hs with
  | connected | dial | dialed | dialFailed | deadline | wake | notify | update | close | notified
    | install => exact setPc_retries.symm.trans hnone
  | resume k hp => cases k <;> exact setPc_retries.symm.trans hnone
  | sendInit e hp =>
    obtain ⟨sent, p, -, heq⟩ := sendInit_eq (w := w) (i := i) (e := e)
    rw [heq] at hnone
    exact setPc_retries.symm.trans hnone
  | frame e ev q hp hq =>
    unfold Tasks.onFrame at hnone
    generalize handshakeVerdict ev.2 = v at hnone
    cases v with
    | ignore => exact hnone
    | resend | accept | fail => exact setPc_retries.symm.trans hnone
  | retry =>
    by_cases hj : j = i
    · subst hj
      rw [setCall_call_self] at hnone
      cases hnone
    · rw [setCall_call_ne hj] at hnone
      exact hnone

theorem retries_step (hgo : a.goesOn = true) (hs : Tasks.step w a = some w')
    (hnone : ∀ i, (w'.call i).retries = none) : ∀ i, (w.call i).retries = none := by
  intro j
  cases a with
  | step i event => exact retries_callStep (callStep_inv hs) (hnone j)
  | reader e =>
    rcases readerStep_cases hs with hw | ⟨u, rest, -, rfl⟩
    · rw [← hw.call]
      exact hnone j
    · exact hnone j
  | call | receive | writerDown | register | unregister | readEvent => cases hgo

/-- What calls and readers leave that go on agrees only if it did before. -/
theorem pledged_of_goesOn {more : List Label} (ho : Owned w) (hsc : Scripted w)
    (hgo : ∀ a ∈ more, a.goesOn = true) (hexec : Lts.exec Tasks.step w more = some w')
    (hnone : ∀ i, (w'.call i).retries = none) (h : Pledged w') :
    Pledged w ∧ ∀ i, (w.call i).retries = none := by
  induction more generalizing w with
  | nil =>
    obtain rfl := Option.some.inj hexec
    exact ⟨h, hnone⟩
  | cons a more ih =>
    obtain ⟨t, ht, hrest⟩ := Lts.exec_cons_eq_some.1 hexec
    have hga := hgo a List.mem_cons_self
    obtain ⟨hw, hn⟩ := ih (ho.step ht) (scripted_step hsc ht)
      (fun b hb => hgo b (List.mem_cons_of_mem a hb)) hrest
    exact ⟨pledged_before ho hsc hga hn hw ht, retries_step hga ht hn⟩

theorem pledged_init : Pledged {} := ⟨nofun, nofun, nofun⟩

theorem pledged_of_keeping (hk : Lts.Guarded Tasks.step Keeping {} run)
    (hw : Lts.exec Tasks.step {} run = some w) : Owned w ∧ Scripted w ∧ Pledged w :=
  Lts.inv_of_guarded (I := fun w => Owned w ∧ Scripted w ∧ Pledged w)
    (fun _ _ _ h hG hs =>
      ⟨h.1.step hs, scripted_step h.2.1 hs, pledged_step h.1 h.2.1 h.2.2 hG hs⟩)
    ⟨owned_init, scripted_init, pledged_init⟩ hk hw

/-- **Status.** In runs whose steps the fields bear, the fields agree whenever no call is in
progress. After any other step they agree in no such state that the tasks under way lead to. -/
theorem status_agrees (run : List Label) (w : Tasks) (hk : Lts.Guarded Tasks.step Keeping {} run)
    (hw : Lts.exec Tasks.step {} run = some w) : (Settled w → StatusAgrees w) ∧
      ∀ a w', Tasks.step w a = some w' → ¬ Keeping w a →
        ∀ more w'', (∀ b ∈ more, b.goesOn = true) → Lts.exec Tasks.step w' more = some w'' →
          Settled w'' → (∀ i, (w''.call i).retries = none) → ¬ StatusAgrees w'' := by
  obtain ⟨ho, hsc, hp⟩ := pledged_of_keeping hk hw
  refine ⟨fun hs => hs.agrees_iff.2 hp, ?_⟩
  intro a w' hstep hno more w'' hgo hexec hs hnone hagree
  have hlater := pledged_of_goesOn (ho.step hstep) (scripted_step hsc hstep) hgo hexec hnone
    (hs.agrees_iff.1 hagree)
  exact hno (keeping_of_pledged ho hsc hlater.1 hstep)

/-! ## Plain steps -/

/-- Whatever the other tasks are still to write, the fields bear the update. -/
def Plain (s : Shared) (rest : List Update) : Update → Prop
  | .dropWriteTx | .setConnected false =>
    s.handshakeComplete = false ∨ .setHandshakeComplete false ∈ rest
  | .setHandshakeComplete true => s.writeTx.isSome = true ∧ s.connected = true
  | .clearCause => s.connected = true
  | _ => True

def PlainAt (s : Shared) : Pc → Event → Prop
  | .checking, .next => s.connected = false
  | .dialing, .dialFailed => False
  | .updating (u :: rest) _, .next => Plain s rest u
  | _, _ => True

def PlainReader (s : Shared) : ReaderPc → Prop
  | .marking (u :: _) => Plain s [] u
  | _ => True

/-- A condition that is enough and can be tested. -/
def PlainStep (w : Tasks) : Label → Prop
  | .step i event => PlainAt w.shared (w.call i).pc event
  | .reader e => PlainReader w.shared (w.reader e)
  | _ => True

instance (s : Shared) (rest : List Update) (u : Update) : Decidable (Plain s rest u) := by
  unfold Plain
  split <;> infer_instance

instance (s : Shared) (p : Pc) (event : Event) : Decidable (PlainAt s p event) := by
  unfold PlainAt
  split <;> infer_instance

instance (s : Shared) (pc : ReaderPc) : Decidable (PlainReader s pc) := by
  unfold PlainReader
  split <;> infer_instance

instance (w : Tasks) : ∀ a, Decidable (PlainStep w a)
  | .step i event => inferInstanceAs (Decidable (PlainAt w.shared (w.call i).pc event))
  | .reader e => inferInstanceAs (Decidable (PlainReader w.shared (w.reader e)))
  | .call _ _ | .receive _ _ | .writerDown _ | .register _ | .unregister _ | .readEvent =>
    isTrue trivial

theorem bears_of_plain (hr : .setHandshakeComplete false ∈ rest → w.Resetting)
    (h : Plain w.shared rest u) : Bears w u := by
  cases u with
  | dropWriteTx =>
    intro hc
    rcases h with hf | hmem
    · exact absurd (hf.symm.trans hc) (by decide)
    · exact Or.inl (hr hmem)
  | setConnected b =>
    cases b with
    | true => trivial
    | false =>
      intro hc
      rcases h with hf | hmem
      · exact absurd (hf.symm.trans hc) (by decide)
      · exact Or.inl (hr hmem)
  | setHandshakeComplete b =>
    cases b with
    | true => exact ⟨Or.inl h.1, Or.inl h.2⟩
    | false => trivial
  | clearCause => exact fun _ => Or.inl h
  | setReaderAlive | setReadinessState | setCause | clearWaiters | failWaiters | clearInbound
    | clearDegraded | setHeartbeatInterval => trivial

theorem keeping_of_plain (h : PlainStep w a) : Keeping w a := by
  cases a with
  | step i event =>
    have hat : PlainAt w.shared (w.call i).pc event := h
    show KeepingAt w i (w.call i).pc event
    unfold KeepingAt
    split
    · rename_i hp
      rw [hp] at hat
      have hconn : w.shared.connected = false := hat
      intro hc
      exact absurd (hconn.symm.trans hc) (by decide)
    · rename_i hp
      rw [hp] at hat
      exact absurd hat id
    · rename_i u rest k hp
      rw [hp] at hat
      refine bears_of_plain (fun hmem => ⟨i, ?_⟩) hat
      unfold Call.resets
      rw [hp]
      exact List.mem_cons_of_mem u hmem
    · trivial
  | reader e =>
    have hat : PlainReader w.shared (w.reader e) := h
    show KeepingReader w (w.reader e)
    unfold KeepingReader
    split
    · rename_i u rest hr
      rw [hr] at hat
      exact bears_of_plain (fun hmem => absurd hmem List.not_mem_nil) hat
    · trivial
  | call | receive | writerDown | register | unregister | readEvent => trivial

/-- A client whose readers all finished. -/
theorem settled_of_exec (hw : Lts.exec Tasks.step {} run = some w)
    (hcalls : ∀ i, (Lts.exec Tasks.step {} run).map (fun w => w.free i) = some true)
    (hreaders : ∀ e, (Lts.exec Tasks.step {} run).map (fun w => w.reader e) = some .unspawned ∨
      (Lts.exec Tasks.step {} run).map (fun w => w.reader e) = some (.marking [])) :
    Settled w := by
  rw [hw] at hcalls hreaders
  refine ⟨fun i => Option.some.inj (hcalls i), fun e u rest hr => ?_⟩
  rcases hreaders e with he | he
  · exact absurd (hr.symm.trans (Option.some.inj he)) (by simp)
  · exact absurd (hr.symm.trans (Option.some.inj he)) (by simp)

/-- A connection is acknowledged and closed. -/
def hangsUp : List Label :=
  dials ++ delivers 0 (connectionAck "ready") ++ goes 4 ++ [.call 0 .close] ++ goes 11 ++ ends 0

theorem status_agrees_closed : ∃ w, Lts.exec Tasks.step {} hangsUp = some w ∧
    w.installed = 1 ∧ w.shared.connected = false ∧ StatusAgrees w := by
  have hrun : (Lts.exec Tasks.step {} hangsUp).map
      (fun w => (w.installed, w.shared.connected)) = some (1, false) := rfl
  obtain ⟨w, hw, hpc⟩ := Option.map_eq_some_iff.1 hrun
  obtain ⟨hi, hc⟩ := Prod.mk.inj hpc
  have hplain : Lts.Guarded Tasks.step PlainStep {} hangsUp := by decide +kernel
  refine ⟨w, hw, hi, hc,
    (status_agrees hangsUp w (hplain.mono fun _ _ => keeping_of_plain) hw).1 ?_⟩
  refine settled_of_exec hw (fun i => ?_) fun e => ?_
  · cases i <;> rfl
  · cases e with
    | zero => exact Or.inr rfl
    | succ e => exact Or.inl rfl

/-- `handshake_complete` outlives the connection. -/
theorem status_agrees_fails : ¬ ∀ run w, Lts.exec Tasks.step {} run = some w →
    Settled w → StatusAgrees w := by
  intro h
  have hrun : (Lts.exec Tasks.step {} (leaves [])).map
      (fun w => (w.shared.handshakeComplete, w.shared.connected)) = some (true, false) := rfl
  obtain ⟨w, hw, hpc⟩ := Option.map_eq_some_iff.1 hrun
  obtain ⟨hcomp, hconn⟩ := Prod.mk.inj hpc
  have hs : Settled w := by
    refine settled_of_exec hw (fun i => ?_) fun e => ?_
    · cases i <;> rfl
    · cases e with
      | zero => exact Or.inr rfl
      | succ e => exact Or.inl rfl
  exact absurd (((h _ w hw hs).complete hcomp).1.symm.trans hconn) (by decide)

/-- The dial of a `reconnect` fails: no connection is there, and no cause. -/
example : (Lts.exec Tasks.step {} (leaves [] ++ [.call 0 .reconnect] ++ goes 11 ++
    [.step 0 .dialFailed])).map
      (fun w => (w.free 0, w.shared.connected, w.shared.disconnectCause)) =
        some (true, false, none) := rfl

end SootheClient.Client
