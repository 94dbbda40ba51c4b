import SootheClient.Client.Accounting

/-!
# What an act does to the queue

An act offers a frame to the queue, takes the oldest, removes some, sets the bound, or leaves the
queue alone.
-/

namespace SootheClient.Client

open SootheClient.Frame

/-- The frame that an act offers to the queue, if any. -/
def Mux.offered (m : Mux) : Act → Option (ℕ × Json)
  | .step n => m.offer n
  | .push n ev => if ev.asObject?.isSome then some (n, ev) else none
  | .route _ _ | .pop | .peel | .clear | .setMax _ | .register _ | .unregister _ => none

/-- What an act does to the queue, its bound and the frames that were dropped. -/
inductive QueueStep (m : Mux) (a : Act) (m' : Mux) : Prop
  | offer (ev : ℕ × Json) (ho : m.offered a = some ev)
      (hin : m'.tasks.shared.inbound = (m.tasks.shared.enqueuePendingLocked ev).inbound)
      (hmax : m'.tasks.shared.maxInbound = m.tasks.shared.maxInbound)
      (hdrop : m'.dropped = m.dropped ++ (m.tasks.shared.lost ev).toList)
  | pop (ev : ℕ × Json) (ha : a = .pop)
      (hin : m.tasks.shared.inbound = ev :: m'.tasks.shared.inbound)
      (hmax : m'.tasks.shared.maxInbound = m.tasks.shared.maxInbound)
      (hdrop : m'.dropped = m.dropped)
  /-- `peel_stale_pending_control_events` or `clear_pending_events`. -/
  | remove (ha : a = .peel ∨ a = .clear)
      (hin : m'.tasks.shared.inbound.Sublist m.tasks.shared.inbound)
      (hmax : m'.tasks.shared.maxInbound = m.tasks.shared.maxInbound)
      (hdrop : m'.dropped = m.dropped)
  | setMax (n : ℕ) (ha : a = .setMax n) (hin : m'.tasks.shared.inbound = m.tasks.shared.inbound)
      (hmax : m'.tasks.shared.maxInbound = if 0 < n then n else m.tasks.shared.maxInbound)
      (hdrop : m'.dropped = m.dropped)
  | keep (ho : m.offered a = none) (hpop : a ≠ .pop)
      (hin : m'.tasks.shared.inbound = m.tasks.shared.inbound)
      (hmax : m'.tasks.shared.maxInbound = m.tasks.shared.maxInbound)
      (hdrop : m'.dropped = m.dropped)

variable {m m' : Mux} {a : Act} {n : ℕ} {s : Shared} {ev : ℕ × Json}

theorem enqueue_maxInbound : (s.enqueuePendingLocked ev).maxInbound = s.maxInbound := by
  obtain ⟨q, b, heq, -⟩ := enqueue_eq s ev
  rw [heq]

/-- A call offers a frame only when it is about to queue it. -/
theorem routeStep_queue (h : m.routeStep n = some m') : QueueStep m (.step n) m' := by
  obtain ⟨hhand, w, hw, rfl⟩ := Mux.routeStep_eq_some.1 h
  have hother : m.offer n = none → w.shared.inbound = m.tasks.shared.inbound →
      w.shared.maxInbound = m.tasks.shared.maxInbound → QueueStep m (.step n)
        { m.noteOffer (m.offer n) with
          tasks := w
          fates := m.fates ++ ((m.fateOf n).map fun f => (⟨n, f.1, f.2⟩ : Outcome)).toList } := by
    intro ho hin hmax
    refine .keep ho (fun ha => by cases ha) hin hmax ?_
    rw [ho]
    exact List.append_nil _
  clear h
  cases readerStep_inv hw with
  | turn hpc | mark _ _ hpc =>
    rw [hpc] at hhand
    cases hhand
  | settle msg rest sent hpc => exact hother (by unfold Mux.offer; rw [hpc]) rfl rfl
  | route msg rest pc seqs hpc => exact hother (by unfold Mux.offer; rw [hpc]) rfl rfl
  | ack loopId seq msg rest sent hpc => exact hother (by unfold Mux.offer; rw [hpc]) rfl rfl
  | miss msg rest hpc => exact hother (by unfold Mux.offer; rw [hpc]) rfl rfl
  | hand msg rest s hpc hs =>
    obtain ⟨-, -, -, rfl⟩ := takeWaiter_eq_some.1 hs
    exact hother (by unfold Mux.offer; rw [hpc]) rfl rfl
  | enqueue msg rest hpc =>
    have ho : m.offer n = some (n, msg) := by
      unfold Mux.offer
      rw [hpc]
    refine .offer (n, msg) ho rfl enqueue_maxInbound ?_
    rw [ho]
    rfl

/-- **Acts on the queue.** -/
theorem queueStep_inv (h : m.step a = some m') : QueueStep m a m' := by
  cases a with
  | route n msg =>
    simp only [Mux.step] at h
    split at h
    · obtain rfl := Option.some.inj h
      exact .keep rfl (fun ha => by cases ha) rfl rfl rfl
    · cases h
  | step n => exact routeStep_queue h
  | push n ev =>
    obtain rfl := Option.some.inj h
    cases hev : ev.asObject?.isSome with
    | false =>
      have hsame : m.push (n, ev) = m := Mux.push_other hev
      rw [hsame]
      exact .keep (if_neg (by rw [hev]; decide)) (fun ha => by cases ha) rfl rfl rfl
    | true =>
      have hpush := Mux.push_object (m := m) (show (n, ev).2.asObject?.isSome = true from hev)
      rw [hpush]
      exact .offer (n, ev) (if_pos hev) rfl enqueue_maxInbound rfl
  | pop =>
    obtain ⟨⟨ev, s⟩, hpop, rfl⟩ := Option.map_eq_some_iff.1 h
    unfold Shared.popFront at hpop
    split at hpop
    · cases hpop
    · rename_i f q hq
      obtain ⟨rfl, rfl⟩ := Prod.mk.inj (Option.some.inj hpop)
      exact .pop f rfl hq rfl rfl
  | peel =>
    obtain rfl := Option.some.inj h
    exact .remove (Or.inl rfl) List.filter_sublist rfl rfl
  | clear =>
    obtain rfl := Option.some.inj h
    exact .remove (Or.inr rfl) (List.nil_sublist _) rfl rfl
  | setMax n =>
    obtain rfl := Option.some.inj h
    refine .setMax n rfl ?_ ?_ rfl
    · show (m.tasks.shared.setInboundMaxSize n).inbound = _
      unfold Shared.setInboundMaxSize
      split_ifs <;> rfl
    · show (m.tasks.shared.setInboundMaxSize n).maxInbound = _
      unfold Shared.setInboundMaxSize
      split_ifs <;> rfl
  | register id | unregister id =>
    obtain rfl := Option.some.inj h
    exact .keep rfl (fun ha => by cases ha) rfl rfl rfl

end SootheClient.Client
