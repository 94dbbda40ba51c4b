import SootheClient.Client.QueueSteps

/-!
# The cap of the queue

A full queue gives up one frame for each that it takes, so it never shrinks to a bound that was set
below its length; and with the bound zero there is no frame to give up.
-/

namespace SootheClient.Client

open SootheClient.Frame

/-- The queue holds at most as many frames as are allowed. -/
def Shared.WithinCap (s : Shared) : Prop := s.inbound.length ≤ s.maxInbound

/-- The frame comes in while the queue is within its cap, and is a normal one when the cap is
zero. -/
def Shared.Takes (s : Shared) (ev : ℕ × Json) : Prop :=
  s.WithinCap ∧ (s.maxInbound = 0 → dropPriority ev = DROP_PRIORITY_NORMAL)

/-- The frame that the act offers can be taken. -/
def TakesOffer (m : Mux) (a : Act) : Prop := ∀ ev ∈ m.offered a, m.tasks.shared.Takes ev

/-- After the enqueue of an act the queue is within its cap. -/
def CapKept (m : Mux) (a : Act) (m' : Mux) : Prop :=
  (m.offered a).isSome → m'.tasks.shared.WithinCap

/-- `set_inbound_max_size` is not called with less than what is queued. -/
def NotLowered (m : Mux) (a : Act) : Prop :=
  ∀ n, a = .setMax n → n = 0 ∨ m.tasks.shared.inbound.length ≤ n

variable {s : Shared} {m m' : Mux} {a : Act} {ev f : ℕ × Json} {i : ℕ}

theorem length_evict (ev : ℕ × Json) (hf : s.inbound[i]? = some f) :
    (s.inbound.eraseIdx i ++ [ev]).length = s.inbound.length ∧ 0 < s.inbound.length := by
  obtain ⟨hi, -⟩ := List.getElem?_eq_some_iff.1 hf
  have hlen := List.length_eraseIdx_of_lt hi
  rw [List.length_append, List.length_singleton]
  omega

/-- **One enqueue.** It leaves the queue within its cap exactly when the frame can be taken. -/
theorem enqueue_withinCap : (s.enqueuePendingLocked ev).WithinCap ↔ s.Takes ev := by
  obtain ⟨q, b, heq, hadm⟩ := enqueue_eq s ev
  have hin : (s.enqueuePendingLocked ev).inbound = q := by rw [heq]
  generalize s.lost ev = l at hadm
  unfold Shared.Takes Shared.WithinCap
  rw [hin, enqueue_maxInbound]
  cases hadm with
  | room hlen =>
    rw [List.length_append, List.length_singleton]
    exact iff_of_true hlen ⟨hlen.le, fun h0 => absurd hlen (by omega)⟩
  | evict i f hfull hf =>
    obtain ⟨hsame, hpos⟩ := length_evict ev hf
    rw [hsame]
    exact ⟨fun hle => ⟨hle, fun h0 => absurd hle (by omega)⟩, fun h => h.1⟩
  | refuse hfull hq hp => exact ⟨fun hle => ⟨hle, fun _ => hp⟩, fun h => h.1⟩
  | alone hnil hmax hp =>
    refine iff_of_false ?_ fun h => hp.ne (h.2 hmax)
    rw [hmax]
    exact Nat.not_succ_le_zero 0
  | force f rest hcons =>
    rw [hcons, List.length_append, List.length_singleton, List.length_cons]
    exact ⟨fun hle => ⟨hle, fun h0 => absurd hle (by omega)⟩, fun h => h.1⟩

/-- What an act leaves behind its enqueue is decided by the frame that it offers. -/
theorem capKept_iff (h : m.step a = some m') : CapKept m a m' ↔ TakesOffer m a := by
  unfold CapKept TakesOffer
  cases queueStep_inv h with
  | offer ev ho hin hmax =>
    have hcap : m'.tasks.shared.WithinCap ↔ (m.tasks.shared.enqueuePendingLocked ev).WithinCap := by
      unfold Shared.WithinCap
      rw [hin, hmax, enqueue_maxInbound]
    rw [ho, hcap, enqueue_withinCap]
    exact ⟨fun h ev' hev' => Option.some.inj hev' ▸ h rfl, fun h _ => h ev rfl⟩
  | pop ev ha =>
    subst ha
    exact iff_of_true (fun h => nomatch h) fun ev h => nomatch h
  | remove ha =>
    rcases ha with rfl | rfl
    all_goals exact iff_of_true (fun h => nomatch h) fun ev h => nomatch h
  | setMax n ha =>
    subst ha
    exact iff_of_true (fun h => nomatch h) fun ev h => nomatch h
  | keep ho =>
    rw [ho]
    exact iff_of_true (fun h => nomatch h) fun ev h => nomatch h

/-! ## Runs without a lower cap -/

/-- A positive cap that is not lowered below what is queued is kept. -/
theorem withinCap_step (hcap : m.tasks.shared.WithinCap ∧ 0 < m.tasks.shared.maxInbound)
    (hG : NotLowered m a) (h : m.step a = some m') :
    m'.tasks.shared.WithinCap ∧ 0 < m'.tasks.shared.maxInbound := by
  obtain ⟨hlen, hpos⟩ := hcap
  unfold Shared.WithinCap at hlen ⊢
  cases queueStep_inv h with
  | offer ev ho hin hmax =>
    have htakes : m.tasks.shared.Takes ev := ⟨hlen, fun h0 => absurd hpos (by omega)⟩
    have hle : (m.tasks.shared.enqueuePendingLocked ev).inbound.length ≤
        (m.tasks.shared.enqueuePendingLocked ev).maxInbound := enqueue_withinCap.2 htakes
    rw [enqueue_maxInbound] at hle
    rw [hin, hmax]
    exact ⟨hle, hpos⟩
  | pop ev ha hin hmax =>
    rw [hin, List.length_cons] at hlen
    rw [hmax]
    exact ⟨by omega, hpos⟩
  | remove ha hin hmax =>
    rw [hmax]
    exact ⟨hin.length_le.trans hlen, hpos⟩
  | setMax n ha hin hmax =>
    rw [hin, hmax]
    split_ifs with hn
    · rcases hG n ha with h0 | hle
      · omega
      · exact ⟨hle, hn⟩
    · exact ⟨hlen, hpos⟩
  | keep ho hpop hin hmax =>
    rw [hin, hmax]
    exact ⟨hlen, hpos⟩

theorem takesOffer_of_withinCap
    (hcap : m.tasks.shared.WithinCap ∧ 0 < m.tasks.shared.maxInbound) : TakesOffer m a :=
  fun _ _ => ⟨hcap.1, fun h0 => absurd hcap.2 (by omega)⟩

/-- Every frame of such a run can be taken. -/
theorem guarded_takes {acts : List Act}
    (hcap : m.tasks.shared.WithinCap ∧ 0 < m.tasks.shared.maxInbound)
    (hG : Lts.Guarded Mux.step NotLowered m acts) : Lts.Guarded Mux.step TakesOffer m acts := by
  induction acts generalizing m with
  | nil => trivial
  | cons a acts ih =>
    exact ⟨takesOffer_of_withinCap hcap,
      fun t ht => ih (withinCap_step hcap hG.1 ht) (hG.2 t ht)⟩

/-- **The pending cap.** After every enqueue of a run the queue is within the cap, if and only if
every frame is offered to a queue that is within it, and to one of the cap zero only normal frames.
That is so when the cap is positive and never lowered below what is queued. -/
theorem pending_cap (maxInbound : ℕ) (writeTx : Option ℕ) (writerUp : ℕ → Bool) (acts : List Act)
    (m : Mux) (h : Lts.exec Mux.step (Mux.start maxInbound writeTx writerUp) acts = some m) :
    (Lts.Every Mux.step CapKept (Mux.start maxInbound writeTx writerUp) acts ↔
      Lts.Guarded Mux.step TakesOffer (Mux.start maxInbound writeTx writerUp) acts) ∧
    (0 < maxInbound → Lts.Guarded Mux.step NotLowered (Mux.start maxInbound writeTx writerUp) acts →
      Lts.Guarded Mux.step TakesOffer (Mux.start maxInbound writeTx writerUp) acts) := by
  constructor
  · exact Lts.every_iff_guarded (I := fun _ => True) (H := fun _ _ => True)
      (fun _ _ _ _ _ _ _ => trivial) (fun _ _ _ _ _ hs => capKept_iff hs) trivial
      (Lts.guarded_of_forall fun _ _ => trivial) h
  · exact fun hpos hG => guarded_takes ⟨Nat.zero_le _, hpos⟩ hG

/-- Two frames come in under the cap one. -/
theorem pending_cap_refuse : Lts.Every Mux.step CapKept (Mux.start 1 none fun _ => true)
    [.push 0 (.obj []), .push 1 (.obj [])] := by
  have h := pending_cap 1 none (fun _ => true) [.push 0 (.obj []), .push 1 (.obj [])] _ rfl
  refine h.1.2 (h.2 Nat.one_pos ?_)
  exact Lts.guarded_of_labels (P := fun a => ∀ n, a ≠ .setMax n) (by simp) |>.mono
    fun _ _ hne n ha => absurd ha (hne n)

/-- A cap that is lowered to one leaves two frames in the queue when the next comes in. -/
theorem pending_cap_fails : ¬ ∀ (maxInbound : ℕ) (acts : List Act) (m : Mux),
    Lts.exec Mux.step (Mux.start maxInbound none fun _ => true) acts = some m →
    Lts.Every Mux.step CapKept (Mux.start maxInbound none fun _ => true) acts := by
  intro h
  have hevery := h 2 [.push 0 (.obj []), .push 1 (.obj []), .setMax 1, .push 2 (.obj [])] _ rfl
  have hlast := hevery [.push 0 (.obj []), .push 1 (.obj []), .setMax 1] (.push 2 (.obj [])) []
    _ _ rfl rfl rfl
  have htakes := (capKept_iff (by rfl)).1 hlast (2, .obj []) rfl
  exact absurd htakes.1 (by unfold Shared.WithinCap; decide)

end SootheClient.Client
