import SootheClient.Client.Forwarder
import SootheClient.Client.QueueSteps

/-!
# The degraded-stream hook

The application registers a hook that is told of the first frame lost to overflow. The flag that
keeps it from being told of the next ones is cleared when a hook is registered and by `reconnect`.
`set_stream_degraded_callback` stores the hook and clears the flag in two steps. A hook is named by
a number.
-/

namespace SootheClient.Client

open SootheClient.Frame

/-- A call of a hook: the frames lost so far, and why the last one was. -/
structure Report where
  hook : ℕ
  dropped : ℕ
  reason : String
  deriving DecidableEq, Repr

inductive HookAct where
  | base (a : Act)
  /-- The first half of `set_stream_degraded_callback`. -/
  | storeHook (hook : Option ℕ)
  /-- Its second half, or what `reconnect` does with the flag. -/
  | clearNotified

/-- The act neither registers a hook nor clears the flag. -/
def HookAct.isBase : HookAct → Bool
  | .base _ => true
  | _ => false

/-- A client with its hook and the calls of hooks so far. -/
structure Hooked where
  mux : Mux
  streamDegradedCb : Option ℕ := none
  reports : List Report := []

/-- The frame that an act loses to overflow. -/
def Mux.loses (m : Mux) (a : Act) : Option (ℕ × Json) :=
  (m.offered a).bind m.tasks.shared.lost

/-- Why the queue loses a frame for the one that an act offers. -/
def Mux.lossReason (m : Mux) (a : Act) : String :=
  if (m.offered a).any m.tasks.shared.refuses then "queue_full" else "priority_evict"

namespace Hooked

variable (w : Hooked)

/-- The calls that `note_inbound_drop` makes on an act. -/
def calls (a : Act) : List Report :=
  if (w.mux.loses a).isSome && !w.mux.tasks.shared.degradedNotified then
    (w.streamDegradedCb.map fun hook =>
      ⟨hook, w.mux.tasks.shared.inboundDropped + 1, w.mux.lossReason a⟩).toList
  else []

def step : HookAct → Option Hooked
  | .base a => (w.mux.step a).map fun m => { w with mux := m, reports := w.reports ++ w.calls a }
  | .storeHook hook => some { w with streamDegradedCb := hook }
  | .clearNotified =>
    some { w with mux := w.mux.setShared (w.mux.tasks.shared.update .clearDegraded) }

/-- A client with an empty queue and no hook. -/
def start (maxInbound : ℕ) (writeTx : Option ℕ) (writerUp : ℕ → Bool) : Hooked where
  mux := .start maxInbound writeTx writerUp

end Hooked

variable {m m' : Mux} {a : Act} {s : Shared} {ev : ℕ × Json} {w w' w₀ : Hooked} {h : HookAct}
  {before after : List HookAct}

/-! ## Losses -/

/-- A loss sets the flag. -/
theorem enqueue_degradedNotified : (s.enqueuePendingLocked ev).degradedNotified =
    (s.degradedNotified || (s.lost ev).isSome) := by
  unfold Shared.enqueuePendingLocked Shared.lost
  by_cases hlen : s.inbound.length < s.maxInbound
  · rw [if_pos hlen, if_pos hlen]
    exact (Bool.or_false _).symm
  rw [if_neg hlen, if_neg hlen]
  cases hc : (Shared.dropCandidate s.inbound).filter fun c => DROP_PRIORITY_NORMAL ≤ c.2 with
  | some c =>
    obtain ⟨hcand, -⟩ := Option.filter_eq_some_iff.1 hc
    obtain ⟨f, hf, -⟩ := dropCandidate_spec hcand
    simp only [hf]
    exact (Bool.or_true _).symm
  | none =>
    simp only
    change (if DROP_PRIORITY_NORMAL ≤ dropPriority ev then _ else _ : Shared).degradedNotified = _
    by_cases hp : DROP_PRIORITY_NORMAL ≤ dropPriority ev
    · rw [if_pos hp, if_pos hp]
      exact (Bool.or_true _).symm
    · rw [if_neg hp, if_neg hp]
      cases hin : s.inbound with
      | nil => exact (Bool.or_false _).symm
      | cons f q =>
        rw [if_neg (by simp)]
        exact (Bool.or_true _).symm

/-- What an act does to the counter and to the flag. -/
structure Counts (m : Mux) (a : Act) (m' : Mux) : Prop where
  dropped : m'.tasks.shared.inboundDropped =
    m.tasks.shared.inboundDropped + (m.loses a).toList.length
  notified : m'.tasks.shared.degradedNotified =
    (m.tasks.shared.degradedNotified || (m.loses a).isSome)

theorem counts_offer (ho : m.offered a = some ev)
    (hs : m'.tasks.shared = m.tasks.shared.enqueuePendingLocked ev) : Counts m a m' := by
  have hl : m.loses a = m.tasks.shared.lost ev := by
    unfold Mux.loses
    rw [ho, Option.bind_some]
  refine ⟨?_, ?_⟩
  · rw [hs, hl, enqueue_inboundDropped]
  · rw [hs, hl, enqueue_degradedNotified]

theorem counts_keep (ho : m.offered a = none)
    (hd : m'.tasks.shared.inboundDropped = m.tasks.shared.inboundDropped)
    (hn : m'.tasks.shared.degradedNotified = m.tasks.shared.degradedNotified) : Counts m a m' := by
  have hl : m.loses a = none := by
    unfold Mux.loses
    rw [ho, Option.bind_none]
  refine ⟨?_, ?_⟩
  · rw [hd, hl]
    rfl
  · rw [hn, hl]
    exact (Bool.or_false _).symm

theorem routeStep_counts {n : ℕ} (h : m.routeStep n = some m') : Counts m (.step n) m' := by
  obtain ⟨hhand, w, hw, rfl⟩ := Mux.routeStep_eq_some.1 h
  clear h
  cases readerStep_inv hw with
  | turn hpc | mark _ _ hpc =>
    rw [hpc] at hhand
    cases hhand
  | settle msg rest sent hpc =>
    exact counts_keep (show m.offer n = none by unfold Mux.offer; rw [hpc]) rfl rfl
  | route msg rest pc seqs hpc =>
    exact counts_keep (show m.offer n = none by unfold Mux.offer; rw [hpc]) rfl rfl
  | ack loopId seq msg rest sent hpc =>
    exact counts_keep (show m.offer n = none by unfold Mux.offer; rw [hpc]) rfl rfl
  | miss msg rest hpc =>
    exact counts_keep (show m.offer n = none by unfold Mux.offer; rw [hpc]) rfl rfl
  | hand msg rest s hpc hs =>
    obtain ⟨-, -, -, rfl⟩ := takeWaiter_eq_some.1 hs
    exact counts_keep (show m.offer n = none by unfold Mux.offer; rw [hpc]) rfl rfl
  | enqueue msg rest hpc =>
    exact counts_offer (show m.offer n = some (n, msg) by unfold Mux.offer; rw [hpc]) rfl

/-- **Losses.** Each act counts what it loses, and notes that something was lost. -/
theorem step_counts (h : m.step a = some m') : Counts m a m' := by
  cases a with
  | route n msg =>
    simp only [Mux.step] at h
    split at h
    · obtain rfl := Option.some.inj h
      exact counts_keep rfl rfl rfl
    · cases h
  | step n => exact routeStep_counts h
  | push n ev =>
    obtain rfl := Option.some.inj h
    cases hev : ev.asObject?.isSome with
    | false =>
      have hsame : m.push (n, ev) = m := Mux.push_other hev
      rw [hsame]
      exact counts_keep (if_neg (by rw [hev]; decide)) rfl rfl
    | true =>
      rw [Mux.push_object (m := m) (show (n, ev).2.asObject?.isSome = true from hev)]
      exact counts_offer (if_pos hev) rfl
  | pop =>
    obtain ⟨⟨ev, s⟩, hpop, rfl⟩ := Option.map_eq_some_iff.1 h
    unfold Shared.popFront at hpop
    split at hpop
    · cases hpop
    · obtain ⟨rfl, rfl⟩ := Prod.mk.inj (Option.some.inj hpop)
      exact counts_keep rfl rfl rfl
  | peel | clear =>
    obtain rfl := Option.some.inj h
    exact counts_keep rfl rfl rfl
  | setMax n =>
    obtain rfl := Option.some.inj h
    refine counts_keep rfl ?_ ?_
    · show (m.tasks.shared.setInboundMaxSize n).inboundDropped = _
      unfold Shared.setInboundMaxSize
      split_ifs <;> rfl
    · show (m.tasks.shared.setInboundMaxSize n).degradedNotified = _
      unfold Shared.setInboundMaxSize
      split_ifs <;> rfl
  | register id | unregister id =>
    obtain rfl := Option.some.inj h
    exact counts_keep rfl rfl rfl

/-! ## Calls of the hook -/

namespace Hooked

/-- How many frames were lost. -/
def dropped (w : Hooked) : ℕ := w.mux.tasks.shared.inboundDropped

/-- Something was lost since the flag was last cleared. -/
def notified (w : Hooked) : Bool := w.mux.tasks.shared.degradedNotified

/-- The counts that the calls reported are distinct, in order, and no more than were lost. -/
structure Told (w : Hooked) : Prop where
  increasing : (w.reports.map Report.dropped).Pairwise (· < ·)
  counted : ∀ r ∈ w.reports, 0 < r.dropped ∧ r.dropped ≤ w.dropped

theorem told_start {maxInbound : ℕ} {writeTx : Option ℕ} {writerUp : ℕ → Bool} :
    (start maxInbound writeTx writerUp).Told :=
  ⟨List.Pairwise.nil, fun _ hr => by cases hr⟩

theorem told_step (hw : w.Told) (hs : w.step h = some w') : w'.Told := by
  cases h with
  | storeHook | clearNotified =>
    obtain rfl := Option.some.inj hs
    exact ⟨hw.increasing, hw.counted⟩
  | base a =>
    obtain ⟨m, hm, rfl⟩ := Option.map_eq_some_iff.1 hs
    have hc := (step_counts hm).dropped
    have hcalls : ∀ r ∈ w.calls a, r.dropped = w.dropped + 1 ∧ (w.mux.loses a).isSome = true := by
      intro r hr
      unfold calls at hr
      split_ifs at hr with hlost
      · obtain ⟨hook, -, rfl⟩ := Option.map_eq_some_iff.1 (Option.mem_toList.1 hr)
        exact ⟨rfl, (Bool.and_eq_true_iff.1 hlost).1⟩
      · cases hr
    have hlen : (w.calls a).length ≤ 1 := by
      unfold calls
      split_ifs
      · cases w.streamDegradedCb <;> simp
      · exact Nat.zero_le 1
    have hup : w.dropped ≤ m.tasks.shared.inboundDropped := hc ▸ Nat.le_add_right _ _
    refine ⟨?_, fun r hr => ?_⟩
    · rw [List.map_append, List.pairwise_append]
      refine ⟨hw.increasing, ?_, ?_⟩
      · cases hl : w.calls a with
        | nil => exact List.Pairwise.nil
        | cons r l =>
          rw [hl, List.length_cons] at hlen
          obtain rfl : l = [] := List.length_eq_zero_iff.1 (by omega)
          exact List.pairwise_singleton _ _
      · intro n hn n' hn'
        obtain ⟨r, hr, rfl⟩ := List.mem_map.1 hn
        obtain ⟨r', hr', rfl⟩ := List.mem_map.1 hn'
        rw [(hcalls r' hr').1]
        exact Nat.lt_succ_of_le (hw.counted r hr).2
    · obtain hr | hr := List.mem_append.1 hr
      · exact ⟨(hw.counted r hr).1, (hw.counted r hr).2.trans hup⟩
      · obtain ⟨hd, hl⟩ := hcalls r hr
        obtain ⟨f, hf⟩ := Option.isSome_iff_exists.1 hl
        rw [hf, Option.toList_some, List.length_singleton] at hc
        refine ⟨hd ▸ Nat.succ_pos _, ?_⟩
        show r.dropped ≤ m.tasks.shared.inboundDropped
        rw [hd, hc]
        exact le_rfl

/-- Since the flag was cleared in `w₀`: nothing was lost, or the hook was called, once, of the first
loss. -/
def Since (w₀ : Hooked) (hook : ℕ) (w : Hooked) : Prop :=
  w.streamDegradedCb = some hook ∧
    ((w.notified = false ∧ w.dropped = w₀.dropped ∧ w.reports = w₀.reports) ∨
      w.notified = true ∧ w₀.dropped < w.dropped ∧
        ∃ reason, w.reports = w₀.reports ++ [⟨hook, w₀.dropped + 1, reason⟩])

theorem since_step {hook : ℕ} (hw : Since w₀ hook w) (hb : HookAct.isBase h = true)
    (hs : w.step h = some w') : Since w₀ hook w' := by
  cases h with
  | storeHook | clearNotified => cases hb
  | base a =>
    obtain ⟨m, hm, rfl⟩ := Option.map_eq_some_iff.1 hs
    obtain ⟨hcb, hcase⟩ := hw
    have hc := step_counts hm
    refine ⟨hcb, ?_⟩
    obtain ⟨hn, hd, hr⟩ | ⟨hn, hd, reason, hr⟩ := hcase
    · -- The flag is clear, so a loss calls the hook.
      cases hl : w.mux.loses a with
      | none =>
        refine Or.inl ⟨?_, ?_, ?_⟩
        · show m.tasks.shared.degradedNotified = false
          rw [hc.notified, hl]
          exact (Bool.or_false _).trans hn
        · show m.tasks.shared.inboundDropped = _
          rw [hc.dropped, hl]
          exact hd
        · show w.reports ++ w.calls a = _
          unfold calls
          rw [hl, hr]
          exact List.append_nil _
      | some f =>
        refine Or.inr ⟨?_, ?_, w.mux.lossReason a, ?_⟩
        · show m.tasks.shared.degradedNotified = true
          rw [hc.notified, hl]
          exact Bool.or_true _
        · show w₀.dropped < m.tasks.shared.inboundDropped
          rw [hc.dropped, hl]
          exact hd ▸ Nat.lt_succ_self _
        · show w.reports ++ w.calls a = _
          unfold calls
          rw [hl, hr, hcb, if_pos (by rw [show w.mux.tasks.shared.degradedNotified = false from hn]
                                      rfl)]
          exact congrArg (fun d => w₀.reports ++ [Report.mk hook (d + 1) _]) hd
    · -- The flag is set, so no further loss does.
      refine Or.inr ⟨?_, ?_, reason, ?_⟩
      · show m.tasks.shared.degradedNotified = true
        rw [hc.notified, show w.mux.tasks.shared.degradedNotified = true from hn]
        rfl
      · show w₀.dropped < m.tasks.shared.inboundDropped
        rw [hc.dropped]
        exact hd.trans_le (Nat.le_add_right _ _)
      · show w.reports ++ w.calls a = _
        unfold calls
        rw [show w.mux.tasks.shared.degradedNotified = true from hn, hr,
          if_neg (by rw [Bool.not_true, Bool.and_false]; exact Bool.false_ne_true)]
        exact List.append_nil _

end Hooked

/-- **Overflow is reported once.** Over every run the hooks are told increasing counts of lost
frames; and from any point where the flag is cleared under a hook, until the hook or the flag is set
again, that hook is called if and only if a frame is lost, once, and told of the first one. -/
theorem degraded_reports {maxInbound : ℕ} {writeTx : Option ℕ} {writerUp : ℕ → Bool} {hook : ℕ}
    (hw₀ : Lts.exec Hooked.step (.start maxInbound writeTx writerUp) before = some w₀)
    (hhook : w₀.streamDegradedCb = some hook)
    (hafter : ∀ h ∈ after, HookAct.isBase h = true)
    (hw : Lts.exec Hooked.step w₀ (.clearNotified :: after) = some w) :
    (w.reports.map Report.dropped).Pairwise (· < ·) ∧
      (w.dropped = w₀.dropped ∧ w.reports = w₀.reports ∨
        w₀.dropped < w.dropped ∧
          ∃ reason, w.reports = w₀.reports ++ [⟨hook, w₀.dropped + 1, reason⟩]) := by
  have htold₀ : w₀.Told := Lts.inv_of_exec (fun s a t => Hooked.told_step) Hooked.told_start hw₀
  have htold : w.Told := Lts.inv_of_exec (fun s a t => Hooked.told_step) htold₀ hw
  obtain ⟨w₁, hw₁, hrest⟩ := Lts.exec_cons_eq_some.1 hw
  obtain rfl := Option.some.inj hw₁
  have hcleared : Hooked.Since w₀ hook
      { w₀ with mux := w₀.mux.setShared (w₀.mux.tasks.shared.update .clearDegraded) } :=
    ⟨hhook, Or.inl ⟨rfl, rfl, rfl⟩⟩
  have hsince : Hooked.Since w₀ hook w :=
    Lts.inv_of_guarded (G := fun _ h => HookAct.isBase h = true)
      (fun s a t hI hG hs => Hooked.since_step hI hG hs) hcleared (Lts.guarded_of_labels hafter)
      hrest
  refine ⟨htold.increasing, ?_⟩
  obtain ⟨-, ⟨-, hd, hr⟩ | ⟨-, hd, hr⟩⟩ := hsince
  · exact Or.inl ⟨hd, hr⟩
  · exact Or.inr ⟨hd, hr⟩

/-- Two frames come into a queue for one. -/
def overflows : List HookAct := [.base (.push 0 (.obj [])), .base (.push 1 (.obj []))]

theorem degraded_reports_overflows : ∃ w, Lts.exec Hooked.step (.start 1 none fun _ => true)
      (.storeHook (some 7) :: .clearNotified :: overflows) = some w ∧
    (w.dropped = 0 ∧ w.reports = [] ∨
      0 < w.dropped ∧ ∃ reason, w.reports = [⟨7, 1, reason⟩]) :=
  ⟨_, rfl, (@degraded_reports _ _ [.storeHook (some 7)] overflows 1 none (fun _ => true) 7 rfl rfl
    (by decide) rfl).2⟩

end SootheClient.Client
