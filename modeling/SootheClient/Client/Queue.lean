import Mathlib.Data.List.Perm.Basic
import Mathlib.Data.Multiset.Filter
import SootheClient.Client.Shared
import SootheClient.Frame.StalePending

/-!
# The inbound queue

What the application does to the queue, and what `enqueue_pending_locked` admits and loses. The
number beside a queued frame tells frames apart; no operation looks at it.
-/

namespace SootheClient.Client

open SootheClient.Frame
open scoped List

/-- The drop priority of a queued frame. -/
def dropPriority (ev : ℕ × Json) : ℤ := inboundFrameDropPriority ev.2.asObject?

namespace Shared

variable (s : Shared)

/-- The frame that `enqueue_pending_locked` loses. -/
def lost (ev : ℕ × Json) : Option (ℕ × Json) :=
  if s.inbound.length < s.maxInbound then none
  else
    match (dropCandidate s.inbound).filter fun c => DROP_PRIORITY_NORMAL ≤ c.2 with
    | some (i, _) => s.inbound[i]?
    | none => if DROP_PRIORITY_NORMAL ≤ dropPriority ev then some ev else s.inbound.head?

/-- `push_pending_event`. -/
def pushPendingEvent (ev : ℕ × Json) : Shared :=
  if ev.2.asObject?.isSome then s.enqueuePendingLocked ev else s

/-- `read_event` takes the head of the queue. -/
def popFront : Option ((ℕ × Json) × Shared) :=
  match s.inbound with
  | [] => none
  | ev :: q => some (ev, { s with inbound := q })

/-- `peel_stale_pending_control_events`. -/
def peelStalePendingControlEvents : List String × Shared :=
  (s.inbound.filterMap fun ev => stalePendingFrameLabel ev.2,
    { s with inbound := s.inbound.filter fun ev => (stalePendingFrameLabel ev.2).isNone })

/-- The frames that are peeled. -/
def stale : List (ℕ × Json) := s.inbound.filter fun ev => (stalePendingFrameLabel ev.2).isSome

/-- `clear_pending_events`. -/
def clearPendingEvents : Shared := { s with inbound := [] }

/-- `set_inbound_max_size`. -/
def setInboundMaxSize (n : ℕ) : Shared := if 0 < n then { s with maxInbound := n } else s

end Shared

/-! ## Priorities -/

theorem typeDropPriority_le (event : Json.Members) (eventType : String) :
    typeDropPriority event eventType ≤ DROP_PRIORITY_NORMAL := by
  have hcustom : ∀ data p, customDropPriority data = some p → p ≤ DROP_PRIORITY_NORMAL := by
    intro data p h
    unfold customDropPriority at h
    split_ifs at h
    · obtain rfl := Option.some.inj h
      decide
    · split at h
      · cases h
      · simp only at h
        split_ifs at h <;> (obtain rfl := Option.some.inj h; decide)
  unfold typeDropPriority
  split_ifs with h1 h2 h3
  · decide
  · decide
  · simp only
    split
    · rename_i p hp
      split_ifs at hp
      obtain ⟨data, -, hdata⟩ := Option.bind_eq_some_iff.1 hp
      exact hcustom data p hdata
    · split_ifs <;> decide
  · decide

theorem objectDropPriority_le (event : Json.Members) :
    objectDropPriority event ≤ DROP_PRIORITY_NORMAL := by
  fun_induction objectDropPriority event with
  | case1 => decide
  | case2 => exact typeDropPriority_le _ _
  | case3 => decide
  | case4 => decide
  | case5 => assumption
  | case6 => exact typeDropPriority_le _ _
  | case7 => exact typeDropPriority_le _ _

/-- No frame is dropped before a normal one. -/
theorem dropPriority_le (ev : ℕ × Json) : dropPriority ev ≤ DROP_PRIORITY_NORMAL := by
  unfold dropPriority inboundFrameDropPriority
  split
  · decide
  · exact objectDropPriority_le _

/-! ## The candidate -/

variable {s : Shared} {q : List (ℕ × Json)} {ev f : ℕ × Json} {i : ℕ} {p : ℤ}

theorem dropCandidate_eq_none : Shared.dropCandidate q = none ↔ q = [] := by
  cases q with
  | nil => exact ⟨fun _ => rfl, fun _ => rfl⟩
  | cons ev q =>
    refine ⟨fun h => ?_, fun h => (nomatch h)⟩
    simp only [Shared.dropCandidate] at h
    split at h
    · cases h
    · split_ifs at h

/-- The candidate is a queued frame that nothing in the queue goes before. -/
theorem dropCandidate_spec (h : Shared.dropCandidate q = some (i, p)) :
    ∃ f, q[i]? = some f ∧ dropPriority f = p ∧ ∀ g ∈ q, dropPriority g ≤ p := by
  induction q generalizing i p with
  | nil => cases h
  | cons ev q ih =>
    simp only [Shared.dropCandidate] at h
    split at h
    · rename_i hnone
      obtain ⟨rfl, rfl⟩ := Prod.mk.inj (Option.some.inj h)
      obtain rfl := dropCandidate_eq_none.1 hnone
      exact ⟨ev, rfl, rfl, fun g hg => by rw [List.mem_singleton.1 hg]; rfl⟩
    · rename_i j best hbest
      obtain ⟨f, hf, hfp, hall⟩ := ih hbest
      split_ifs at h with hle
      · obtain ⟨rfl, rfl⟩ := Prod.mk.inj (Option.some.inj h)
        refine ⟨ev, rfl, rfl, fun g hg => ?_⟩
        rcases List.mem_cons.1 hg with rfl | hg
        · exact le_rfl
        · exact (hall g hg).trans hle
      · obtain ⟨rfl, rfl⟩ := Prod.mk.inj (Option.some.inj h)
        refine ⟨f, hf, hfp, fun g hg => ?_⟩
        rcases List.mem_cons.1 hg with rfl | hg
        · exact (not_le.1 hle).le
        · exact hall g hg

/-! ## Admission -/

/-- What the queue is after a frame came in, and the frame that is lost for it. -/
inductive Admission (s : Shared) (ev : ℕ × Json) : List (ℕ × Json) → Option (ℕ × Json) → Prop
  /-- There is room. -/
  | room (h : s.inbound.length < s.maxInbound) : Admission s ev (s.inbound ++ [ev]) none
  /-- A queued normal frame goes. -/
  | evict (i : ℕ) (f : ℕ × Json) (h : s.maxInbound ≤ s.inbound.length)
      (hf : s.inbound[i]? = some f) (hp : dropPriority f = DROP_PRIORITY_NORMAL) :
      Admission s ev (s.inbound.eraseIdx i ++ [ev]) (some f)
  /-- The frame itself, a normal one, goes. -/
  | refuse (h : s.maxInbound ≤ s.inbound.length)
      (hq : ∀ f ∈ s.inbound, dropPriority f < DROP_PRIORITY_NORMAL)
      (hp : dropPriority ev = DROP_PRIORITY_NORMAL) : Admission s ev s.inbound (some ev)
  /-- No frame is queued, and none may be. -/
  | alone (h : s.inbound = []) (hmax : s.maxInbound = 0)
      (hp : dropPriority ev < DROP_PRIORITY_NORMAL) : Admission s ev [ev] none
  /-- The oldest frame goes. -/
  | force (f : ℕ × Json) (q : List (ℕ × Json)) (hf : s.inbound = f :: q)
      (h : s.maxInbound ≤ s.inbound.length)
      (hq : ∀ f ∈ s.inbound, dropPriority f < DROP_PRIORITY_NORMAL)
      (hp : dropPriority ev < DROP_PRIORITY_NORMAL) : Admission s ev (q ++ [ev]) (some f)

/-- What is lost raises the counter, and nothing else changes. -/
theorem enqueue_eq (s : Shared) (ev : ℕ × Json) : ∃ q b, s.enqueuePendingLocked ev =
      { s with
        inbound := q
        inboundDropped := s.inboundDropped + (s.lost ev).toList.length
        degradedNotified := b } ∧ Admission s ev q (s.lost ev) := by
  unfold Shared.enqueuePendingLocked Shared.lost
  by_cases hlen : s.inbound.length < s.maxInbound
  · simp only [if_pos hlen]
    exact ⟨_, _, rfl, .room hlen⟩
  simp only [if_neg hlen]
  have hfull := not_lt.1 hlen
  cases hc : (Shared.dropCandidate s.inbound).filter fun c => DROP_PRIORITY_NORMAL ≤ c.2 with
  | some c =>
    obtain ⟨hcand, hnormal⟩ := Option.filter_eq_some_iff.1 hc
    obtain ⟨f, hf, hfp, -⟩ := dropCandidate_spec hcand
    have hp : dropPriority f = DROP_PRIORITY_NORMAL :=
      le_antisymm (dropPriority_le f) (hfp ▸ of_decide_eq_true hnormal)
    simp only [hf]
    exact ⟨_, _, rfl, .evict c.1 f hfull hf hp⟩
  | none =>
    have hq : ∀ f ∈ s.inbound, dropPriority f < DROP_PRIORITY_NORMAL := by
      intro f hf
      cases hcand : Shared.dropCandidate s.inbound with
      | none =>
        rw [dropCandidate_eq_none.1 hcand] at hf
        cases hf
      | some c =>
        obtain ⟨-, -, -, hall⟩ := dropCandidate_spec hcand
        rw [hcand, Option.filter_some] at hc
        split_ifs at hc with hnormal
        exact (hall f hf).trans_lt (not_le.1 fun h => hnormal (decide_eq_true h))
    simp only
    change ∃ q b, (if DROP_PRIORITY_NORMAL ≤ dropPriority ev then _ else _) = _ ∧ _
    by_cases hp : DROP_PRIORITY_NORMAL ≤ dropPriority ev
    · simp only [if_pos hp]
      exact ⟨_, _, rfl, .refuse hfull hq (le_antisymm (dropPriority_le ev) hp)⟩
    · simp only [if_neg hp]
      cases hin : s.inbound with
      | nil =>
        have hmax : s.maxInbound = 0 := by
          rw [hin] at hfull
          exact Nat.le_zero.1 hfull
        rw [if_pos rfl]
        exact ⟨_, _, rfl, .alone hin hmax (not_le.1 hp)⟩
      | cons f q =>
        rw [if_neg (by simp)]
        exact ⟨_, _, rfl, .force f q hin hfull hq (not_le.1 hp)⟩

/-- No frame vanishes and none is made. -/
theorem Admission.perm {q : List (ℕ × Json)} {l : Option (ℕ × Json)} (h : Admission s ev q l) :
    (q ++ l.toList).Perm (s.inbound ++ [ev]) := by
  cases h with
  | room =>
    rw [Option.toList_none, List.append_nil]
  | evict i f _ hf =>
    obtain ⟨hi, rfl⟩ := List.getElem?_eq_some_iff.1 hf
    have hback : (s.inbound.eraseIdx i ++ [s.inbound[i]]).Perm s.inbound :=
      (List.perm_append_singleton _ _).trans (List.getElem_cons_eraseIdx_perm hi)
    calc s.inbound.eraseIdx i ++ [ev] ++ [s.inbound[i]]
      _ = s.inbound.eraseIdx i ++ ([ev] ++ [s.inbound[i]]) := List.append_assoc _ _ _
      _ ~ s.inbound.eraseIdx i ++ ([s.inbound[i]] ++ [ev]) := List.perm_append_comm.append_left _
      _ = s.inbound.eraseIdx i ++ [s.inbound[i]] ++ [ev] := (List.append_assoc _ _ _).symm
      _ ~ s.inbound ++ [ev] := hback.append_right _
  | refuse => exact List.Perm.refl _
  | alone h =>
    rw [h]
    exact List.Perm.refl _
  | force f q hf =>
    rw [hf]
    exact List.perm_append_comm

/-- The frames that stay keep their order, and the new one is behind them. -/
theorem Admission.sublist {q : List (ℕ × Json)} {l : Option (ℕ × Json)} (h : Admission s ev q l) :
    q.Sublist (s.inbound ++ [ev]) := by
  cases h with
  | room => exact List.Sublist.refl _
  | evict i => exact (List.eraseIdx_sublist _ i).append_right _
  | refuse => exact List.sublist_append_left _ _
  | alone => exact List.sublist_append_right _ _
  | force f q hf =>
    rw [hf]
    exact List.sublist_cons_self _ _

end SootheClient.Client
