import SootheClient.Client.QueueSteps
import SootheClient.Frame.Bare
import SootheClient.Frame.Critical

/-!
# Eviction order

A full queue without a normal frame gives up its oldest frame for one that is more than normal,
whatever the two are. All other losses are of a frame that nothing in the queue goes before.
-/

namespace SootheClient.Client

open SootheClient.Frame

/-- Whatever is lost when the frame comes in, no kept frame would have gone before it. -/
def LosesInOrder (s : Shared) (ev : ℕ × Json) : Prop :=
  ∀ lost : Multiset (ℕ × Json),
    ((s.enqueuePendingLocked ev).inbound : Multiset (ℕ × Json)) + lost = ↑(s.inbound ++ [ev]) →
      ∀ f ∈ lost, ∀ g ∈ (s.enqueuePendingLocked ev).inbound, dropPriority g ≤ dropPriority f

/-- There is room, or a normal frame to lose, or the oldest frame goes before all others. -/
def Spares (s : Shared) (ev : ℕ × Json) : Prop :=
  s.inbound.length < s.maxInbound ∨
    (∃ f ∈ ev :: s.inbound, dropPriority f = DROP_PRIORITY_NORMAL) ∨
      ∀ f ∈ s.inbound.head?, ∀ g ∈ s.inbound.tail ++ [ev], dropPriority g ≤ dropPriority f

variable {s : Shared} {ev f g : ℕ × Json} {m m' : Mux} {a : Act}

/-- The frames that are lost are those of `lost`. -/
theorem losesInOrder_iff_lost : LosesInOrder s ev ↔
    ∀ f ∈ s.lost ev, ∀ g ∈ (s.enqueuePendingLocked ev).inbound,
      dropPriority g ≤ dropPriority f := by
  obtain ⟨q, b, heq, hadm⟩ := enqueue_eq s ev
  have hcons : (q : Multiset (ℕ × Json)) + (s.lost ev).toList = ↑(s.inbound ++ [ev]) := by
    rw [Multiset.coe_add]
    exact Multiset.coe_eq_coe.2 hadm.perm
  unfold LosesInOrder
  rw [heq]
  constructor
  · intro h f hf
    exact h _ hcons f (Multiset.mem_coe.2 (Option.mem_toList.2 hf))
  · intro h lost hlost f hf
    have hsame : lost = (s.lost ev).toList := add_left_cancel (hlost.trans hcons.symm)
    rw [hsame] at hf
    exact h f (Option.mem_toList.1 (Multiset.mem_coe.1 hf))

/-- What the queue loses, it loses in order, if and only if it is spared the forced loss. -/
theorem losesInOrder_iff : LosesInOrder s ev ↔ Spares s ev := by
  rw [losesInOrder_iff_lost]
  obtain ⟨q, b, heq, hadm⟩ := enqueue_eq s ev
  have hin : (s.enqueuePendingLocked ev).inbound = q := by rw [heq]
  rw [hin]
  generalize s.lost ev = l at hadm
  unfold Spares
  cases hadm with
  | room hlen =>
    exact ⟨fun _ => Or.inl hlen, fun _ f hf => nomatch hf⟩
  | evict i f hfull hf hp =>
    refine ⟨fun _ => Or.inr (Or.inl ⟨f, ?_, hp⟩), fun _ f' hf' g _ => ?_⟩
    · exact List.mem_cons_of_mem _ (List.mem_of_getElem? hf)
    · obtain rfl := Option.some.inj hf'
      rw [hp]
      exact dropPriority_le g
  | refuse hfull hq hp =>
    refine ⟨fun _ => Or.inr (Or.inl ⟨ev, List.mem_cons_self, hp⟩), fun _ f' hf' g _ => ?_⟩
    obtain rfl := Option.some.inj hf'
    rw [hp]
    exact dropPriority_le g
  | alone hnil =>
    refine ⟨fun _ => Or.inr (Or.inr ?_), fun _ f hf => nomatch hf⟩
    rw [hnil]
    exact fun f hf => nomatch hf
  | force f rest hcons hfull hq hp =>
    have hnormal : ¬ ∃ f ∈ ev :: s.inbound, dropPriority f = DROP_PRIORITY_NORMAL := by
      rintro ⟨f', hf', hf'p⟩
      rcases List.mem_cons.1 hf' with rfl | hf'
      · exact hp.ne hf'p
      · exact (hq f' hf').ne hf'p
    constructor
    · intro h
      right
      right
      rw [hcons]
      rintro f' ⟨⟩
      exact h f rfl
    · rintro (hlen | hsome | hhead)
      · exact absurd hlen (not_lt.2 hfull)
      · exact absurd hsome hnormal
      · rw [hcons] at hhead
        exact hhead

/-! ## Runs -/

/-- The queue is spared the forced loss. -/
def SparesAct (m : Mux) (a : Act) : Prop := ∀ ev ∈ m.offered a, Spares m.tasks.shared ev

/-- What an act drops goes before all that is queued after it. -/
theorem drops_in_order (hG : SparesAct m a) (h : m.step a = some m') :
    ∃ l, m'.dropped = m.dropped ++ l ∧
      ∀ f ∈ l, ∀ g ∈ m'.tasks.shared.inbound, dropPriority g ≤ dropPriority f := by
  have hnone : m'.dropped = m.dropped → ∃ l, m'.dropped = m.dropped ++ l ∧
      ∀ f ∈ l, ∀ g ∈ m'.tasks.shared.inbound, dropPriority g ≤ dropPriority f := fun hsame =>
    ⟨[], by rw [hsame, List.append_nil], fun f hf => nomatch hf⟩
  cases queueStep_inv h with
  | offer ev hev hin _ hdrop =>
    refine ⟨_, hdrop, fun f hf => ?_⟩
    rw [hin]
    exact losesInOrder_iff_lost.1 (losesInOrder_iff.2 (hG ev hev)) f (Option.mem_toList.1 hf)
  | pop _ _ _ _ hdrop => exact hnone hdrop
  | remove _ _ _ hdrop => exact hnone hdrop
  | setMax _ _ _ _ hdrop => exact hnone hdrop
  | keep _ _ _ _ hdrop => exact hnone hdrop

/-- **Eviction order.** A frame that comes in costs none that is kept over a less important one, if
and only if there is room, or a normal frame among them, or the oldest frame is as unimportant as
all others. In a run in which this is so whenever a frame is offered, no act drops a frame while a
less important one stays queued. -/
theorem eviction_order (s : Shared) (ev : ℕ × Json) : (LosesInOrder s ev ↔ Spares s ev) ∧
    ∀ (maxInbound : ℕ) (writeTx : Option ℕ) (writerUp : ℕ → Bool) (acts : List Act) (a : Act)
      (m m' : Mux),
      Lts.Guarded Mux.step SparesAct (Mux.start maxInbound writeTx writerUp) (acts ++ [a]) →
      Lts.exec Mux.step (Mux.start maxInbound writeTx writerUp) acts = some m →
      m.step a = some m' →
      ∃ l, m'.dropped = m.dropped ++ l ∧
        ∀ f ∈ l, ∀ g ∈ m'.tasks.shared.inbound, dropPriority g ≤ dropPriority f :=
  ⟨losesInOrder_iff, fun _ _ _ _ _ _ _ hG hm h => drops_in_order (hG.at hm) h⟩

/-! ## The forced loss -/

/-- A status that ends a turn is never to be dropped. -/
theorem dropPriority_idle {n : ℕ} :
    dropPriority (n, statusFrame "idle" none) = DROP_PRIORITY_CRITICAL :=
  (objectDropPriority_of_type (t := "status") (by decide) (by decide)).trans (by decide)

/-- A batch of tool calls. -/
def batchFrame : Json := .obj [("type", .str "tool_call_updates_batch")]

theorem dropPriority_batch {n : ℕ} : dropPriority (n, batchFrame) = DROP_PRIORITY_HIGH := by
  show objectDropPriority _ = _
  rw [objectDropPriority]
  rfl

/-- A status is queued, and a frame of no type is refused for it. -/
theorem eviction_order_refuse :
    LosesInOrder { maxInbound := 1, inbound := [(0, statusFrame "idle" none)] } (1, .obj []) ∧
      ∃ l, (((Mux.start 1 none fun _ => true).push (0, statusFrame "idle" none)).push
          (1, .obj [])).dropped =
            ((Mux.start 1 none fun _ => true).push (0, statusFrame "idle" none)).dropped ++ l ∧
        ∀ f ∈ l, ∀ g ∈ (((Mux.start 1 none fun _ => true).push (0, statusFrame "idle" none)).push
          (1, .obj [])).tasks.shared.inbound, dropPriority g ≤ dropPriority f := by
  have hnormal : dropPriority (1, .obj []) = DROP_PRIORITY_NORMAL :=
    (objectDropPriority_of_type (t := "") rfl (by decide)).trans (by decide)
  have hspares : ∀ s, Spares s (1, .obj []) := fun s =>
    Or.inr (Or.inl ⟨_, List.mem_cons_self, hnormal⟩)
  refine ⟨(eviction_order _ _).1.2 (hspares _), ?_⟩
  refine (eviction_order {} (1, .obj [])).2 1 none (fun _ => true)
    [.push 0 (statusFrame "idle" none)] (.push 1 (.obj [])) _ _
    ⟨?_, fun t _ => ⟨?_, fun _ _ => trivial⟩⟩ rfl rfl
  · rintro ev ⟨⟩
    exact Or.inl (by decide)
  · rintro ev ⟨⟩
    exact hspares _

/-- A full queue with an idle status before a batch of tool calls. -/
def fullQueue : Shared where
  maxInbound := 2
  inbound := [(0, statusFrame "idle" none), (1, batchFrame)]

/-- The idle status goes, the tool calls stay. -/
theorem eviction_order_fails : ¬ ∀ (s : Shared) (ev : ℕ × Json), LosesInOrder s ev := by
  intro h
  rcases losesInOrder_iff.1 (h fullQueue (2, statusFrame "idle" none)) with hlen | hnormal | hhead
  · exact absurd hlen (by decide)
  · obtain ⟨f, hf, hp⟩ := hnormal
    simp only [fullQueue, List.mem_cons, List.not_mem_nil, or_false] at hf
    rcases hf with rfl | rfl | rfl
    · rw [dropPriority_idle] at hp
      exact absurd hp (by decide)
    · rw [dropPriority_idle] at hp
      exact absurd hp (by decide)
    · rw [dropPriority_batch] at hp
      exact absurd hp (by decide)
  · have hle := hhead (0, statusFrame "idle" none) rfl (1, batchFrame) List.mem_cons_self
    rw [dropPriority_idle, dropPriority_batch] at hle
    exact absurd hle (by decide)

end SootheClient.Client
