import Mathlib.Data.Option.Basic
import Mathlib.Tactic.Common

/-!
# Readers of a sequence

A reader takes the items of a list one by one and either goes on in a new state or stops with a
result. `stopAt` is the index and the result of the first stop. `stopAt_rel` compares two readers
in lockstep, under a condition on every item in the state where the first one reads it.
-/

namespace Scan

/-- What a reader does with one item. -/
inductive Step (σ ε : Type*) where
  | next (s : σ)
  | stop (e : ε)

variable {σ τ α ε δ : Type*}

/-- Two steps go on in related states or stop with related results. -/
inductive Step.Rel (R : σ → τ → Prop) (K : ε → δ → Prop) : Step σ ε → Step τ δ → Prop
  | next {s t} (h : R s t) : Step.Rel R K (.next s) (.next t)
  | stop {e d} (h : K e d) : Step.Rel R K (.stop e) (.stop d)

/-- A step goes on in a state of `I` or stops with a result of `P`. -/
def Step.All (I : σ → Prop) (P : ε → Prop) : Step σ ε → Prop
  | .next s => I s
  | .stop e => P e

/-- Change the state and the result of a step. -/
def Step.map (g : σ → τ) (k : ε → δ) : Step σ ε → Step τ δ
  | .next s => .next (g s)
  | .stop e => .stop (k e)

/-- Steps that have the same image are related by it. -/
theorem Step.rel_of_map_eq {g : σ → τ} {k : ε → δ} {x y : Step σ ε} (h : x.map g k = y.map g k) :
    Step.Rel (fun s t => g s = g t) (fun e d => k e = k d) x y := by
  cases x with
  | next s =>
    cases y with
    | next t => exact .next (Step.next.inj h)
    | stop d => cases h
  | stop e =>
    cases y with
    | next t => cases h
    | stop d => exact .stop (Step.stop.inj h)

/-- A stop counted from `n` items earlier. -/
def later (n : ℕ) (p : ℕ × ε) : ℕ × ε := (p.1 + n, p.2)

/-- The index and the result of the first stop. -/
def stopAt (f : σ → α → Step σ ε) (s : σ) : List α → Option (ℕ × ε)
  | [] => none
  | a :: as =>
    match f s a with
    | .next t => (stopAt f t as).map (later 1)
    | .stop e => some (0, e)

/-- The state after all items, when none of them stops the reader. -/
def reach (f : σ → α → Step σ ε) (s : σ) : List α → Option σ
  | [] => some s
  | a :: as =>
    match f s a with
    | .next t => reach f t as
    | .stop _ => none

/-- The result of the first stop and the items after it. -/
def halt (f : σ → α → Step σ ε) (s : σ) : List α → Option (ε × List α)
  | [] => none
  | a :: as =>
    match f s a with
    | .next t => halt f t as
    | .stop e => some (e, as)

/-- What the steps emit, up to and with the first stop. -/
def log {β : Type*} (f : σ → α → Step σ ε) (emit : σ → α → List β) (s : σ) : List α → List β
  | [] => []
  | a :: as =>
    emit s a ++
      match f s a with
      | .next t => log f emit t as
      | .stop _ => []

/-- Every item up to the first stop is read in a state that `G` accepts. -/
def Guarded (f : σ → α → Step σ ε) (G : σ → α → Prop) (s : σ) : List α → Prop
  | [] => True
  | a :: as => G s a ∧ ∀ t, f s a = .next t → Guarded f G t as

/-- Every item up to the first stop is read after items and in a state that `G` accepts. -/
def GuardedAfter (f : σ → α → Step σ ε) (G : List α → σ → α → Prop) (before : List α) (s : σ) :
    List α → Prop
  | [] => True
  | a :: as => G before s a ∧ ∀ t, f s a = .next t → GuardedAfter f G (before ++ [a]) t as

/-- The stops are at one index and their results are related. -/
def Agree (K : ε → δ → Prop) : Option (ℕ × ε) → Option (ℕ × δ) → Prop :=
  Option.Rel fun p q => p.1 = q.1 ∧ K p.2 q.2

variable {f : σ → α → Step σ ε} {g : τ → α → Step τ δ} {G : σ → α → Prop} {R : σ → τ → Prop}
  {K : ε → δ → Prop} {s s' : σ} {t t' : τ} {a : α} {as bs : List α} {e : ε} {m n : ℕ}

/-- A relation that the steps establish by themselves can be added. -/
theorem Step.Rel.mono {R' : σ → τ → Prop} {x : Step σ ε} {y : Step τ δ}
    (hR : ∀ s t, x = .next s → y = .next t → R s t → R' s t) (h : Step.Rel R K x y) :
    Step.Rel R' K x y := by
  cases h with
  | @next s t h => exact .next (hR s t rfl rfl h)
  | stop h => exact .stop h

theorem Step.Rel.of_next {x : Step σ ε} {y : Step τ δ} (h : Step.Rel R K x y)
    (hx : x = .next s) : ∃ t, y = .next t ∧ R s t := by
  cases h with
  | @next s' t hR =>
    obtain rfl := Step.next.inj hx
    exact ⟨t, rfl, hR⟩
  | stop => cases hx

theorem Step.Rel.of_stop {x : Step σ ε} {y : Step τ δ} (h : Step.Rel R K x y)
    (hx : x = .stop e) : ∃ d, y = .stop d ∧ K e d := by
  cases h with
  | next => cases hx
  | @stop e' d hK =>
    obtain rfl := Step.stop.inj hx
    exact ⟨d, rfl, hK⟩

theorem later_later (p : ℕ × ε) : later n (later m p) = later (m + n) p := by
  unfold later
  rw [Nat.add_assoc]

theorem stopAt_cons_next (h : f s a = .next s') :
    stopAt f s (a :: as) = (stopAt f s' as).map (later 1) := by
  conv_lhs => unfold stopAt
  rw [h]

theorem stopAt_cons_stop (h : f s a = .stop e) : stopAt f s (a :: as) = some (0, e) := by
  unfold stopAt
  rw [h]

theorem reach_cons_next (h : f s a = .next s') : reach f s (a :: as) = reach f s' as := by
  conv_lhs => unfold reach
  rw [h]

theorem reach_cons_stop (h : f s a = .stop e) : reach f s (a :: as) = none := by
  unfold reach
  rw [h]

theorem reach_cons_eq_some :
    reach f s (a :: as) = some s' ↔ ∃ u, f s a = .next u ∧ reach f u as = some s' := by
  cases hf : f s a with
  | next u =>
    rw [reach_cons_next hf]
    constructor
    · exact fun h => ⟨u, rfl, h⟩
    · rintro ⟨u, ⟨⟩, h⟩
      exact h
  | stop e =>
    rw [reach_cons_stop hf]
    constructor
    · intro h
      cases h
    · rintro ⟨u, ⟨⟩, -⟩

/-- After a prefix that does not stop the reader, the stop is that of the rest. -/
theorem stopAt_append (h : reach f s as = some s') :
    stopAt f s (as ++ bs) = (stopAt f s' bs).map (later as.length) := by
  induction as generalizing s with
  | nil =>
    obtain rfl := Option.some.inj h
    show stopAt f s bs = (stopAt f s bs).map (later 0)
    cases stopAt f s bs <;> rfl
  | cons a as ih =>
    obtain ⟨u, hf, h⟩ := reach_cons_eq_some.1 h
    rw [List.cons_append, stopAt_cons_next hf, ih h, Option.map_map]
    exact congrArg (Option.map · _) (funext fun p => later_later p)

theorem reach_append (h : reach f s as = some s') : reach f s (as ++ bs) = reach f s' bs := by
  induction as generalizing s with
  | nil =>
    obtain rfl := Option.some.inj h
    rfl
  | cons a as ih =>
    obtain ⟨u, hf, h⟩ := reach_cons_eq_some.1 h
    rw [List.cons_append, reach_cons_next hf, ih h]

/-- The last item is read in the state that the others reach. -/
theorem reach_concat (h : reach f s (as ++ [a]) = some s') :
    ∃ t, reach f s as = some t ∧ f t a = .next s' := by
  induction as generalizing s with
  | nil =>
    obtain ⟨u, hf, h⟩ := reach_cons_eq_some.1 h
    obtain rfl := Option.some.inj h
    exact ⟨s, rfl, hf⟩
  | cons b as ih =>
    obtain ⟨u, hf, h⟩ := reach_cons_eq_some.1 h
    obtain ⟨t, ht, hstep⟩ := ih h
    exact ⟨t, reach_cons_eq_some.2 ⟨u, hf, ht⟩, hstep⟩

/-- A stop happens at an item, in the state that the items before it reach. -/
theorem stopAt_eq_some (h : stopAt f s as = some (n, e)) :
    ∃ bs s' a cs, as = bs ++ a :: cs ∧ bs.length = n ∧ reach f s bs = some s' ∧
      f s' a = .stop e := by
  induction as generalizing s n with
  | nil => cases h
  | cons a as ih =>
    cases hf : f s a with
    | next u =>
      rw [stopAt_cons_next hf, Option.map_eq_some_iff] at h
      obtain ⟨⟨m, d⟩, hm, hd⟩ := h
      obtain ⟨rfl, rfl⟩ := Prod.mk.inj hd
      obtain ⟨bs, s', b, cs, rfl, hlen, hreach, hstop⟩ := ih hm
      refine ⟨a :: bs, s', b, cs, rfl, ?_, ?_, hstop⟩
      · rw [List.length_cons, hlen]
      · rw [reach_cons_next hf, hreach]
    | stop d =>
      rw [stopAt_cons_stop hf] at h
      obtain ⟨rfl, rfl⟩ := Prod.mk.inj (Option.some.inj h)
      exact ⟨[], s, a, as, rfl, rfl, rfl, hf⟩

/-- Guarded readings can be tested. -/
instance Guarded.decidable [inst : ∀ s a, Decidable (G s a)] (f : σ → α → Step σ ε) :
    ∀ (as : List α) (s : σ), Decidable (Guarded f G s as)
  | [], _ => isTrue trivial
  | a :: as, s =>
    match h : f s a with
    | .next t =>
      have := Guarded.decidable f as t
      decidable_of_iff (G s a ∧ Guarded f G t as)
        ⟨fun hG => ⟨hG.1, fun u hu => by cases h.symm.trans hu; exact hG.2⟩,
          fun hG => ⟨hG.1, hG.2 t h⟩⟩
    | .stop e =>
      decidable_of_iff (G s a)
        ⟨fun hG => ⟨hG, fun u hu => by cases h.symm.trans hu⟩, fun hG => hG.1⟩

instance GuardedAfter.decidable {G : List α → σ → α → Prop}
    [inst : ∀ before s a, Decidable (G before s a)] (f : σ → α → Step σ ε) :
    ∀ (as before : List α) (s : σ), Decidable (GuardedAfter f G before s as)
  | [], _, _ => isTrue trivial
  | a :: as, before, s =>
    match h : f s a with
    | .next t =>
      have : Decidable (GuardedAfter f G (before ++ [a]) t as) :=
        GuardedAfter.decidable f as (before ++ [a]) t
      decidable_of_iff (G before s a ∧ GuardedAfter f G (before ++ [a]) t as)
        ⟨fun hG => ⟨hG.1, fun u hu => by cases h.symm.trans hu; exact hG.2⟩,
          fun hG => ⟨hG.1, hG.2 t h⟩⟩
    | .stop e =>
      decidable_of_iff (G before s a)
        ⟨fun hG => ⟨hG, fun u hu => by cases h.symm.trans hu⟩, fun hG => hG.1⟩

theorem Guarded.mono {G' : σ → α → Prop} (hG : ∀ s, ∀ a ∈ as, G s a → G' s a)
    (h : Guarded f G s as) : Guarded f G' s as := by
  induction as generalizing s with
  | nil => trivial
  | cons a as ih =>
    exact ⟨hG s a List.mem_cons_self h.1,
      fun t ht => ih (fun s b hb => hG s b (List.mem_cons_of_mem _ hb)) (h.2 t ht)⟩

theorem guarded_of_forall (h : ∀ s, ∀ a ∈ as, G s a) : Guarded f G s as := by
  induction as generalizing s with
  | nil => trivial
  | cons a as ih =>
    exact ⟨h s a List.mem_cons_self, fun t _ =>
      ih fun s b hb => h s b (List.mem_cons_of_mem _ hb)⟩

/-- An invariant of the steps that implies the guard. -/
theorem guarded_of_invariant {I : σ → Prop} (hstep : ∀ s, ∀ a ∈ as, I s → ∀ t, f s a = .next t → I t)
    (hG : ∀ s, ∀ a ∈ as, I s → G s a) (hs : I s) : Guarded f G s as := by
  induction as generalizing s with
  | nil => trivial
  | cons a as ih =>
    exact ⟨hG s a List.mem_cons_self hs, fun t ht =>
      ih (fun s b hb => hstep s b (List.mem_cons_of_mem a hb))
        (fun s b hb => hG s b (List.mem_cons_of_mem a hb)) (hstep s a List.mem_cons_self hs t ht)⟩

/-- **Outcome rule.** What accepted items preserve and every stop among them establishes holds of
the result. -/
theorem stopAt_spec {I : σ → Prop} {P : ε → Prop}
    (hnext : ∀ s a t, I s → G s a → f s a = .next t → I t)
    (hstop : ∀ s a e, I s → G s a → f s a = .stop e → P e)
    (hs : I s) (hG : Guarded f G s as) (h : stopAt f s as = some (n, e)) : P e := by
  induction as generalizing s n with
  | nil => cases h
  | cons a as ih =>
    cases hf : f s a with
    | next t =>
      rw [stopAt_cons_next hf, Option.map_eq_some_iff] at h
      obtain ⟨⟨m, d⟩, hm, hd⟩ := h
      obtain rfl : d = e := congrArg Prod.snd hd
      exact ih (hnext s a t hs hG.1 hf) (hG.2 t hf) hm
    | stop d =>
      rw [stopAt_cons_stop hf] at h
      cases h
      exact hstop s a _ hs hG.1 hf

/-- **Violation rule.** When every item that is not accepted stops the reader, a reading that is
not guarded stops at the first such item. -/
theorem stopAt_of_not_guarded {I : σ → Prop} {P : ε → Prop}
    (hnext : ∀ s a t, I s → G s a → f s a = .next t → I t)
    (hstop : ∀ s a, I s → ¬ G s a → ∃ e, f s a = .stop e ∧ P e)
    (hs : I s) (hG : ¬ Guarded f G s as) : ∃ n e, stopAt f s as = some (n, e) ∧ P e := by
  induction as generalizing s with
  | nil => exact absurd trivial hG
  | cons a as ih =>
    by_cases ha : G s a
    · cases hf : f s a with
      | next t =>
        have hrest : ¬ Guarded f G t as := fun h =>
          hG ⟨ha, fun u hu => by cases hf.symm.trans hu; exact h⟩
        obtain ⟨n, e, hn, he⟩ := ih (hnext s a t hs ha hf) hrest
        exact ⟨n + 1, e, by rw [stopAt_cons_next hf, hn]; rfl, he⟩
      | stop d => exact absurd ⟨ha, fun u hu => by cases hf.symm.trans hu⟩ hG
    · obtain ⟨e, hf, he⟩ := hstop s a hs ha
      exact ⟨0, e, stopAt_cons_stop hf, he⟩

/-- A relation on optional results, through maps of both. -/
theorem rel_map_iff {β γ β' γ' : Type*} {S : β' → γ' → Prop} {S' : β → γ → Prop} {u : β → β'}
    {v : γ → γ'} (h : ∀ p q, S (u p) (v q) ↔ S' p q) {p : Option β} {q : Option γ} :
    Option.Rel S (p.map u) (q.map v) ↔ Option.Rel S' p q := by
  cases p with
  | none =>
    cases q with
    | none => exact ⟨fun _ => .none, fun _ => .none⟩
    | some q => exact ⟨fun h => (nomatch h), fun h => (nomatch h)⟩
  | some p =>
    cases q with
    | none => exact ⟨fun h => (nomatch h), fun h => (nomatch h)⟩
    | some q =>
      constructor
      · intro hS
        cases hS with
        | some hS => exact .some ((h p q).1 hS)
      · intro hS
        cases hS with
        | some hS => exact .some ((h p q).2 hS)

/-- Agreement does not depend on where the counting starts. -/
theorem agree_map_later {p : Option (ℕ × ε)} {q : Option (ℕ × δ)} :
    Agree K (p.map (later n)) (q.map (later n)) ↔ Agree K p q :=
  rel_map_iff fun p q => by
    show (p.1 + n = q.1 + n ∧ K p.2 q.2) ↔ _
    rw [Nat.add_right_cancel_iff]

/-- **Lockstep rule.** Readers whose steps correspond on accepted items stop together. -/
theorem stopAt_rel (hstep : ∀ s t a, R s t → G s a → Step.Rel R K (f s a) (g t a))
    (h : R s t) (hG : Guarded f G s as) : Agree K (stopAt f s as) (stopAt g t as) := by
  induction as generalizing s t with
  | nil => exact .none
  | cons a as ih =>
    have hst := hstep s t a h hG.1
    cases hf : f s a with
    | next u =>
      obtain ⟨v, hg, hR⟩ := hst.of_next hf
      rw [stopAt_cons_next hf, stopAt_cons_next hg, agree_map_later]
      exact ih hR (hG.2 u hf)
    | stop e =>
      obtain ⟨d, hg, hK⟩ := hst.of_stop hf
      rw [stopAt_cons_stop hf, stopAt_cons_stop hg]
      exact .some ⟨rfl, hK⟩

/-- Readers in lockstep reach related states. -/
theorem reach_rel (hstep : ∀ s t a, R s t → G s a → Step.Rel R K (f s a) (g t a))
    (h : R s t) (hG : Guarded f G s as) (hs : reach f s as = some s') :
    ∃ t', reach g t as = some t' ∧ R s' t' := by
  induction as generalizing s t with
  | nil =>
    obtain rfl := Option.some.inj hs
    exact ⟨t, rfl, h⟩
  | cons a as ih =>
    obtain ⟨u, hf, hs⟩ := reach_cons_eq_some.1 hs
    obtain ⟨v, hg, hR⟩ := (hstep s t a h hG.1).of_next hf
    rw [reach_cons_next hg]
    exact ih hR (hG.2 u hf) hs

/-- After a prefix that stops neither reader, they agree when they agree on the rest. -/
theorem agree_append (hs : reach f s as = some s') (ht : reach g t as = some t') :
    Agree K (stopAt f s (as ++ bs)) (stopAt g t (as ++ bs)) ↔
      Agree K (stopAt f s' bs) (stopAt g t' bs) := by
  rw [stopAt_append hs, stopAt_append ht]
  exact agree_map_later

/-- A reader that stops where another goes on disagrees with it, whatever follows. -/
theorem not_agree_of_stop_next (hf : f s a = .stop e) (hg : g t a = .next t') :
    ¬ Agree K (stopAt f s (a :: as)) (stopAt g t (a :: as)) := by
  rw [stopAt_cons_stop hf, stopAt_cons_next hg]
  intro h
  cases hq : stopAt g t' as with
  | none =>
    rw [hq] at h
    cases h
  | some q =>
    rw [hq] at h
    cases h with
    | some h => exact absurd h.1 (Nat.succ_ne_zero q.1).symm

theorem not_agree_of_next_stop {d : δ} (hf : f s a = .next s') (hg : g t a = .stop d) :
    ¬ Agree K (stopAt f s (a :: as)) (stopAt g t (a :: as)) := by
  rw [stopAt_cons_next hf, stopAt_cons_stop hg]
  intro h
  cases hp : stopAt f s' as with
  | none =>
    rw [hp] at h
    cases h
  | some p =>
    rw [hp] at h
    cases h with
    | some h => exact absurd h.1 (Nat.succ_ne_zero p.1)

theorem agree_cons_next (hf : f s a = .next s') (hg : g t a = .next t') :
    Agree K (stopAt f s (a :: as)) (stopAt g t (a :: as)) ↔
      Agree K (stopAt f s' as) (stopAt g t' as) := by
  rw [stopAt_cons_next hf, stopAt_cons_next hg]
  exact agree_map_later

/-! ## The items after the stop -/

theorem halt_cons_next (h : f s a = .next s') : halt f s (a :: as) = halt f s' as := by
  conv_lhs => unfold halt
  rw [h]

theorem halt_cons_stop (h : f s a = .stop e) : halt f s (a :: as) = some (e, as) := by
  unfold halt
  rw [h]

theorem halt_append_of_reach (h : reach f s as = some s') :
    halt f s (as ++ bs) = halt f s' bs := by
  induction as generalizing s with
  | nil =>
    obtain rfl := Option.some.inj h
    rfl
  | cons a as ih =>
    obtain ⟨u, hf, h⟩ := reach_cons_eq_some.1 h
    rw [List.cons_append, halt_cons_next hf, ih h]

/-- What follows the items cannot undo a stop among them. -/
theorem halt_append_of_halt {cs : List α} (h : halt f s as = some (e, cs)) :
    halt f s (as ++ bs) = some (e, cs ++ bs) := by
  induction as generalizing s with
  | nil => cases h
  | cons a as ih =>
    cases hf : f s a with
    | next u =>
      rw [halt_cons_next hf] at h
      rw [List.cons_append, halt_cons_next hf, ih h]
    | stop d =>
      rw [halt_cons_stop hf] at h
      obtain ⟨rfl, rfl⟩ := Prod.mk.inj (Option.some.inj h)
      rw [List.cons_append, halt_cons_stop hf]

/-- Readers in lockstep leave the same items and related results. -/
theorem halt_rel (hstep : ∀ s t a, R s t → Step.Rel R K (f s a) (g t a)) (h : R s t) :
    Option.Rel (fun p q => K p.1 q.1 ∧ p.2 = q.2) (halt f s as) (halt g t as) := by
  induction as generalizing s t with
  | nil => exact .none
  | cons a as ih =>
    have hst := hstep s t a h
    cases hf : f s a with
    | next u =>
      obtain ⟨v, hg, hR⟩ := hst.of_next hf
      rw [halt_cons_next hf, halt_cons_next hg]
      exact ih hR
    | stop e =>
      obtain ⟨d, hg, hK⟩ := hst.of_stop hf
      rw [halt_cons_stop hf, halt_cons_stop hg]
      exact .some ⟨hK, rfl⟩

/-- A list of items either stops the reader or is read to its end. -/
theorem halt_or_reach (f : σ → α → Step σ ε) (s : σ) (as : List α) :
    (∃ e cs, halt f s as = some (e, cs) ∧ reach f s as = none) ∨
      ∃ s', halt f s as = none ∧ reach f s as = some s' := by
  induction as generalizing s with
  | nil => exact Or.inr ⟨s, rfl, rfl⟩
  | cons a as ih =>
    cases hf : f s a with
    | next u =>
      rw [halt_cons_next hf, reach_cons_next hf]
      exact ih u
    | stop e =>
      rw [halt_cons_stop hf, reach_cons_stop hf]
      exact Or.inl ⟨e, as, rfl, rfl⟩

/-- A reader that stops has read the items before the one it stops at. -/
theorem halt_eq_some {cs : List α} (h : halt f s as = some (e, cs)) :
    ∃ bs s' a, as = bs ++ a :: cs ∧ reach f s bs = some s' ∧ f s' a = .stop e := by
  induction as generalizing s with
  | nil => cases h
  | cons a as ih =>
    cases hf : f s a with
    | next u =>
      rw [halt_cons_next hf] at h
      obtain ⟨bs, s', b, rfl, hreach, hstop⟩ := ih h
      exact ⟨a :: bs, s', b, rfl, by rw [reach_cons_next hf, hreach], hstop⟩
    | stop d =>
      rw [halt_cons_stop hf] at h
      obtain ⟨rfl, rfl⟩ := Prod.mk.inj (Option.some.inj h)
      exact ⟨[], s, a, rfl, rfl, hf⟩

/-- **Invariant rule.** What every step keeps holds where the items end, and what every stop
establishes holds of the result. -/
theorem halt_all {I : σ → Prop} {P : ε → Prop} {cs : List α}
    (hstep : ∀ s, ∀ a ∈ as, I s → (f s a).All I P) (hs : I s) (h : halt f s as = some (e, cs)) :
    P e := by
  induction as generalizing s with
  | nil => cases h
  | cons a as ih =>
    have ha := hstep s a List.mem_cons_self hs
    cases hf : f s a with
    | next u =>
      rw [hf] at ha
      rw [halt_cons_next hf] at h
      exact ih (fun s b hb => hstep s b (List.mem_cons_of_mem a hb)) ha h
    | stop d =>
      rw [hf] at ha
      rw [halt_cons_stop hf] at h
      obtain ⟨rfl, rfl⟩ := Prod.mk.inj (Option.some.inj h)
      exact ha

/-- What every step that goes on keeps holds of the state reached. -/
theorem reach_invariant {I : σ → Prop} (hstep : ∀ s, ∀ a ∈ as, I s → ∀ t, f s a = .next t → I t)
    (hs : I s) (h : reach f s as = some s') : I s' := by
  induction as generalizing s with
  | nil =>
    obtain rfl := Option.some.inj h
    exact hs
  | cons a as ih =>
    obtain ⟨u, hf, h⟩ := reach_cons_eq_some.1 h
    exact ih (fun s b hb => hstep s b (List.mem_cons_of_mem a hb))
      (hstep s a List.mem_cons_self hs u hf) h

/-! ## What a reading emits -/

section

variable {β : Type*} {emit : σ → α → List β}

theorem log_cons_next (h : f s a = .next s') :
    log f emit s (a :: as) = emit s a ++ log f emit s' as := by
  conv_lhs => unfold log
  rw [h]

theorem log_cons_stop (h : f s a = .stop e) : log f emit s (a :: as) = emit s a := by
  unfold log
  rw [h]
  exact List.append_nil _

theorem log_append_of_reach (h : reach f s as = some s') :
    log f emit s (as ++ bs) = log f emit s as ++ log f emit s' bs := by
  induction as generalizing s with
  | nil =>
    obtain rfl := Option.some.inj h
    rfl
  | cons a as ih =>
    obtain ⟨u, hf, h⟩ := reach_cons_eq_some.1 h
    rw [List.cons_append, log_cons_next hf, log_cons_next hf, ih h, List.append_assoc]

/-- **History rule.** What every step keeps of the state and all that was emitted so far holds of
the state reached. -/
theorem reach_log {I : List β → σ → Prop}
    (hstep : ∀ l s a t, I l s → f s a = .next t → I (l ++ emit s a) t) {l : List β} (hs : I l s)
    (h : reach f s as = some s') : I (l ++ log f emit s as) s' := by
  induction as generalizing s l with
  | nil =>
    obtain rfl := Option.some.inj h
    show I (l ++ []) s
    rw [List.append_nil]
    exact hs
  | cons a as ih =>
    obtain ⟨u, hf, h⟩ := reach_cons_eq_some.1 h
    rw [log_cons_next hf, ← List.append_assoc]
    exact ih (hstep l s a u hs hf) h

/-- Something holds of all that is emitted when it holds of what each step emits. -/
theorem forall_mem_log {P : β → Prop} :
    (∀ x ∈ log f emit s as, P x) ↔ Guarded f (fun s a => ∀ x ∈ emit s a, P x) s as := by
  induction as generalizing s with
  | nil => exact ⟨fun _ => trivial, fun _ _ hx => nomatch hx⟩
  | cons a as ih =>
    cases hf : f s a with
    | next u =>
      rw [log_cons_next hf, List.forall_mem_append, ih]
      refine and_congr_right fun _ => ⟨fun h t ht => ?_, fun h => h u hf⟩
      obtain rfl : u = t := Step.next.inj (hf.symm.trans ht)
      exact h
    | stop e =>
      rw [log_cons_stop hf]
      exact ⟨fun h => ⟨h, fun t ht => by cases hf.symm.trans ht⟩, fun h => h.1⟩

/-- Two logs that agree item by item in what is read off them agree as a whole. -/
theorem flatMap_log_congr {β' γ : Type*} {emit' : σ → α → List β'} {g : β → List γ}
    {g' : β' → List γ} (h : ∀ s a, (emit s a).flatMap g = (emit' s a).flatMap g') :
    (log f emit s as).flatMap g = (log f emit' s as).flatMap g' := by
  induction as generalizing s with
  | nil => rfl
  | cons a as ih =>
    cases hf : f s a with
    | next u =>
      rw [log_cons_next hf, log_cons_next hf, List.flatMap_append, List.flatMap_append, h, ih]
    | stop e =>
      rw [log_cons_stop hf, log_cons_stop hf]
      exact h s a

/-- **Output rule.** When every step appends what it emits to an output, the output at the stop is
that at the start and all that was emitted. -/
theorem halt_log {γ : Type*} {g : β → γ} (o : σ → List γ) (o' : ε → List γ) {cs : List α}
    (hstep : ∀ s a, (f s a).All (fun t => o t = o s ++ (emit s a).map g)
      fun e => o' e = o s ++ (emit s a).map g)
    (h : halt f s as = some (e, cs)) : o' e = o s ++ (log f emit s as).map g := by
  induction as generalizing s with
  | nil => cases h
  | cons a as ih =>
    have ha := hstep s a
    cases hf : f s a with
    | next u =>
      rw [hf] at ha
      rw [halt_cons_next hf] at h
      rw [ih h, log_cons_next hf, List.map_append, ← List.append_assoc]
      exact congrArg (· ++ _) ha
    | stop d =>
      rw [hf] at ha
      rw [halt_cons_stop hf] at h
      obtain ⟨rfl, rfl⟩ := Prod.mk.inj (Option.some.inj h)
      rw [log_cons_stop hf]
      exact ha

end

/-! ## A reading with items deleted -/

variable {keep : α → Bool}

/-- The first reader stops at a kept item, the second one at the same item among the kept ones, and
their results are related. -/
def AgreeOn (keep : α → Bool) (as : List α) (K : ε → δ → Prop) :
    Option (ℕ × ε) → Option (ℕ × δ) → Prop :=
  Option.Rel fun p q => as[p.1]?.any keep = true ∧ q.1 = (as.take p.1).countP keep ∧ K p.2 q.2

theorem agreeOn_cons_keep {p : Option (ℕ × ε)} {q : Option (ℕ × δ)} (ha : keep a = true) :
    AgreeOn keep (a :: as) K (p.map (later 1)) (q.map (later 1)) ↔ AgreeOn keep as K p q :=
  rel_map_iff fun p q => by
    show ((a :: as)[p.1 + 1]?.any keep = true ∧
      q.1 + 1 = ((a :: as).take (p.1 + 1)).countP keep ∧ K p.2 q.2) ↔ _
    rw [List.getElem?_cons_succ, List.take_succ_cons, List.countP_cons_of_pos ha,
      Nat.add_right_cancel_iff]

theorem agreeOn_cons_drop {p : Option (ℕ × ε)} {q : Option (ℕ × δ)} (ha : keep a = false) :
    AgreeOn keep (a :: as) K (p.map (later 1)) q ↔ AgreeOn keep as K p q := by
  conv_lhs => rw [← Option.map_id' (x := q)]
  refine rel_map_iff fun p q => ?_
  show ((a :: as)[p.1 + 1]?.any keep = true ∧
    q.1 = ((a :: as).take (p.1 + 1)).countP keep ∧ K p.2 q.2) ↔ _
  rw [List.getElem?_cons_succ, List.take_succ_cons, List.countP_cons_of_neg (by rw [ha]; decide)]

/-- After a prefix that stops neither reader, they agree when they agree on the rest. -/
theorem agreeOn_append (hs : reach f s as = some s') (ht : reach g t (as.filter keep) = some t') :
    AgreeOn keep (as ++ bs) K (stopAt f s (as ++ bs)) (stopAt g t ((as ++ bs).filter keep)) ↔
      AgreeOn keep bs K (stopAt f s' bs) (stopAt g t' (bs.filter keep)) := by
  rw [List.filter_append, stopAt_append hs, stopAt_append ht]
  refine rel_map_iff fun p q => ?_
  show ((as ++ bs)[p.1 + as.length]?.any keep = true ∧
    q.1 + (as.filter keep).length = ((as ++ bs).take (p.1 + as.length)).countP keep ∧ K p.2 q.2) ↔ _
  rw [Nat.add_comm p.1, List.getElem?_append_right (Nat.le_add_right _ _), Nat.add_sub_cancel_left,
    List.take_length_add_append, List.countP_append, List.countP_eq_length_filter,
    Nat.add_comm q.1, Nat.add_left_cancel_iff]

/-- A reader that stops at a deleted item disagrees with one that never reads it. -/
theorem not_agreeOn_of_drop_stop {q : Option (ℕ × δ)} (ha : keep a = false) (hf : f s a = .stop e) :
    ¬ AgreeOn keep (a :: as) K (stopAt f s (a :: as)) q := by
  rw [stopAt_cons_stop hf]
  intro h
  cases h with
  | some h =>
    have hkeep := h.1
    rw [List.getElem?_cons_zero, Option.any_some, ha] at hkeep
    cases hkeep

theorem not_agreeOn_of_stop_next (hf : f s a = .stop e) (hg : g t a = .next t') :
    ¬ AgreeOn keep (a :: as) K (stopAt f s (a :: as)) (stopAt g t (a :: bs)) := by
  rw [stopAt_cons_stop hf, stopAt_cons_next hg]
  intro h
  cases hq : stopAt g t' bs with
  | none =>
    rw [hq] at h
    cases h
  | some q =>
    rw [hq] at h
    cases h with
    | some h => exact absurd h.2.1 (Nat.succ_ne_zero q.1)

theorem not_agreeOn_of_next_stop {d : δ} (ha : keep a = true) (hf : f s a = .next s')
    (hg : g t a = .stop d) :
    ¬ AgreeOn keep (a :: as) K (stopAt f s (a :: as)) (stopAt g t (a :: bs)) := by
  rw [stopAt_cons_next hf, stopAt_cons_stop hg]
  intro h
  cases hp : stopAt f s' as with
  | none =>
    rw [hp] at h
    cases h
  | some p =>
    rw [hp] at h
    cases h with
    | some h =>
      have hcount : 0 = ((a :: as).take (p.1 + 1)).countP keep := h.2.1
      rw [List.take_succ_cons, List.countP_cons_of_pos ha] at hcount
      exact absurd hcount.symm (Nat.succ_ne_zero _)

section Deletion

variable {H : List α → σ → α → Prop} {S : List α → σ → τ → Prop} {before : List α}

/-- **Deletion rule.** When accepted items are read in lockstep where they are kept and preserve
the relation where they are not, deleting the others changes nothing. -/
theorem stopAt_filter
    (hkeep : ∀ before s t a, S before s t → keep a = true → H before s a →
      Step.Rel (S (before ++ [a])) K (f s a) (g t a))
    (hdrop : ∀ before s t a, S before s t → keep a = false → H before s a →
      ∃ s', f s a = .next s' ∧ S (before ++ [a]) s' t)
    (h : S before s t) (hG : GuardedAfter f H before s as) :
    AgreeOn keep as K (stopAt f s as) (stopAt g t (as.filter keep)) := by
  induction as generalizing before s t with
  | nil => exact .none
  | cons a as ih =>
    cases ha : keep a with
    | true =>
      rw [List.filter_cons_of_pos ha]
      have hst := hkeep before s t a h ha hG.1
      cases hf : f s a with
      | next u =>
        obtain ⟨v, hg, hR⟩ := hst.of_next hf
        rw [stopAt_cons_next hf, stopAt_cons_next hg, agreeOn_cons_keep ha]
        exact ih hR (hG.2 u hf)
      | stop e =>
        obtain ⟨d, hg, hK⟩ := hst.of_stop hf
        rw [stopAt_cons_stop hf, stopAt_cons_stop hg]
        exact .some ⟨ha, rfl, hK⟩
    | false =>
      rw [List.filter_cons_of_neg (by rw [ha]; decide)]
      obtain ⟨u, hf, hR⟩ := hdrop before s t a h ha hG.1
      rw [stopAt_cons_next hf, agreeOn_cons_drop ha]
      exact ih hR (hG.2 u hf)

/-- The states reached with and without the deleted items are related. -/
theorem reach_filter
    (hkeep : ∀ before s t a, S before s t → keep a = true → H before s a →
      Step.Rel (S (before ++ [a])) K (f s a) (g t a))
    (hdrop : ∀ before s t a, S before s t → keep a = false → H before s a →
      ∃ s', f s a = .next s' ∧ S (before ++ [a]) s' t)
    (h : S before s t) (hG : GuardedAfter f H before s as) (hs : reach f s as = some s') :
    ∃ t', reach g t (as.filter keep) = some t' ∧ S (before ++ as) s' t' := by
  induction as generalizing before s t with
  | nil =>
    obtain rfl := Option.some.inj hs
    exact ⟨t, rfl, by rwa [List.append_nil]⟩
  | cons a as ih =>
    obtain ⟨u, hf, hs⟩ := reach_cons_eq_some.1 hs
    rw [List.append_cons before a as]
    cases ha : keep a with
    | true =>
      obtain ⟨v, hg, hR⟩ := (hkeep before s t a h ha hG.1).of_next hf
      rw [List.filter_cons_of_pos ha, reach_cons_next hg]
      exact ih hR (hG.2 u hf) hs
    | false =>
      obtain ⟨v, hv, hR⟩ := hdrop before s t a h ha hG.1
      obtain rfl : u = v := by
        rw [hf] at hv
        injection hv
      rw [List.filter_cons_of_neg (by rw [ha]; decide)]
      exact ih hR (hG.2 u hf) hs

end Deletion

/-- Items that never move the reader can be deleted. -/
theorem halt_filter {I : σ → Prop} {P : ε → Prop} (hstep : ∀ s a, I s → (f s a).All I P)
    (hdrop : ∀ s a, I s → keep a = false → f s a = .next s) (hs : I s) :
    halt f s (as.filter keep) = (halt f s as).map fun p => (p.1, p.2.filter keep) := by
  induction as generalizing s with
  | nil => rfl
  | cons a as ih =>
    cases ha : keep a with
    | false =>
      rw [List.filter_cons_of_neg (by rw [ha]; decide), halt_cons_next (hdrop s a hs ha)]
      exact ih hs
    | true =>
      rw [List.filter_cons_of_pos ha]
      have hall := hstep s a hs
      cases hf : f s a with
      | next u =>
        rw [hf] at hall
        rw [halt_cons_next hf, halt_cons_next hf]
        exact ih hall
      | stop e =>
        rw [halt_cons_stop hf, halt_cons_stop hf]
        rfl

end Scan
