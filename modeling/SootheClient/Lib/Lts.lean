import Mathlib.Data.List.Basic
import Mathlib.Logic.Function.Basic

/-!
# Runs of a labelled step function

`step s a` is the state after the label `a`, or `none` when `a` is not enabled in `s`. A run is a
list of labels. A run is *guarded* by `G` when every label of it is taken in a state `G` accepts;
`inv_of_guarded` is the induction every safety proof over such runs uses.
-/

namespace Lts

variable {σ α : Type*} {step : σ → α → Option σ} {G : σ → α → Prop} {s t u : σ} {a : α}
  {as bs : List α}

/-- The state after the labels of a run, or `none` when one of them is not enabled. -/
def exec (step : σ → α → Option σ) (s : σ) : List α → Option σ
  | [] => some s
  | a :: as => (step s a).bind fun t => exec step t as

/-- Every label of the run is taken in a state that `G` accepts. -/
def Guarded (step : σ → α → Option σ) (G : σ → α → Prop) (s : σ) : List α → Prop
  | [] => True
  | a :: as => G s a ∧ ∀ t, step s a = some t → Guarded step G t as

@[simp] theorem exec_nil : exec step s [] = some s := rfl

theorem exec_cons : exec step s (a :: as) = (step s a).bind fun t => exec step t as := rfl

theorem exec_cons_eq_some :
    exec step s (a :: as) = some u ↔ ∃ t, step s a = some t ∧ exec step t as = some u := by
  rw [exec_cons, Option.bind_eq_some_iff]

theorem exec_cons_of_step (h : step s a = some t) : exec step s (a :: as) = exec step t as := by
  rw [exec_cons, h, Option.bind_some]

theorem exec_append : exec step s (as ++ bs) = (exec step s as).bind fun t => exec step t bs := by
  induction as generalizing s with
  | nil => rfl
  | cons a as ih =>
    rw [List.cons_append, exec_cons, exec_cons, Option.bind_assoc]
    congr 1
    funext t
    exact ih

theorem exec_append_of_exec (h : exec step s as = some t) :
    exec step s (as ++ bs) = exec step t bs := by
  rw [exec_append, h, Option.bind_some]

theorem exec_concat (h : exec step s as = some t) : exec step s (as ++ [a]) = step t a := by
  rw [exec_append_of_exec h, exec_cons]
  cases step t a <;> rfl

theorem guarded_append : Guarded step G s (as ++ bs) ↔
    Guarded step G s as ∧ ∀ t, exec step s as = some t → Guarded step G t bs := by
  induction as generalizing s with
  | nil => simp [Guarded]
  | cons a as ih =>
    constructor
    · rintro ⟨hG, h⟩
      refine ⟨⟨hG, fun t ht => (ih.1 (h t ht)).1⟩, fun u hu => ?_⟩
      obtain ⟨t, ht, hu⟩ := exec_cons_eq_some.1 hu
      exact (ih.1 (h t ht)).2 u hu
    · rintro ⟨⟨hG, h⟩, hbs⟩
      refine ⟨hG, fun t ht => ih.2 ⟨h t ht, fun u hu => hbs u ?_⟩⟩
      rw [exec_cons_of_step ht, hu]

theorem guarded_cons (hG : G s a) (h : step s a = some t) (ht : Guarded step G t as) :
    Guarded step G s (a :: as) :=
  ⟨hG, fun u hu => by rw [h, Option.some.injEq] at hu; exact hu ▸ ht⟩

/-- The label that follows a prefix of a guarded run is taken where `G` accepts it. -/
theorem Guarded.at (h : Guarded step G s (as ++ a :: bs)) (ht : exec step s as = some t) :
    G t a :=
  ((guarded_append.1 h).2 t ht).1

theorem Guarded.mono {G' : σ → α → Prop} (hG : ∀ s a, G s a → G' s a)
    (h : Guarded step G s as) : Guarded step G' s as := by
  induction as generalizing s with
  | nil => trivial
  | cons a as ih => exact ⟨hG s a h.1, fun t ht => ih (h.2 t ht)⟩

/-- What all labels of the run satisfy may be added to the guard. -/
theorem Guarded.and_mem {P : α → Prop} (hP : ∀ a ∈ as, P a) (h : Guarded step G s as) :
    Guarded step (fun s a => P a ∧ G s a) s as := by
  induction as generalizing s with
  | nil => trivial
  | cons a as ih =>
    exact ⟨⟨hP a List.mem_cons_self, h.1⟩,
      fun t ht => ih (fun b hb => hP b (List.mem_cons_of_mem a hb)) (h.2 t ht)⟩

/-- Guarded runs can be tested. -/
instance Guarded.decidable [inst : ∀ s a, Decidable (G s a)] (step : σ → α → Option σ) :
    ∀ (as : List α) (s : σ), Decidable (Guarded step G s as)
  | [], _ => isTrue trivial
  | a :: as, s =>
    match h : step s a with
    | some t =>
      have := Guarded.decidable step as t
      decidable_of_iff (G s a ∧ Guarded step G t as)
        ⟨fun hG => guarded_cons hG.1 h hG.2, fun hG => ⟨hG.1, hG.2 t h⟩⟩
    | none =>
      decidable_of_iff (G s a)
        ⟨fun hG => ⟨hG, fun u hu => by cases h.symm.trans hu⟩, fun hG => hG.1⟩

theorem guarded_of_forall (hG : ∀ s a, G s a) : Guarded step G s as := by
  induction as generalizing s with
  | nil => trivial
  | cons a as ih => exact ⟨hG s a, fun t _ => ih⟩

/-- A run is guarded by what all its labels satisfy. -/
theorem guarded_of_labels {P : α → Prop} (hP : ∀ a ∈ as, P a) :
    Guarded step (fun _ a => P a) s as :=
  ((guarded_of_forall (G := fun _ _ => True) fun _ _ => trivial).and_mem hP).mono fun _ _ h => h.1

/-- **Invariant rule.** What every accepted step preserves holds after every guarded run. -/
theorem inv_of_guarded {I : σ → Prop}
    (hstep : ∀ s a t, I s → G s a → step s a = some t → I t)
    (hs : I s) (hG : Guarded step G s as) (h : exec step s as = some t) : I t := by
  induction as generalizing s with
  | nil =>
    rw [exec_nil, Option.some.injEq] at h
    exact h ▸ hs
  | cons a as ih =>
    obtain ⟨u, hu, h⟩ := exec_cons_eq_some.1 h
    exact ih (hstep s a u hs hG.1 hu) (hG.2 u hu) h

/-- What each step decides by its guard, a run decides by the guards of all its steps. -/
theorem iff_guarded {I P : σ → Prop} (hinv : ∀ s a t, I s → step s a = some t → I t)
    (hstep : ∀ s a t, I s → step s a = some t → (P t ↔ P s ∧ G s a)) (hs : I s)
    (h : exec step s as = some t) : P t ↔ P s ∧ Guarded step G s as := by
  induction as generalizing s with
  | nil =>
    obtain rfl := Option.some.inj h
    exact (and_iff_left trivial).symm
  | cons a as ih =>
    obtain ⟨u, hu, h⟩ := exec_cons_eq_some.1 h
    have hrest : Guarded step G u as ↔ ∀ v, step s a = some v → Guarded step G v as := by
      rw [hu]
      exact ⟨fun hG v hv => Option.some.inj hv ▸ hG, fun hall => hall u rfl⟩
    calc P t
      _ ↔ P u ∧ Guarded step G u as := ih (hinv s a u hs hu) h
      _ ↔ (P s ∧ G s a) ∧ Guarded step G u as := by rw [hstep s a u hs hu]
      _ ↔ P s ∧ G s a ∧ Guarded step G u as := and_assoc
      _ ↔ P s ∧ Guarded step G s (a :: as) := by rw [hrest]; rfl

/-- The invariant rule with the labels taken so far. -/
theorem trace_inv_of_guarded {I : List α → σ → Prop}
    (hstep : ∀ as s a t, I as s → G s a → step s a = some t → I (as ++ [a]) t)
    (hs : I [] s) (hG : Guarded step G s as) (h : exec step s as = some t) : I as t := by
  suffices ∀ bs s, I bs s → Guarded step G s as → exec step s as = some t → I (bs ++ as) t from
    this [] s hs hG h
  clear hs hG h
  induction as with
  | nil =>
    intro bs s hs _ h
    rw [exec_nil, Option.some.injEq] at h
    rw [List.append_nil]
    exact h ▸ hs
  | cons a as ih =>
    intro bs s hs hG h
    obtain ⟨u, hu, h⟩ := exec_cons_eq_some.1 h
    rw [List.append_cons]
    exact ih (bs ++ [a]) u (hstep bs s a u hs hG.1 hu) (hG.2 u hu) h

/-- The invariant rule for runs without a guard. -/
theorem inv_of_exec {I : σ → Prop} (hstep : ∀ s a t, I s → step s a = some t → I t)
    (hs : I s) (h : exec step s as = some t) : I t :=
  inv_of_guarded (G := fun _ _ => True) (fun s a t hI _ => hstep s a t hI) hs
    (guarded_of_forall fun _ _ => trivial) h

/-! ## The steps of a run -/

variable {Q : σ → α → σ → Prop} {H : σ → α → Prop} {I : σ → Prop}

/-- Every step of the run, from a state by a label to the next state, is as `Q` says. -/
def Every (step : σ → α → Option σ) (Q : σ → α → σ → Prop) (s : σ) (as : List α) : Prop :=
  ∀ bs a cs t u, as = bs ++ a :: cs → exec step s bs = some t → step t a = some u → Q t a u

theorem every_nil : Every step Q s [] := by
  intro bs a cs t u h
  exact absurd h (List.append_ne_nil_of_right_ne_nil bs (List.cons_ne_nil a cs)).symm

theorem every_cons (h : step s a = some t) :
    Every step Q s (a :: as) ↔ Q s a t ∧ Every step Q t as := by
  constructor
  · intro hall
    refine ⟨hall [] a as s t rfl rfl h, fun bs b cs u v has hu hv => ?_⟩
    exact hall (a :: bs) b cs u v (by rw [has]; rfl) (by rw [exec_cons_of_step h]; exact hu) hv
  · rintro ⟨hfirst, hrest⟩ bs b cs u v has hu hv
    cases bs with
    | nil =>
      obtain ⟨rfl, rfl⟩ := List.cons.inj has
      obtain rfl := Option.some.inj hu
      obtain rfl := Option.some.inj (h.symm.trans hv)
      exact hfirst
    | cons c bs =>
      obtain ⟨rfl, rfl⟩ := List.cons.inj has
      rw [exec_cons_of_step h] at hu
      exact hrest bs b cs u v rfl hu hv

/-- **Step rule.** When the guard of a step decides how the step is, the guards of a run decide how
all its steps are; the invariant need only survive the steps that are accepted. -/
theorem every_iff_guarded
    (hnext : ∀ s a t, I s → H s a → G s a → step s a = some t → I t)
    (hstep : ∀ s a t, I s → H s a → step s a = some t → (Q s a t ↔ G s a))
    (hs : I s) (hH : Guarded step H s as) (h : exec step s as = some u) :
    Every step Q s as ↔ Guarded step G s as := by
  induction as generalizing s with
  | nil => exact iff_of_true every_nil trivial
  | cons a as ih =>
    obtain ⟨t, ht, h⟩ := exec_cons_eq_some.1 h
    rw [every_cons ht, hstep s a t hs hH.1 ht]
    constructor
    · rintro ⟨hG, hrest⟩
      exact guarded_cons hG ht ((ih (hnext s a t hs hH.1 hG ht) (hH.2 t ht) h).1 hrest)
    · rintro ⟨hG, hrest⟩
      exact ⟨hG, (ih (hnext s a t hs hH.1 hG ht) (hH.2 t ht) h).2 (hrest t ht)⟩

/-! ## Two runs -/

section Unwinding

variable {τ ρ : Type*} {f : σ → α → σ} {v : α → α} {e : σ → τ} {o : σ → ρ} {s' : σ}

/-- **Unwinding rule.** Two runs of a total step, on labels that correspond, agree after every
number of labels, if a step that is guarded keeps the agreement and the first run is guarded. -/
theorem agree_of_guarded
    (hstep : ∀ s s' a, e s' = e s → G s a → e (f s' (v a)) = e (f s a)) (hs : e s' = e s)
    (hG : Guarded (fun s a => some (f s a)) G s as) (n : ℕ) :
    e (((as.map v).take n).foldl f s') = e ((as.take n).foldl f s) := by
  induction as generalizing s s' n with
  | nil =>
    rw [List.map_nil, List.take_nil, List.foldl_nil]
    exact hs
  | cons a as ih =>
    cases n with
    | zero => exact hs
    | succ n => exact ih (hstep s s' a hs hG.1) (hG.2 _ rfl) n

/-- The converse: observations show the guard of a step. So runs that are observed alike after
every number of labels are guarded. -/
theorem guarded_of_observed
    (hstep : ∀ s s' a, e s' = e s → G s a → e (f s' (v a)) = e (f s a))
    (hobs : ∀ s s' a, e s' = e s → o (f s' (v a)) = o (f s a) → G s a) (hs : e s' = e s)
    (h : ∀ n, o (((as.map v).take n).foldl f s') = o ((as.take n).foldl f s)) :
    Guarded (fun s a => some (f s a)) G s as := by
  induction as generalizing s s' with
  | nil => trivial
  | cons a as ih =>
    have hG : G s a := hobs s s' a hs (h 1)
    exact guarded_cons hG rfl (ih (hstep s s' a hs hG) fun n => h (n + 1))

end Unwinding

/-! ## What a run emits -/

variable {β : Type*} {emit : σ → α → List β} {l : List β}

/-- All that the steps of a run emit, in order. -/
def collect (step : σ → α → Option σ) (emit : σ → α → List β) (s : σ) : List α → List β
  | [] => []
  | a :: as => emit s a ++ (step s a).elim [] fun t => collect step emit t as

@[simp] theorem collect_nil : collect step emit s [] = [] := rfl

theorem collect_cons_of_step (h : step s a = some t) :
    collect step emit s (a :: as) = emit s a ++ collect step emit t as := by
  rw [collect, h, Option.elim_some]

theorem collect_singleton : collect step emit s [a] = emit s a := by
  rw [collect]
  cases step s a <;> exact List.append_nil _

/-- **History rule.** What every accepted step keeps of the state and all that was emitted so far
holds after every guarded run. -/
theorem collect_inv {I : List β → σ → Prop}
    (hstep : ∀ l s a t, I l s → G s a → step s a = some t → I (l ++ emit s a) t)
    (hs : I l s) (hG : Guarded step G s as) (h : exec step s as = some t) :
    I (l ++ collect step emit s as) t := by
  induction as generalizing s l with
  | nil =>
    obtain rfl := Option.some.inj h
    rw [collect_nil, List.append_nil]
    exact hs
  | cons a as ih =>
    obtain ⟨u, hu, h⟩ := exec_cons_eq_some.1 h
    rw [collect_cons_of_step hu, ← List.append_assoc]
    exact ih (hstep l s a u hs hG.1 hu) (hG.2 u hu) h

end Lts
