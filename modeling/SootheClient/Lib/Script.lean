import Mathlib.Data.List.Basic

/-!
# Scripts of calls

A script is a program that makes calls and goes on with their answers. `handle` says what a call
answers and what it makes of the world, given a reply of the environment; a run takes a reply for
every call. `Triple` states what a run establishes, whatever the replies are, and is proved call by
call.
-/

/-- A program over calls `C`, where `C β` are the calls that answer with a `β`. -/
inductive Script (C : Type → Type) (α : Type) : Type 1 where
  | done (a : α)
  | call {β : Type} (c : C β) (k : β → Script C α)

namespace Script

variable {C : Type → Type} {α β ε R σ : Type}

/-- Make one call. -/
def ask (c : C β) : Script C β := .call c .done

def bind : Script C α → (α → Script C β) → Script C β
  | .done a, f => f a
  | .call c k, f => .call c fun b => (k b).bind f

/-- Go on with the value of a script, or return its error. -/
def andThen (s : Script C (Except ε α)) (f : α → Script C (Except ε β)) :
    Script C (Except ε β) :=
  s.bind fun
    | .ok a => f a
    | .error e => .done (.error e)

/-- At most `n` calls of a script: what is left after them is dropped. -/
def within : Script C α → Nat → Script C (Option α)
  | .done a, _ => .done (some a)
  | .call _ _, 0 => .done none
  | .call c k, n + 1 => .call c fun b => (k b).within n

/-- What comes of a script: its result, the replies that are left and the world. -/
def run (handle : ∀ {β : Type}, C β → R → σ → β × σ) :
    Script C α → List R → σ → Option (α × List R × σ)
  | .done a, rs, w => some (a, rs, w)
  | .call _ _, [], _ => none
  | .call c k, r :: rs, w => (k (handle c r w).1).run handle rs (handle c r w).2

variable {handle : ∀ {β : Type}, C β → R → σ → β × σ} {s : Script C α} {f : α → Script C β}
  {c : C β} {k : β → Script C α} {rs rs' : List R} {w w' : σ} {a : α}

theorem run_bind : (s.bind f).run handle rs w =
    (s.run handle rs w).bind fun x => (f x.1).run handle x.2.1 x.2.2 := by
  induction s generalizing rs w with
  | done a => rfl
  | call c k ih =>
    cases rs with
    | nil => rfl
    | cons r rs => exact ih (handle c r w).1

/-- A run of two scripts is a run of the first and one of the second after it. -/
theorem run_bind_inv {b : β} (h : (s.bind f).run handle rs w = some (b, rs', w')) :
    ∃ a rs₁ w₁, s.run handle rs w = some (a, rs₁, w₁) ∧
      (f a).run handle rs₁ w₁ = some (b, rs', w') := by
  rw [run_bind] at h
  obtain ⟨⟨a, rs₁, w₁⟩, hs, hrest⟩ := Option.bind_eq_some_iff.1 h
  exact ⟨a, rs₁, w₁, hs, hrest⟩

/-- A script runs as it does when its value is used. -/
theorem run_map {g : α → β} {b : β}
    (h : (s.bind fun a => .done (g a)).run handle rs w = some (b, rs', w')) :
    ∃ a, s.run handle rs w = some (a, rs', w') := by
  obtain ⟨a, rs₁, w₁, hs, hdone⟩ := run_bind_inv h
  obtain ⟨-, rfl, rfl⟩ := by simpa only [run, Option.some.injEq, Prod.mk.injEq] using hdone
  exact ⟨a, hs⟩

/-- A script of one call. -/
theorem run_once (hk : ∀ b, ∃ a, k b = .done a)
    (h : (Script.call c k).run handle rs w = some (a, rs', w')) :
    ∃ r, rs = r :: rs' ∧ w' = (handle c r w).2 := by
  cases rs with
  | nil => cases h
  | cons r rs =>
    obtain ⟨a', ha⟩ := hk (handle c r w).1
    have hrun : (k (handle c r w).1).run handle rs (handle c r w).2 = some (a, rs', w') := h
    rw [ha] at hrun
    obtain ⟨-, rfl, rfl⟩ := by simpa only [run, Option.some.injEq, Prod.mk.injEq] using hrun
    exact ⟨r, rfl, rfl⟩

/-- A script runs as it is within `n` calls, or it is cut after them. -/
theorem run_within {o : Option α} {n : ℕ}
    (h : (s.within n).run handle rs w = some (o, rs', w')) :
    (∃ a, o = some a ∧ s.run handle rs w = some (a, rs', w')) ∨
      o = none ∧ ∃ used, rs = used ++ rs' ∧ used.length = n := by
  induction s generalizing rs w n with
  | done a =>
    obtain ⟨rfl, rfl, rfl⟩ := by simpa only [within, run, Option.some.injEq, Prod.mk.injEq] using h
    exact Or.inl ⟨a, rfl, rfl⟩
  | call c k ih =>
    cases n with
    | zero =>
      obtain ⟨rfl, rfl, rfl⟩ := by
        simpa only [within, run, Option.some.injEq, Prod.mk.injEq] using h
      exact Or.inr ⟨rfl, [], rfl, rfl⟩
    | succ n =>
      cases rs with
      | nil => cases h
      | cons r rs =>
        obtain hrun | ⟨hnone, used, rfl, hlen⟩ := ih (handle c r w).1 h
        · exact Or.inl hrun
        · exact Or.inr ⟨hnone, r :: used, rfl, congrArg Nat.succ hlen⟩

/-! ## Triples -/

/-- Whatever the replies are, a run of the script from a world in `P` ends with a result and a world
in `Q`. -/
def Triple (handle : ∀ {β : Type}, C β → R → σ → β × σ) (P : σ → Prop) (s : Script C α)
    (Q : α → σ → Prop) : Prop :=
  ∀ rs w a rs' w', P w → s.run handle rs w = some (a, rs', w') → Q a w'

variable {P P' : σ → Prop} {Q Q' : α → σ → Prop} {M : β → σ → Prop}

theorem triple_done (h : ∀ w, P w → Q a w) : Triple handle P (.done a) Q := by
  intro rs w b rs' w' hp hrun
  obtain ⟨rfl, rfl, rfl⟩ := by simpa only [run, Option.some.injEq, Prod.mk.injEq] using hrun
  exact h w hp

/-- **Call rule.** -/
theorem triple_call (h : ∀ r w, P w → M (handle c r w).1 (handle c r w).2)
    (hk : ∀ b, Triple handle (M b) (k b) Q) : Triple handle P (.call c k) Q := by
  intro rs w a rs' w' hp hrun
  cases rs with
  | nil => cases hrun
  | cons r rs => exact hk (handle c r w).1 rs (handle c r w).2 a rs' w' (h r w hp) hrun

/-- **Consequence rule.** -/
theorem Triple.mono (h : Triple handle P s Q) (hP : ∀ w, P' w → P w)
    (hQ : ∀ a w, Q a w → Q' a w) : Triple handle P' s Q' :=
  fun rs w a rs' w' hp hrun => hQ a w' (h rs w a rs' w' (hP w hp) hrun)

theorem triple_ask (h : ∀ r w, P w → M (handle c r w).1 (handle c r w).2) :
    Triple handle P (ask c) M :=
  triple_call h fun _ => triple_done fun _ hm => hm

/-- **Sequence rule.** -/
theorem Triple.bind {N : β → σ → Prop} (h : Triple handle P s Q)
    (hf : ∀ a, Triple handle (Q a) (f a) N) : Triple handle P (s.bind f) N := by
  intro rs w b rs' w' hp hrun
  obtain ⟨a, rs₁, w₁, hs, hrest⟩ := run_bind_inv hrun
  exact hf a rs₁ w₁ b rs' w' (h rs w a rs₁ w₁ hp hs) hrest

/-- **Error rule.** What follows a script runs after a value only. -/
theorem Triple.andThen {s : Script C (Except ε α)} {f : α → Script C (Except ε β)}
    {Q : Except ε α → σ → Prop} {N : Except ε β → σ → Prop} (h : Triple handle P s Q)
    (hok : ∀ a, Triple handle (Q (.ok a)) (f a) N)
    (herr : ∀ e w, Q (.error e) w → N (.error e) w) : Triple handle P (s.andThen f) N := by
  refine h.bind fun r => ?_
  cases r with
  | ok a => exact hok a
  | error e => exact triple_done fun w hq => herr e w hq

theorem triple_or (h : Triple handle P s Q) (h' : Triple handle P' s Q) :
    Triple handle (fun w => P w ∨ P' w) s Q := by
  intro rs w a rs' w' hp hrun
  obtain hp | hp := hp
  · exact h rs w a rs' w' hp hrun
  · exact h' rs w a rs' w' hp hrun

theorem triple_exists {ι : Type*} {P : ι → σ → Prop} (h : ∀ i, Triple handle (P i) s Q) :
    Triple handle (fun w => ∃ i, P i w) s Q := by
  intro rs w a rs' w' ⟨i, hp⟩ hrun
  exact h i rs w a rs' w' hp hrun

/-- Every call of the script keeps `I`. -/
def Preserves (handle : ∀ {β : Type}, C β → R → σ → β × σ) (I : σ → Prop) : Script C α → Prop
  | .done _ => True
  | .call c k => (∀ r w, I w → I (handle c r w).2) ∧ ∀ b, (k b).Preserves handle I

/-- **Cut rule.** What every call of a script keeps holds where the script is dropped. -/
theorem Preserves.within {I : σ → Prop} (h : s.Preserves handle I) (n : ℕ) :
    Triple handle I (s.within n) fun _ => I := by
  induction s generalizing n with
  | done a => exact triple_done fun w hw => hw
  | call c k ih =>
    cases n with
    | zero => exact triple_done fun w hw => hw
    | succ n => exact triple_call (M := fun _ => I) h.1 fun b => ih b (h.2 b) n

/-- What is required whatever the world is may be assumed. -/
theorem triple_pure {A : Prop} (h : A → Triple handle P s Q) :
    Triple handle (fun w => A ∧ P w) s Q :=
  fun rs w a rs' w' hp hrun => h hp.1 rs w a rs' w' hp.2 hrun

/-- Where no world is as required, every script will do. -/
theorem triple_of_not (h : ∀ w, ¬ P w) : Triple handle P s Q :=
  fun _ w _ _ _ hp => absurd hp (h w)

end Script
