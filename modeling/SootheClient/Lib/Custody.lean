import Mathlib.Data.List.Nodup
import Mathlib.Data.Set.Insert
import Mathlib.Logic.Function.Basic
import Mathlib.Tactic.Common

/-!
# Custody of tokens

A token is issued once. A place holds one token at most; a token is moved from place to place,
dropped, or spent. When the books are sound a token is in one place and is spent at most once.
-/

namespace Custody

open Function (update update_self update_of_ne)

/-- What each place holds, the tokens that were issued, and the spent ones in order. -/
structure Books (P T : Type*) where
  held : P → Option T
  issued : Set T
  spent : List T

/-- A token is in one place or spent, not both and not twice. -/
structure Sound {P T : Type*} (b : Books P T) : Prop where
  old : ∀ p n, b.held p = some n → n ∈ b.issued
  unique : ∀ p q n, b.held p = some n → b.held q = some n → p = q
  unspent : ∀ p n, b.held p = some n → n ∉ b.spent
  past : ∀ n ∈ b.spent, n ∈ b.issued
  nodup : b.spent.Nodup

variable {P T : Type*} {b : Books P T} {p : P} {n : T}

theorem sound_empty : Sound (⟨fun _ => none, ∅, []⟩ : Books P T) where
  old _ _ h := (nomatch h)
  unique _ _ _ h := (nomatch h)
  unspent _ _ h := (nomatch h)
  past _ h := absurd h List.not_mem_nil
  nodup := List.nodup_nil

/-- Places may give up their tokens. -/
theorem Sound.keep {held : P → Option T} (h : Sound b)
    (hsub : ∀ p n, held p = some n → b.held p = some n) : Sound { b with held := held } where
  old p n hp := h.old p n (hsub p n hp)
  unique p q n hp hq := h.unique p q n (hsub p n hp) (hsub q n hq)
  unspent p n hp := h.unspent p n (hsub p n hp)
  past := h.past
  nodup := h.nodup

/-- The same books, but that more tokens may count as issued. -/
theorem Sound.grow {b' : Books P T} (h : Sound b) (hheld : b'.held = b.held)
    (hspent : b'.spent = b.spent) (hissued : b.issued ⊆ b'.issued) : Sound b' where
  old p n hp := hissued (h.old p n (hheld ▸ hp))
  unique p q n hp hq := h.unique p q n (hheld ▸ hp) (hheld ▸ hq)
  unspent p n hp := by
    rw [hspent]
    exact h.unspent p n (hheld ▸ hp)
  past n hn := hissued (h.past n (hspent ▸ hn))
  nodup := by
    rw [hspent]
    exact h.nodup

variable [DecidableEq P]

theorem held_drop {r : P} (hr : update b.held p none r = some n) : b.held r = some n := by
  by_cases hrp : r = p
  · rw [hrp, update_self] at hr
    cases hr
  · rwa [update_of_ne hrp] at hr

/-- The token of a place is dropped. -/
theorem Sound.drop (h : Sound b) (p : P) : Sound { b with held := update b.held p none } :=
  h.keep fun _ _ => held_drop

/-- A new token replaces that of a place. -/
theorem Sound.issue (h : Sound b) (p : P) (hn : n ∉ b.issued) : Sound
    { held := update b.held p (some n), issued := insert n b.issued, spent := b.spent } := by
  have hcases : ∀ q m, update b.held p (some n) q = some m →
      (q = p ∧ m = n) ∨ (q ≠ p ∧ b.held q = some m) := by
    intro q m hq
    by_cases hqp : q = p
    · rw [hqp, update_self] at hq
      exact Or.inl ⟨hqp, (Option.some.inj hq).symm⟩
    · rw [update_of_ne hqp] at hq
      exact Or.inr ⟨hqp, hq⟩
  refine ⟨?_, ?_, ?_, ?_, h.nodup⟩
  · intro q m hq
    rcases hcases q m hq with ⟨-, rfl⟩ | ⟨-, hq⟩
    · exact Set.mem_insert m b.issued
    · exact Set.mem_insert_of_mem n (h.old q m hq)
  · intro q r m hq hr
    rcases hcases q m hq with ⟨hqp, hm⟩ | ⟨-, hold⟩
    · rcases hcases r m hr with ⟨hrp, -⟩ | ⟨-, hold⟩
      · rw [hqp, hrp]
      · exact absurd (h.old r m hold) (hm ▸ hn)
    · rcases hcases r m hr with ⟨-, hm⟩ | ⟨-, hold'⟩
      · exact absurd (h.old q m hold) (hm ▸ hn)
      · exact h.unique q r m hold hold'
  · intro q m hq
    rcases hcases q m hq with ⟨-, hm⟩ | ⟨-, hold⟩
    · exact fun hin => absurd (h.past m hin) (hm ▸ hn)
    · exact h.unspent q m hold
  · intro m hm
    exact Set.mem_insert_of_mem n (h.past m hm)

/-- A place hands its token over to another one. -/
theorem Sound.move (h : Sound b) (p q : P) :
    Sound { b with held := update (update b.held p none) q (b.held p) } := by
  have hcases : ∀ r n, update (update b.held p none) q (b.held p) r = some n →
      (r = q ∧ b.held p = some n) ∨ (r ≠ q ∧ r ≠ p ∧ b.held r = some n) := by
    intro r n hr
    by_cases hrq : r = q
    · rw [hrq, update_self] at hr
      exact Or.inl ⟨hrq, hr⟩
    · rw [update_of_ne hrq] at hr
      refine Or.inr ⟨hrq, ?_, held_drop hr⟩
      rintro rfl
      rw [update_self] at hr
      cases hr
  refine ⟨?_, ?_, ?_, h.past, h.nodup⟩
  · intro r n hr
    rcases hcases r n hr with ⟨-, hr⟩ | ⟨-, -, hr⟩
    · exact h.old p n hr
    · exact h.old r n hr
  · intro r r' n hr hr'
    rcases hcases r n hr with ⟨hrq, hold⟩ | ⟨-, hne, hold⟩
    · rcases hcases r' n hr' with ⟨hrq', -⟩ | ⟨-, hne, hold'⟩
      · rw [hrq, hrq']
      · exact absurd (h.unique r' p n hold' hold) hne
    · rcases hcases r' n hr' with ⟨-, hold'⟩ | ⟨-, -, hold'⟩
      · exact absurd (h.unique r p n hold hold') hne
      · exact h.unique r r' n hold hold'
  · intro r n hr
    rcases hcases r n hr with ⟨-, hr⟩ | ⟨-, -, hr⟩
    · exact h.unspent p n hr
    · exact h.unspent r n hr

/-- A place spends its token. -/
theorem Sound.spend (h : Sound b) (hp : b.held p = some n) :
    Sound { b with held := update b.held p none, spent := b.spent ++ [n] } := by
  refine ⟨fun r m hr => h.old r m (held_drop hr), fun r r' m hr hr' =>
    h.unique r r' m (held_drop hr) (held_drop hr'), ?_, ?_, ?_⟩
  · intro r m hr hin
    rcases List.mem_append.1 hin with hold | hnew
    · exact h.unspent r m (held_drop hr) hold
    · obtain rfl := List.mem_singleton.1 hnew
      obtain rfl := h.unique r p m (held_drop hr) hp
      have hself : update b.held r none r = some m := hr
      rw [update_self] at hself
      cases hself
  · intro m hm
    rcases List.mem_append.1 hm with hold | hnew
    · exact h.past m hold
    · obtain rfl := List.mem_singleton.1 hnew
      exact h.old p m hp
  · exact List.nodup_append.2 ⟨h.nodup, List.nodup_singleton n, fun m hm k hk hmk =>
      h.unspent p n hp (by rw [← List.mem_singleton.1 hk, ← hmk]; exact hm)⟩

end Custody
