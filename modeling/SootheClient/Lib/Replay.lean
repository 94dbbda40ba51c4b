import Mathlib.Data.List.DropRight
import Mathlib.Data.List.Nodup
import Mathlib.Logic.Function.Basic
import Mathlib.Tactic.Common

/-!
# Replaying a log of writes

A store keeps values by key and the keys in the order of their first write. Its log has four kinds
of events: a clear, a write of a value, a patch of a value that is there, and events that it skips.
What the store holds after a log is read off the log: `keys` are the keys written since the last
clear, and a value `Holds` at a key when it is the last one written there, with the patches of the
key after it laid over it.
-/

namespace Replay

variable {κ α π : Type*}

/-- An event of the log. -/
inductive Event (κ α π : Type*) where
  | clear
  | put (key : κ) (value : α)
  | patch (key : κ) (change : π)
  | skip

/-- Values by key, and the keys in the order of their first write. -/
structure Store (κ α : Type*) where
  get : κ → Option α := fun _ => none
  order : List κ := []

/-- The event is a clear. -/
def Event.isClear : Event κ α π → Bool
  | .clear => true
  | _ => false

/-- The key that the event writes. -/
def Event.putKey : Event κ α π → Option κ
  | .put key _ => some key
  | _ => none

/-- The events after the last clear. -/
def since (log : List (Event κ α π)) : List (Event κ α π) := log.rtakeWhile (!·.isClear)

variable [DecidableEq κ]

/-- The change that the event makes to the value at `key`. -/
def Event.change (key : κ) : Event κ α π → Option π
  | .patch k p => if k = key then some p else none
  | _ => none

/-- The event writes `key` anew or clears it. -/
def Event.resets (key : κ) : Event κ α π → Bool
  | .clear => true
  | .put k _ => k = key
  | _ => false

/-- The keys written since the last clear, in the order of their first write. -/
def keys (log : List (Event κ α π)) : List κ := ((since log).filterMap Event.putKey).eraseDups

variable (overlay : α → π → α)

/-- What an event does to the store. -/
def step (s : Store κ α) : Event κ α π → Store κ α
  | .clear => {}
  | .put key value =>
    { get := Function.update s.get key (some value)
      order := if (s.get key).isSome then s.order else s.order ++ [key] }
  | .patch key change =>
    { s with get := Function.update s.get key ((s.get key).map (overlay · change)) }
  | .skip => s

/-- The store after a log. -/
def run (log : List (Event κ α π)) : Store κ α := log.foldl (step overlay) {}

/-- The value is the last one written at the key, with the later changes of the key over it. -/
def Holds (log : List (Event κ α π)) (key : κ) (value : α) : Prop :=
  ∃ before base after, log = before ++ .put key base :: after ∧
    (∀ e ∈ after, e.resets key = false) ∧
    value = (after.filterMap (Event.change key)).foldl overlay base

variable {overlay} {log : List (Event κ α π)} {e : Event κ α π} {key k : κ} {value : α}
  {change : π}

theorem run_concat : run overlay (log ++ [e]) = step overlay (run overlay log) e := by
  unfold run
  rw [List.foldl_append]
  rfl

/-! ## What the log says of one key -/

theorem not_holds_nil : ¬ Holds overlay [] key value := by
  rintro ⟨before, base, after, h, -⟩
  exact List.append_ne_nil_of_right_ne_nil _ (List.cons_ne_nil _ _) h.symm

/-- A value that holds is written by the last event, or held before it and is changed by it. -/
theorem holds_concat_iff :
    Holds overlay (log ++ [e]) key value ↔ e = .put key value ∨
      (e.resets key = false ∧
        ∃ v, Holds overlay log key v ∧ value = (e.change key).elim v (overlay v)) := by
  constructor
  · rintro ⟨before, base, after, hlog, hafter, rfl⟩
    rcases List.eq_nil_or_concat after with rfl | ⟨front, last, rfl⟩
    · left
      exact (List.append_inj' hlog rfl).2 |> List.singleton_inj.1
    · right
      rw [List.concat_eq_append] at hafter ⊢
      rw [List.concat_eq_append, ← List.cons_append, ← List.append_assoc] at hlog
      obtain ⟨rfl, hlast⟩ := List.append_inj' hlog rfl
      obtain rfl := List.singleton_inj.1 hlast
      refine ⟨hafter e (List.mem_append_right _ List.mem_cons_self), _,
        ⟨before, base, front, rfl, fun e' he' => hafter e' (List.mem_append_left _ he'), rfl⟩, ?_⟩
      rw [List.filterMap_append, List.foldl_append]
      cases hc : e.change key with
      | none =>
        rw [List.filterMap_cons_none hc]
        rfl
      | some p =>
        rw [List.filterMap_cons_some hc]
        rfl
  · rintro (rfl | ⟨hreset, v, ⟨before, base, after, rfl, hafter, rfl⟩, rfl⟩)
    · exact ⟨log, value, [], rfl, List.forall_mem_nil _, rfl⟩
    · refine ⟨before, base, after ++ [e], by rw [List.append_assoc]; rfl, ?_, ?_⟩
      · intro e' he'
        rcases List.mem_append.1 he' with he' | he'
        · exact hafter e' he'
        · rwa [List.mem_singleton.1 he']
      · rw [List.filterMap_append, List.foldl_append]
        cases hc : e.change key with
        | none =>
          rw [List.filterMap_cons_none hc]
          rfl
        | some p =>
          rw [List.filterMap_cons_some hc]
          rfl

/-! ## The store after a log -/

/-- What one event does to the value at a key. -/
theorem step_get {s : Store κ α} :
    (step overlay s e).get key = some value ↔ e = .put key value ∨
      (e.resets key = false ∧
        ∃ v, s.get key = some v ∧ value = (e.change key).elim v (overlay v)) := by
  have hsame : s.get key = some value ↔ ∃ v, s.get key = some v ∧ value = v := by
    constructor
    · intro h
      exact ⟨value, h, rfl⟩
    · rintro ⟨v, hv, rfl⟩
      exact hv
  cases e with
  | clear =>
    constructor
    · intro h
      cases h
    · rintro (h | ⟨h, -⟩)
      · cases h
      · cases h
  | skip =>
    constructor
    · intro h
      exact Or.inr ⟨rfl, hsame.1 h⟩
    · rintro (h | ⟨-, h⟩)
      · cases h
      · exact hsame.2 h
  | put k v =>
    show Function.update s.get k (some v) key = some value ↔ _
    by_cases hk : k = key
    · subst hk
      rw [Function.update_self, Option.some_inj]
      constructor
      · rintro rfl
        exact Or.inl rfl
      · rintro (h | ⟨h, -⟩)
        · injection h
        · exact absurd h (by simp [Event.resets])
    · rw [Function.update_of_ne (Ne.symm hk), hsame]
      constructor
      · intro h
        exact Or.inr ⟨decide_eq_false hk, h⟩
      · rintro (h | ⟨-, h⟩)
        · injection h with h
          exact absurd h hk
        · exact h
  | patch k p =>
    show Function.update s.get k ((s.get k).map (overlay · p)) key = some value ↔ _
    by_cases hk : k = key
    · subst hk
      have hchange : (Event.patch k p : Event κ α π).change k = some p := if_pos rfl
      rw [Function.update_self, Option.map_eq_some_iff, hchange]
      constructor
      · rintro ⟨v, hv, rfl⟩
        exact Or.inr ⟨rfl, v, hv, rfl⟩
      · rintro (h | ⟨-, v, hv, rfl⟩)
        · cases h
        · exact ⟨v, hv, rfl⟩
    · have hchange : (Event.patch k p : Event κ α π).change key = none := if_neg hk
      rw [Function.update_of_ne (Ne.symm hk), hsame, hchange]
      constructor
      · intro h
        exact Or.inr ⟨rfl, h⟩
      · rintro (h | ⟨-, h⟩)
        · cases h
        · exact h

/-- **Values.** The store holds what the log says. -/
theorem run_get : (run overlay log).get key = some value ↔ Holds overlay log key value := by
  induction log using List.reverseRecOn generalizing value with
  | nil =>
    constructor
    · intro h
      cases h
    · intro h
      exact absurd h not_holds_nil
  | append_singleton log e ih =>
    rw [run_concat, step_get, holds_concat_iff]
    simp only [ih]

/-- A key is in the order exactly when it has a value, and the order has no key twice. -/
structure Store.Ordered (s : Store κ α) : Prop where
  nodup : s.order.Nodup
  mem : ∀ key, key ∈ s.order ↔ (s.get key).isSome = true

theorem ordered_step {s : Store κ α} (h : s.Ordered) : (step overlay s e).Ordered := by
  cases e with
  | clear => exact ⟨List.nodup_nil, fun key => by simp [step]⟩
  | skip => exact h
  | put k v =>
    constructor
    · show (if (s.get k).isSome then s.order else s.order ++ [k]).Nodup
      split_ifs with hk
      · exact h.nodup
      · rw [← h.mem] at hk
        exact List.nodup_append.2 ⟨h.nodup, List.nodup_singleton k, by
          rintro a ha b hb rfl
          exact hk (List.mem_singleton.1 hb ▸ ha)⟩
    · intro key
      show key ∈ (if (s.get k).isSome then s.order else s.order ++ [k]) ↔
        (Function.update s.get k (some v) key).isSome = true
      by_cases hkey : key = k
      · subst hkey
        rw [Function.update_self]
        split_ifs with hk
        · simp [h.mem, hk]
        · simp
      · rw [Function.update_of_ne hkey, ← h.mem key]
        split_ifs
        · rfl
        · simp [hkey]
  | patch k p =>
    refine ⟨h.nodup, fun key => ?_⟩
    show key ∈ s.order ↔ (Function.update s.get k ((s.get k).map (overlay · p)) key).isSome = true
    by_cases hkey : key = k
    · subst hkey
      rw [Function.update_self, Option.isSome_map, h.mem]
    · rw [Function.update_of_ne hkey, h.mem]

theorem ordered_run : (run overlay log).Ordered := by
  induction log using List.reverseRecOn with
  | nil => exact ⟨List.nodup_nil, fun key => by simp [run]⟩
  | append_singleton log e ih =>
    rw [run_concat]
    exact ordered_step ih

/-! ## The order -/

theorem keys_concat_clear : keys (log ++ [.clear]) = [] := by
  unfold keys since
  rw [List.rtakeWhile_concat_neg _ _ _ (by simp [Event.isClear])]
  rfl

theorem keys_concat_of_none (hclear : e.isClear = false) (hput : e.putKey = none) :
    keys (log ++ [e]) = keys log := by
  unfold keys since
  rw [List.rtakeWhile_concat_pos _ _ _ (by simp [hclear]), List.filterMap_append,
    List.filterMap_cons_none hput, List.filterMap_nil, List.append_nil]

theorem eraseDups_concat (l : List κ) (x : κ) :
    (l ++ [x]).eraseDups = if x ∈ l then l.eraseDups else l.eraseDups ++ [x] := by
  rw [List.eraseDups_append]
  split_ifs with hx
  · have hnone : [x].removeAll l = [] := by simp [List.removeAll, hx]
    rw [hnone]
    exact List.append_nil _
  · have hone : [x].removeAll l = [x] := by simp [List.removeAll, hx]
    rw [hone]
    rfl

theorem keys_concat_put :
    keys (log ++ [.put k value]) = if k ∈ keys log then keys log else keys log ++ [k] := by
  have hput : (Event.put k value : Event κ α π).putKey = some k := rfl
  unfold keys since
  rw [List.rtakeWhile_concat_pos _ _ _ rfl, List.filterMap_append,
    List.filterMap_cons_some hput, List.filterMap_nil, eraseDups_concat]
  simp only [List.mem_eraseDups]

/-- **Order.** The keys are in the order of their first write since the last clear. -/
theorem run_order : (run overlay log).order = keys log := by
  induction log using List.reverseRecOn with
  | nil => rfl
  | append_singleton log e ih =>
    rw [run_concat]
    cases e with
    | clear => exact keys_concat_clear.symm
    | skip | patch => exact ih.trans (keys_concat_of_none rfl rfl).symm
    | put k v =>
      rw [keys_concat_put, ← ih]
      show (if ((run overlay log).get k).isSome then _ else _) = _
      simp only [ordered_run.mem k]

/-! ## Writing a store again -/

/-- The values of the store with their keys, in order. -/
def Store.entries (s : Store κ α) : List (κ × α) :=
  s.order.filterMap fun key => (s.get key).map (key, ·)

variable {s t : Store κ α} {l : List (κ × α)}

omit [DecidableEq κ] in
theorem Store.Ordered.map_entries (h : s.Ordered) : s.entries.map Prod.fst = s.order := by
  have hmap : ∀ keys : List κ, (∀ key ∈ keys, (s.get key).isSome = true) →
      (keys.filterMap fun key => (s.get key).map (key, ·)).map Prod.fst = keys := by
    intro keys hkeys
    induction keys with
    | nil => rfl
    | cons key keys ih =>
      obtain ⟨v, hv⟩ := Option.isSome_iff_exists.1 (hkeys key List.mem_cons_self)
      rw [List.filterMap_cons_some (by rw [hv]; rfl), List.map_cons,
        ih fun k hk => hkeys k (List.mem_cons_of_mem key hk)]
  exact hmap s.order fun key hkey => (h.mem key).1 hkey

omit [DecidableEq κ] in
theorem Store.Ordered.mem_entries (h : s.Ordered) :
    (key, value) ∈ s.entries ↔ s.get key = some value := by
  unfold Store.entries
  rw [List.mem_filterMap]
  constructor
  · rintro ⟨k, -, hk⟩
    obtain ⟨v, hv, heq⟩ := Option.map_eq_some_iff.1 hk
    obtain ⟨rfl, rfl⟩ := Prod.mk.inj heq
    exact hv
  · intro hv
    refine ⟨key, (h.mem key).2 (by rw [hv]; rfl), ?_⟩
    rw [hv]
    rfl

/-- Writes of different keys, in order. -/
theorem run_puts (h : (l.map Prod.fst).Nodup) :
    (run overlay (l.map fun kv => (.put kv.1 kv.2 : Event κ α π))).order = l.map Prod.fst ∧
    ∀ key value, (run overlay (l.map fun kv => (.put kv.1 kv.2 : Event κ α π))).get key =
      some value ↔ (key, value) ∈ l := by
  induction l using List.reverseRecOn with
  | nil =>
    refine ⟨rfl, fun key value => ⟨fun hv => ?_, fun hv => ?_⟩⟩
    · cases hv
    · cases hv
  | append_singleton l kv ih =>
    obtain ⟨k, v⟩ := kv
    rw [List.map_append] at h
    obtain ⟨hl, -, hdisj⟩ := List.nodup_append.1 h
    obtain ⟨horder, hget⟩ := ih hl
    have hnew : k ∉ l.map Prod.fst := fun hk => hdisj k hk k (List.mem_singleton.2 rfl) rfl
    rw [List.map_append, List.map_append, List.map_singleton, List.map_singleton, run_concat]
    refine ⟨?_, fun key value => ?_⟩
    · have hnone : ¬ ((run overlay (l.map fun kv =>
          (.put kv.1 kv.2 : Event κ α π))).get k).isSome = true := by
        rw [← ordered_run.mem, horder]
        exact hnew
      refine (if_neg hnone).trans ?_
      rw [horder]
    · rw [step_get, List.mem_append, List.mem_singleton]
      constructor
      · rintro (hput | ⟨-, u, hu, rfl⟩)
        · obtain ⟨rfl, rfl⟩ := Event.put.inj hput
          exact Or.inr rfl
        · exact Or.inl ((hget _ _).1 hu)
      · rintro (hmem | heq)
        · refine Or.inr ⟨decide_eq_false ?_, value, (hget _ _).2 hmem, rfl⟩
          rintro rfl
          exact hnew (List.mem_map_of_mem hmem)
        · obtain ⟨rfl, rfl⟩ := Prod.mk.inj heq
          exact Or.inl rfl

omit [DecidableEq κ] in
theorem Store.eq_of (hget : ∀ key, s.get key = t.get key) (horder : s.order = t.order) : s = t := by
  obtain ⟨get, order⟩ := s
  obtain ⟨get', order'⟩ := t
  rw [Store.mk.injEq]
  exact ⟨funext hget, horder⟩

/-- **Restoring.** A clear and the values of a store, written in its order, make it again from any
store. -/
theorem foldl_entries (h : s.Ordered) :
    (.clear :: s.entries.map fun kv => (.put kv.1 kv.2 : Event κ α π)).foldl (step overlay) t =
      s := by
  have hnodup : (s.entries.map Prod.fst).Nodup := by
    rw [h.map_entries]
    exact h.nodup
  have hputs : (run overlay (s.entries.map fun kv => (.put kv.1 kv.2 : Event κ α π))).order =
      s.entries.map Prod.fst ∧ _ := run_puts hnodup
  refine Store.eq_of (fun key => Option.ext fun value => ?_) (hputs.1.trans h.map_entries)
  exact (hputs.2 key value).trans h.mem_entries

end Replay
