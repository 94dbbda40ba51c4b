import Mathlib.Data.List.Nodup
import SootheClient.Lib.Json

/-!
# Objects built member by member

An encoder writes the members that are present into an object; a decoder looks them up again. What
it finds is decided by the names alone, whatever the order in which the members were written.
-/

namespace Json

variable {key k : String} {m m' : Members} {v : Json} {l : List (String × Option Json)}

/-- The members that are present. -/
def Members.present (l : List (String × Option Json)) : Members :=
  l.filterMap fun kv => kv.2.map (kv.1, ·)

/-- `Map::extend`: a member of the second object replaces the one of its name. -/
def Members.extend (m m' : Members) : Members :=
  m.filter (fun kv => !m'.containsKey kv.1) ++ m'

/-- Insert a member that is present. -/
def Members.insertOpt (m : Members) (key : String) : Option Json → Members
  | some v => Members.insert m key v
  | none => m

/-- Insert the members that are present, one after another. -/
def Members.insertAll (m : Members) (l : List (String × Option Json)) : Members :=
  l.foldl (fun m kv => m.insertOpt kv.1 kv.2) m

/-- Replace the members of a name by a function of their value. -/
def Members.mapAt (m : Members) (key : String) (f : Json → Json) : Members :=
  m.map fun kv => (kv.1, if kv.1 = key then f kv.2 else kv.2)

/-- Two objects with the same members, in whatever order. -/
def Members.Same (m m' : Members) : Prop := ∀ key, m.get key = m'.get key

theorem Members.get_cons (v : Json) : Members.get ((k, v) :: m) key =
    if key = k then some v else m.get key := by
  unfold Members.get
  rw [List.lookup_cons]
  by_cases h : key = k
  · rw [if_pos h, h, beq_self_eq_true]
  · rw [if_neg h, beq_false_of_ne h]

theorem Members.get_append : Members.get (m ++ m') key = (m.get key).or (m'.get key) :=
  List.lookup_append

/-- A filter by names keeps the members of the names it keeps. -/
theorem Members.get_filter (p : String → Bool) :
    Members.get (m.filter fun kv => p kv.1) key = if p key then m.get key else none := by
  induction m with
  | nil => exact (ite_self none).symm
  | cons kv m ih =>
    obtain ⟨k, v⟩ := kv
    rw [Members.get_cons]
    by_cases hk : p k = true
    · rw [List.filter_cons_of_pos (by exact hk), Members.get_cons, ih]
      by_cases h : key = k
      · rw [if_pos h, if_pos h, h, if_pos hk]
      · rw [if_neg h, if_neg h]
    · rw [List.filter_cons_of_neg (by exact hk), ih]
      by_cases h : key = k
      · rw [h, if_neg hk, if_neg hk]
      · rw [if_neg h]

theorem Members.get_mapAt {f : Json → Json} : (m.mapAt k f).get key =
    if key = k then (m.get k).map f else m.get key := by
  unfold Members.mapAt
  induction m with
  | nil => exact (ite_self none).symm
  | cons kv m ih =>
    obtain ⟨k', v⟩ := kv
    rw [List.map_cons, Members.get_cons, ih, Members.get_cons, Members.get_cons]
    by_cases hkey : key = k'
    · rw [if_pos hkey, if_pos hkey, ← hkey]
      by_cases hk : key = k
      · rw [if_pos hk, if_pos hk, if_pos hk.symm]
        rfl
      · rw [if_neg hk, if_neg hk]
    · rw [if_neg hkey, if_neg hkey]
      by_cases hk : key = k
      · rw [if_pos hk, if_pos hk, if_neg fun h => hkey (hk.trans h)]
      · rw [if_neg hk, if_neg hk]

theorem Members.get_extend : (m.extend m').get key = (m'.get key).or (m.get key) := by
  unfold Members.extend
  rw [Members.get_append, Members.get_filter fun k => !m'.containsKey k]
  unfold Members.containsKey
  cases m'.get key with
  | none => exact Option.or_none
  | some v => rfl

theorem Members.get_of_not_mem (h : ∀ kv ∈ m, kv.1 ≠ key) : m.get key = none :=
  List.lookup_eq_none_iff.2 fun kv hkv => bne_iff_ne.2 (h kv hkv).symm

/-- A list of optional members is read by the first of a name. -/
theorem Members.lookup_join_cons (k : String) (o : Option Json) :
    (List.lookup key ((k, o) :: l)).join = if key = k then o else (l.lookup key).join := by
  rw [List.lookup_cons]
  by_cases h : key = k
  · rw [if_pos h, h, beq_self_eq_true]
    rfl
  · rw [if_neg h, beq_false_of_ne h]

theorem Members.lookup_of_not_mem (h : key ∉ l.map Prod.fst) : l.lookup key = none := by
  rw [List.lookup_eq_none_iff]
  exact fun kv hkv => bne_iff_ne.2 fun hk => h (List.mem_map.2 ⟨kv, hkv, hk.symm⟩)

/-- What is written under a name is found under it. -/
theorem Members.get_present (hl : (l.map Prod.fst).Nodup) (key : String) :
    (Members.present l).get key = (l.lookup key).join := by
  induction l with
  | nil => rfl
  | cons kv l ih =>
    obtain ⟨k, o⟩ := kv
    obtain ⟨hk, hnd⟩ := List.nodup_cons.1 hl
    rw [Members.lookup_join_cons]
    cases o with
    | none =>
      have hcons : Members.present ((k, none) :: l) = Members.present l := rfl
      rw [hcons, ih hnd]
      by_cases h : key = k
      · rw [if_pos h, h, Members.lookup_of_not_mem hk]
        rfl
      · rw [if_neg h]
    | some v =>
      have hcons : Members.present ((k, some v) :: l) = (k, v) :: Members.present l := rfl
      rw [hcons, Members.get_cons, ih hnd]

theorem Members.keys_present : ∀ kv ∈ Members.present l, kv.1 ∈ l.map Prod.fst := by
  intro kv hkv
  obtain ⟨⟨k, o⟩, hmem, ho⟩ := List.mem_filterMap.1 hkv
  obtain ⟨v, -, rfl⟩ := Option.map_eq_some_iff.1 ho
  exact List.mem_map_of_mem hmem

/-- The names outside those of the first object are the second's. -/
theorem Members.filter_extend {names : List String} (hm : ∀ kv ∈ m, kv.1 ∈ names)
    (hm' : ∀ kv ∈ m', kv.1 ∉ names) :
    (m.extend m').filter (fun kv => decide (kv.1 ∉ names)) = m' := by
  unfold Members.extend
  have hleft : (m.filter fun kv => !m'.containsKey kv.1).filter
      (fun kv => decide (kv.1 ∉ names)) = [] := by
    refine List.filter_eq_nil_iff.2 fun kv hkv => ?_
    rw [decide_eq_true_eq, not_not]
    exact hm kv (List.mem_of_mem_filter hkv)
  rw [List.filter_append, hleft, List.nil_append]
  exact List.filter_eq_self.2 fun kv hkv => decide_eq_true (hm' kv hkv)

theorem Members.get_insert : (Members.insert m k v).get key =
    if key = k then some v else m.get key := by
  by_cases h : key = k
  · rw [if_pos h, h, Members.get_insert_self]
  · rw [if_neg h, Members.get_insert_of_ne h]

/-- Members inserted under different names are found under them. -/
theorem Members.get_insertAll (hl : (l.map Prod.fst).Nodup) :
    (m.insertAll l).get key = ((l.lookup key).join).or (m.get key) := by
  induction l generalizing m with
  | nil => rfl
  | cons kv l ih =>
    obtain ⟨k, o⟩ := kv
    obtain ⟨hk, hnd⟩ := List.nodup_cons.1 hl
    have hcons : m.insertAll ((k, o) :: l) = (m.insertOpt k o).insertAll l := rfl
    rw [hcons, ih hnd, Members.lookup_join_cons]
    by_cases h : key = k
    · rw [if_pos h, h, Members.lookup_of_not_mem hk]
      cases o with
      | none => rfl
      | some v => exact Members.get_insert_self
    · rw [if_neg h]
      cases o with
      | none => rfl
      | some v =>
        have : (m.insertOpt k (some v)).get key = m.get key := Members.get_insert_of_ne h
        rw [this]

/-- Members inserted into an empty object. -/
theorem Members.get_insertAll_nil (hl : (l.map Prod.fst).Nodup) (key : String) :
    (Members.insertAll [] l).get key = (l.lookup key).join :=
  (Members.get_insertAll hl).trans Option.or_none

theorem Members.nodup_insert (h : (m.map Prod.fst).Nodup) :
    ((Members.insert m k v).map Prod.fst).Nodup := by
  refine List.nodup_cons.2 ⟨fun hmem => ?_, h.sublist (List.filter_sublist.map Prod.fst)⟩
  obtain ⟨kv, hkv, hk⟩ := List.mem_map.1 hmem
  exact absurd hk (bne_iff_ne.1 (List.mem_filter.1 hkv).2)

/-- Inserting keeps the names apart. -/
theorem Members.nodup_insertAll (h : (m.map Prod.fst).Nodup) :
    ((m.insertAll l).map Prod.fst).Nodup := by
  induction l generalizing m with
  | nil => exact h
  | cons kv l ih =>
    obtain ⟨k, o⟩ := kv
    cases o with
    | none => exact ih h
    | some v => exact ih (Members.nodup_insert h)

/-- An object inserted member by member into another. -/
theorem Members.get_foldl_insert (h : (m'.map Prod.fst).Nodup) :
    Members.get (m'.foldl (fun p kv => Members.insert p kv.1 kv.2) m) key =
      (m'.get key).or (m.get key) := by
  induction m' generalizing m with
  | nil => rfl
  | cons kv m' ih =>
    obtain ⟨k, v⟩ := kv
    obtain ⟨hk, hnd⟩ := List.nodup_cons.1 h
    rw [List.foldl_cons, ih hnd, Members.get_insert, Members.get_cons]
    by_cases hkey : key = k
    · have hnone : Members.get m' key = none :=
        Members.get_of_not_mem fun kv hkv hc => hk (List.mem_map.2 ⟨kv, hkv, hc.trans hkey⟩)
      rw [if_pos hkey, if_pos hkey, hnone]
      rfl
    · rw [if_neg hkey, if_neg hkey]

end Json
