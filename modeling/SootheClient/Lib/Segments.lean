import Mathlib.Data.List.Basic

/-!
# Segmented names

A name made of segments with a separator between them. Names with at least one segment and their
segments tell the same, as long as no segment has the separator in it.
-/

namespace Text

/-- `str::split` with a character. -/
def segments (c : Char) (s : String) : List String := (s.toList.splitOn c).map String.ofList

/-- The segments with the separator between them. -/
def joined (c : Char) (l : List String) : String :=
  String.ofList ([c].intercalate (l.map String.toList))

/-- The separator is not in the segment. -/
def Plain (c : Char) (s : String) : Prop := c ∉ s.toList

variable {c : Char} {s : String} {l : List String}

theorem not_mem_splitOn {chars piece : List Char} (h : piece ∈ chars.splitOn c) : c ∉ piece := by
  induction chars generalizing piece with
  | nil =>
    rw [List.splitOn_nil, List.mem_singleton] at h
    rw [h]
    exact List.not_mem_nil
  | cons x chars ih =>
    rw [List.splitOn_cons_eq_if_modifyHead] at h
    split_ifs at h with hx
    · rcases List.mem_cons.1 h with rfl | h
      · exact List.not_mem_nil
      · exact ih h
    · obtain ⟨head, rest, hsplit⟩ := List.exists_cons_of_ne_nil (List.splitOn_ne_nil c chars)
      rw [hsplit, List.modifyHead_cons] at h
      rcases List.mem_cons.1 h with rfl | h
      · have hhead : c ∉ head := ih (hsplit ▸ List.mem_cons_self)
        intro hc
        rcases List.mem_cons.1 hc with rfl | hc
        · exact hx (beq_self_eq_true c)
        · exact hhead hc
      · exact ih (hsplit ▸ List.mem_cons_of_mem head h)

theorem plain_of_mem_segments {seg : String} (h : seg ∈ segments c s) : Plain c seg := by
  obtain ⟨piece, hpiece, rfl⟩ := List.mem_map.1 h
  unfold Plain
  rw [String.toList_ofList]
  exact not_mem_splitOn hpiece

/-- A name is made of its segments. -/
theorem joined_segments (c : Char) (s : String) : joined c (segments c s) = s := by
  unfold joined segments
  have hmap : ((s.toList.splitOn c).map String.ofList).map String.toList = s.toList.splitOn c := by
    rw [List.map_map, show String.toList ∘ String.ofList = id from funext fun _ =>
      String.toList_ofList, List.map_id]
  rw [hmap, List.intercalate_splitOn, String.ofList_toList]

/-- The segments that a name was made of are found again. -/
theorem segments_joined (h : ∀ seg ∈ l, Plain c seg) (hne : l ≠ []) :
    segments c (joined c l) = l := by
  unfold segments joined
  rw [String.toList_ofList, List.splitOn_intercalate c ?_ ?_, List.map_map]
  · rw [show String.ofList ∘ String.toList = id from funext fun _ => String.ofList_toList,
      List.map_id]
  · intro piece hpiece
    obtain ⟨seg, hseg, rfl⟩ := List.mem_map.1 hpiece
    exact h seg hseg
  · exact fun hnil => hne (List.map_eq_nil_iff.1 hnil)

/-- **Round trip.** -/
theorem segments_eq_iff (hne : l ≠ []) :
    segments c s = l ↔ (∀ seg ∈ l, Plain c seg) ∧ s = joined c l := by
  constructor
  · rintro rfl
    exact ⟨fun seg hseg => plain_of_mem_segments hseg, (joined_segments c s).symm⟩
  · rintro ⟨hplain, rfl⟩
    exact segments_joined hplain hne

end Text
