import SootheClient.Lib.Text

/-!
# Lines

The lines of a string, and what they hold: the lines that are not blank, trimmed. White space
around the string does not change what its lines hold.
-/

namespace Text

/-- A line without the carriage return before its newline. -/
def dropCr (line : List Char) : List Char :=
  if line.getLast? = some '\r' then line.dropLast else line

/-- The lines of the pieces between newlines; an empty last piece is no line. -/
def linesOf : List (List Char) → List (List Char)
  | [] => []
  | [last] => if last = [] then [] else [last]
  | line :: next :: rest => dropCr line :: linesOf (next :: rest)

/-- `str::lines`. -/
def lines (s : String) : List String := (linesOf (s.toList.splitOn '\n')).map String.ofList

/-- What the pieces hold. -/
def heldBy (pieces : List (List Char)) : List String :=
  pieces.filterMap fun piece => nonBlank (String.ofList piece)

/-- What the lines of a string hold. -/
def held (s : String) : List String := heldBy (s.toList.splitOn '\n')

variable {c : Char} {l l' : List Char} {pieces pieces' : List (List Char)} {s : String}

/-! ## Blanks at the ends of a piece -/

theorem nonBlank_congr (h : trimChars l = trimChars l') :
    nonBlank (String.ofList l) = nonBlank (String.ofList l') := by
  unfold nonBlank trim
  rw [String.toList_ofList, String.toList_ofList, h]

theorem nonBlank_nil : nonBlank (String.ofList []) = none := rfl

theorem trimChars_cons (h : isWhitespace c = true) : trimChars (c :: l) = trimChars l := by
  unfold trimChars
  rw [List.dropWhile_cons_of_pos h]

theorem trimChars_concat (h : isWhitespace c = true) : trimChars (l ++ [c]) = trimChars l := by
  unfold trimChars
  rw [List.dropWhile_append]
  split_ifs with hl
  · rw [List.isEmpty_iff.1 hl, List.dropWhile_cons_of_pos h]
    rfl
  · exact List.rdropWhile_concat_pos _ _ _ h

theorem trimChars_dropCr : trimChars (dropCr l) = trimChars l := by
  unfold dropCr
  split_ifs with h
  · obtain ⟨ys, rfl⟩ := List.getLast?_eq_some_iff.1 h
    rw [List.dropLast_concat, trimChars_concat (by decide)]
  · rfl

/-- To trim and drop the blanks is to take what is not blank. -/
theorem filter_map_trim (ss : List String) :
    (ss.map trim).filter (· ≠ "") = ss.filterMap nonBlank := by
  induction ss with
  | nil => rfl
  | cons s ss ih =>
    by_cases hs : trim s = ""
    · rw [List.map_cons, List.filter_cons_of_neg (by simp [hs]), ih, List.filterMap_cons_none]
      exact if_pos hs
    · rw [List.map_cons, List.filter_cons_of_pos (by simp [hs]), ih]
      have hnb : nonBlank s = some (trim s) := if_neg hs
      rw [List.filterMap_cons_some hnb]

theorem contains_newline {s : String} : contains s "\n" = true ↔ '\n' ∈ s.toList := by
  unfold contains
  show containsChars ['\n'] s.toList = true ↔ _
  induction s.toList with
  | nil => exact iff_of_false Bool.false_ne_true List.not_mem_nil
  | cons c l ih =>
    unfold containsChars
    rw [Bool.or_eq_true, ih, List.mem_cons]
    simp [List.isPrefixOf]

/-! ## What pieces hold -/

theorem heldBy_cons :
    heldBy (l :: pieces) = (nonBlank (String.ofList l)).toList ++ heldBy pieces := by
  unfold heldBy
  rw [List.filterMap_cons]
  cases nonBlank (String.ofList l) <;> rfl

theorem heldBy_append : heldBy (pieces ++ pieces') = heldBy pieces ++ heldBy pieces' :=
  List.filterMap_append

theorem heldBy_linesOf : heldBy (linesOf pieces) = heldBy pieces := by
  induction pieces with
  | nil => rfl
  | cons line rest ih =>
    cases rest with
    | nil =>
      unfold linesOf
      split_ifs with h
      · rw [h]
        rfl
      · rfl
    | cons next rest =>
      unfold linesOf
      rw [heldBy_cons, ih, nonBlank_congr trimChars_dropCr]
      exact heldBy_cons.symm

/-- What the lines hold does not depend on the carriage returns. -/
theorem filterMap_lines : (lines s).filterMap nonBlank = held s := by
  unfold lines held
  rw [List.filterMap_map, ← heldBy_linesOf, Function.comp_def]
  rfl

/-! ## White space around the text -/

theorem held_cons (h : isWhitespace c = true) :
    heldBy ((c :: l).splitOn '\n') = heldBy (l.splitOn '\n') := by
  rw [List.splitOn_cons_eq_if_modifyHead]
  split_ifs with hc
  · rw [heldBy_cons, nonBlank_nil]
    rfl
  · obtain ⟨piece, rest, hsplit⟩ := List.exists_cons_of_ne_nil (List.splitOn_ne_nil '\n' l)
    rw [hsplit, List.modifyHead_cons, heldBy_cons, heldBy_cons, nonBlank_congr (trimChars_cons h)]

/-- The last piece of a text, and what becomes of it when the text goes on. -/
theorem splitOn_last (l : List Char) : ∃ init last, l.splitOn '\n' = init ++ [last] ∧
    ∀ more, '\n' ∉ more → (l ++ more).splitOn '\n' = init ++ [last ++ more] := by
  induction l with
  | nil =>
    refine ⟨[], [], List.splitOn_nil '\n', fun more hmore => ?_⟩
    rw [List.nil_append, List.splitOn_eq_splitOnP]
    exact List.splitOnP_eq_singleton fun x hx => beq_false_of_ne (ne_of_mem_of_not_mem hx hmore)
  | cons c l ih =>
    obtain ⟨init, last, hl, hmore⟩ := ih
    by_cases hc : (c == '\n') = true
    · refine ⟨[] :: init, last, ?_, fun more hm => ?_⟩
      · rw [List.splitOn_cons_eq_if_modifyHead, if_pos hc, hl]
        rfl
      · rw [List.cons_append, List.splitOn_cons_eq_if_modifyHead, if_pos hc, hmore more hm]
        rfl
    · cases init with
      | nil =>
        refine ⟨[], c :: last, ?_, fun more hm => ?_⟩
        · rw [List.splitOn_cons_eq_if_modifyHead, if_neg hc, hl]
          rfl
        · rw [List.cons_append, List.splitOn_cons_eq_if_modifyHead, if_neg hc, hmore more hm]
          rfl
      | cons piece init =>
        refine ⟨(c :: piece) :: init, last, ?_, fun more hm => ?_⟩
        · rw [List.splitOn_cons_eq_if_modifyHead, if_neg hc, hl]
          rfl
        · rw [List.cons_append, List.splitOn_cons_eq_if_modifyHead, if_neg hc, hmore more hm]
          rfl

theorem held_concat (h : isWhitespace c = true) :
    heldBy ((l ++ [c]).splitOn '\n') = heldBy (l.splitOn '\n') := by
  by_cases hc : c = '\n'
  · have hsplit : (l ++ [c]).splitOn '\n' = l.splitOn '\n' ++ [[]] := by
      rw [hc, List.splitOn_eq_splitOnP, List.splitOn_eq_splitOnP]
      exact List.splitOnP_append_cons l [] (beq_self_eq_true '\n')
    rw [hsplit, heldBy_append, heldBy_cons, nonBlank_nil]
    exact List.append_nil _
  · obtain ⟨init, last, hl, hmore⟩ := splitOn_last l
    have hnew : '\n' ∉ [c] := fun hin => hc (List.mem_singleton.1 hin).symm
    rw [hmore [c] hnew, hl, heldBy_append, heldBy_append, heldBy_cons, heldBy_cons,
      nonBlank_congr (trimChars_concat h)]

theorem held_dropWhile (l : List Char) :
    heldBy ((l.dropWhile isWhitespace).splitOn '\n') = heldBy (l.splitOn '\n') := by
  induction l with
  | nil => rfl
  | cons c l ih =>
    by_cases hc : isWhitespace c = true
    · rw [List.dropWhile_cons_of_pos hc, ih, held_cons hc]
    · rw [List.dropWhile_cons_of_neg hc]

theorem held_rdropWhile (l : List Char) :
    heldBy ((l.rdropWhile isWhitespace).splitOn '\n') = heldBy (l.splitOn '\n') := by
  induction l using List.reverseRecOn with
  | nil => rfl
  | append_singleton l c ih =>
    by_cases hc : isWhitespace c = true
    · rw [List.rdropWhile_concat_pos _ _ _ hc, ih, held_concat hc]
    · rw [List.rdropWhile_concat_neg _ _ _ hc]

/-- White space around a text does not change what its lines hold. -/
theorem held_trim : held (trim s) = held s := by
  unfold held trim trimChars
  rw [String.toList_ofList, held_rdropWhile, held_dropWhile]

/-- A text on one line holds itself, unless it is blank. -/
theorem held_of_line (h : '\n' ∉ s.toList) : held s = (nonBlank s).toList := by
  have hsplit : s.toList.splitOn '\n' = [s.toList] := by
    rw [List.splitOn_eq_splitOnP]
    exact List.splitOnP_eq_singleton fun x hx => beq_false_of_ne (ne_of_mem_of_not_mem hx h)
  unfold held
  rw [hsplit, heldBy_cons, String.ofList_toList]
  exact List.append_nil _

/-- A character that is not white space is held by its line. -/
theorem held_of_mem (hc : isWhitespace c = false) (hin : c ∈ l) :
    heldBy (l.splitOn '\n') ≠ [] := by
  induction l with
  | nil => cases hin
  | cons x l ih =>
    by_cases hx : isWhitespace x = true
    · rw [held_cons hx]
      rcases List.mem_cons.1 hin with rfl | hin
      · rw [hx] at hc
        cases hc
      · exact ih hin
    · have hne : ¬ (x == '\n') = true := by
        intro hnl
        rw [beq_iff_eq.1 hnl] at hx
        exact hx (by decide)
      obtain ⟨piece, rest, hsplit⟩ := List.exists_cons_of_ne_nil (List.splitOn_ne_nil '\n' l)
      have hfull : trim (String.ofList (x :: piece)) ≠ "" := by
        intro hblank
        refine hx (trim_eq_empty_iff.1 hblank x ?_)
        rw [String.toList_ofList]
        exact List.mem_cons_self
      rw [List.splitOn_cons_eq_if_modifyHead, if_neg hne, hsplit, List.modifyHead_cons, heldBy_cons]
      unfold nonBlank
      rw [if_neg hfull]
      exact List.cons_ne_nil _ _

/-- A text that is not blank holds something. -/
theorem held_ne_nil (h : trim s ≠ "") : held s ≠ [] := by
  rw [ne_eq, trim_eq_empty_iff] at h
  push Not at h
  obtain ⟨c, hin, hc⟩ := h
  exact held_of_mem (eq_false_of_ne_true hc) hin

/-- A text joined from lines holds what is not blank of them. -/
theorem held_of_joined {lines : List String} (hne : lines ≠ [])
    (hlines : ∀ line ∈ lines, '\n' ∉ line.toList)
    (hs : s.toList = ['\n'].intercalate (lines.map String.toList)) :
    held s = lines.filterMap nonBlank := by
  have hsplit : s.toList.splitOn '\n' = lines.map String.toList := by
    rw [hs]
    refine List.splitOn_intercalate '\n' ?_ (List.map_eq_nil_iff.not.2 hne)
    intro l hl
    obtain ⟨line, hline, rfl⟩ := List.mem_map.1 hl
    exact hlines line hline
  unfold held heldBy
  rw [hsplit, List.filterMap_map]
  refine List.filterMap_congr fun line _ => ?_
  rw [Function.comp_apply, String.ofList_toList]

end Text
