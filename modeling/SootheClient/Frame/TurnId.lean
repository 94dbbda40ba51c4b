import SootheClient.Lib.Decimal
import SootheClient.Lib.Json

/-!
# Turn ids

A turn id names a loop and the generation in which the daemon admitted the turn. These are the
helpers that write it, read it from a frame, parse its generation and gate the terminal frames on
it. What is written is parsed again, though the loop may have the separator in its own name.
-/

namespace SootheClient.Frame

open Text (nonBlank)

/-- The wire turn id of a loop and an admit generation. -/
def formatTurnId (loopId : String) (generation : ℤ) : String :=
  let lid := Text.trim loopId
  if lid = "" ∨ generation ≤ 0 then "" else lid ++ ":" ++ toString generation

/-- The generation of a turn id, `none` when it is malformed. -/
def parseTurnGeneration (turnId : Option String) : Option ℤ :=
  match turnId with
  | none => none
  | some turnId =>
    let raw := Text.trim turnId
    if raw = "" ∨ Text.contains raw ":" = false then none
    else
      match Text.parseI64 (Text.afterLast ':' raw) with
      | some gen => if 0 < gen then some gen else none
      | none => none

/-- The turn id of a status or event frame, or of its nested data. -/
def frameTurnId (frame : Json) : Option String :=
  match (frame.getStr "turn_id").bind nonBlank with
  | some t => some t
  | none =>
    match (frame.get "data").bind Json.asObject? with
    | some data => ((data.get "turn_id").bind Json.asStr?).bind nonBlank
    | none => none

/-- Both ids are non-empty and equal. -/
def turnIdsMatch (expected candidate : Option String) : Bool :=
  match expected.bind nonBlank, candidate.bind nonBlank with
  | some a, some b => a == b
  | _, _ => false

/-- Gate for turn-scoped `stream.end`. -/
def isTurnTerminalAllowed (expectedTurnId frameTurn : Option String)
    (queryStarted turnProgressSeen : Bool) : Bool :=
  if !queryStarted || !turnProgressSeen then false else turnIdsMatch expectedTurnId frameTurn

/-- Gate for `status=idle`. -/
def isIdleTerminalAllowed (expectedTurnId frameTurn : Option String)
    (queryStarted turnProgressSeen cancellationSeen : Bool) : Bool :=
  let exp := expectedTurnId.bind nonBlank
  if !queryStarted || exp.isNone then false
  else
    match frameTurn.bind nonBlank with
    | some c => if !turnIdsMatch exp (some c) then false else turnProgressSeen || cancellationSeen
    | none => cancellationSeen

/-- An id as the wire carries it: absent, or trimmed and not blank. -/
def Trimmed (turnId : Option String) : Prop := ∀ t, turnId = some t → Text.trim t = t ∧ t ≠ ""

variable {a b : Option String}

theorem trimmed_none : Trimmed none := fun _ h => nomatch h

theorem Trimmed.bind_nonBlank (h : Trimmed a) : a.bind nonBlank = a := by
  cases a with
  | none => rfl
  | some t => exact Text.nonBlank_of_trimmed (h t rfl).1 (h t rfl).2

/-- On trimmed ids the match is equality. -/
theorem turnIdsMatch_iff (ha : Trimmed a) (hb : Trimmed b) :
    turnIdsMatch a b = true ↔ ∃ t, a = some t ∧ b = some t := by
  unfold turnIdsMatch
  rw [ha.bind_nonBlank, hb.bind_nonBlank]
  cases a with
  | none => simp
  | some x =>
    cases b with
    | none => simp
    | some y => simpa using eq_comm

/-- A bound id is not that of the frame. -/
theorem mismatch_iff (ha : Trimmed a) (hb : Trimmed b) :
    (a.isSome && !turnIdsMatch a b) = true ↔ a ≠ none ∧ b ≠ a := by
  rw [Bool.and_eq_true, Option.isSome_iff_ne_none, Bool.not_eq_true', ← Bool.not_eq_true,
    turnIdsMatch_iff ha hb]
  refine and_congr_right fun hne => not_congr ⟨?_, fun h => ?_⟩
  · rintro ⟨t, hat, hbt⟩
    exact hbt.trans hat.symm
  · obtain ⟨t, ht⟩ := Option.ne_none_iff_exists'.1 hne
    exact ⟨t, ht, h.trans ht⟩

/-- A terminal is allowed only in a turn that has started and made progress. -/
theorem of_isTurnTerminalAllowed {started progress : Bool}
    (h : isTurnTerminalAllowed a b started progress = true) :
    started = true ∧ progress = true := by
  unfold isTurnTerminalAllowed at h
  cases started <;> cases progress <;> simp at h ⊢

/-- So is an idle status, without a cancellation. -/
theorem of_isIdleTerminalAllowed {started progress : Bool}
    (h : isIdleTerminalAllowed a b started progress false = true) : progress = true := by
  unfold isIdleTerminalAllowed at h
  simp only at h
  split_ifs at h
  cases hc : b.bind nonBlank with
  | none =>
    rw [hc] at h
    cases h
  | some u =>
    rw [hc] at h
    simp only at h
    split_ifs at h
    rw [Bool.or_false] at h
    exact h

theorem isTurnTerminalAllowed_iff (ha : Trimmed a) (hb : Trimmed b) {started progress : Bool} :
    isTurnTerminalAllowed a b started progress = true ↔
      started = true ∧ progress = true ∧ ∃ t, a = some t ∧ b = some t := by
  unfold isTurnTerminalAllowed
  rw [← turnIdsMatch_iff ha hb]
  cases started <;> cases progress <;> simp

theorem isIdleTerminalAllowed_iff (ha : Trimmed a) (hb : Trimmed b) {started progress : Bool} :
    isIdleTerminalAllowed a b started progress false = true ↔
      started = true ∧ progress = true ∧ ∃ t, a = some t ∧ b = some t := by
  unfold isIdleTerminalAllowed
  rw [ha.bind_nonBlank, hb.bind_nonBlank, ← turnIdsMatch_iff ha hb]
  cases a with
  | none => simp [turnIdsMatch]
  | some x =>
    cases b with
    | none => simp [turnIdsMatch]
    | some y => cases started <;> cases progress <;> simp

theorem trimmed_frameTurnId (frame : Json) : Trimmed (frameTurnId frame) := by
  intro t ht
  unfold frameTurnId at ht
  split at ht
  · rename_i u hu
    obtain rfl := Option.some.inj ht
    obtain ⟨v, -, hv⟩ := Option.bind_eq_some_iff.1 hu
    exact Text.trimmed_of_nonBlank hv
  · split at ht
    · obtain ⟨v, -, hv⟩ := Option.bind_eq_some_iff.1 ht
      exact Text.trimmed_of_nonBlank hv
    · cases ht

example : parseTurnGeneration (some "loop-1:3") = some 3 := by decide

/-! ## Formatted ids -/

variable {loopId loopId' : String} {generation generation' : ℤ}

theorem formatTurnId_of_valid (hloop : Text.trim loopId ≠ "") (hpos : 0 < generation) :
    formatTurnId loopId generation =
      Text.trim loopId ++ String.singleton ':' ++ toString generation :=
  if_neg (not_or.2 ⟨hloop, Int.not_le.2 hpos⟩)

theorem formatTurnId_of_invalid (h : Text.trim loopId = "" ∨ generation ≤ 0) :
    formatTurnId loopId generation = "" :=
  if_pos h

/-- The separator before the generation is the last one. -/
theorem colon_not_mem_toString : ':' ∉ (toString generation).toList := by
  intro h
  rcases Text.mem_toString h with hsign | hdigit
  · exact absurd hsign (by decide)
  · exact absurd hdigit (by decide)

/-- A formatted id is as the wire carries it. -/
theorem trimmed_formatTurnId (hloop : Text.trim loopId ≠ "") (hpos : 0 < generation) :
    Trimmed (some (formatTurnId loopId generation)) := by
  intro t ht
  obtain rfl := Option.some.inj ht
  rw [formatTurnId_of_valid hloop hpos]
  have hcolon : ∀ s : String, Text.trim loopId ++ String.singleton ':' ++ s ≠ "" := by
    intro s h
    have hchars := congrArg String.toList h
    rw [String.toList_append, String.toList_append, String.toList_singleton] at hchars
    simp at hchars
  refine ⟨?_, hcolon _⟩
  have hstem := Text.trim_append (Text.trim_trim loopId) hloop
    (by decide : Text.trim (String.singleton ':') = String.singleton ':')
  refine Text.trim_append hstem ?_ (Text.trim_toString generation)
  have := hcolon ""
  rwa [String.append_empty] at this

theorem formatTurnId_ne_empty (hloop : Text.trim loopId ≠ "") (hpos : 0 < generation) :
    formatTurnId loopId generation ≠ "" :=
  (trimmed_formatTurnId hloop hpos _ rfl).2

/-- The generation is parsed again. -/
theorem parseTurnGeneration_formatTurnId (hloop : Text.trim loopId ≠ "") (hpos : 0 < generation)
    (hmax : generation < 2 ^ 63) :
    parseTurnGeneration (some (formatTurnId loopId generation)) = some generation := by
  obtain ⟨htrim, hne⟩ := trimmed_formatTurnId hloop hpos _ rfl
  unfold parseTurnGeneration
  simp only
  rw [htrim, if_neg]
  · rw [formatTurnId_of_valid hloop hpos, Text.afterLast_append colon_not_mem_toString,
      Text.parseI64_toString (by omega) hmax]
    exact if_pos hpos
  · rintro (hempty | hcolon)
    · exact hne hempty
    · rw [formatTurnId_of_valid hloop hpos] at hcolon
      exact absurd (Text.contains_append _ ":" _) (Bool.eq_false_iff.1 hcolon)

/-- Different turns have different ids. -/
theorem formatTurnId_inj (hloop : Text.trim loopId ≠ "") (hpos : 0 < generation) :
    formatTurnId loopId generation = formatTurnId loopId' generation' ↔
      Text.trim loopId = Text.trim loopId' ∧ generation = generation' := by
  by_cases hvalid : Text.trim loopId' = "" ∨ generation' ≤ 0
  · rw [formatTurnId_of_invalid hvalid]
    refine iff_of_false (formatTurnId_ne_empty hloop hpos) ?_
    rintro ⟨hsame, rfl⟩
    rcases hvalid with hblank | hneg
    · exact hloop (hsame.trans hblank)
    · omega
  · obtain ⟨hloop', hpos'⟩ := not_or.1 hvalid
    rw [formatTurnId_of_valid hloop hpos, formatTurnId_of_valid hloop' (Int.not_le.1 hpos'),
      Text.append_inj_of_not_mem colon_not_mem_toString colon_not_mem_toString, Text.toString_inj]

/-- An id that is no turn's is matched by none. -/
theorem turnIdsMatch_formatTurnId (hloop : Text.trim loopId ≠ "") (hpos : 0 < generation) :
    turnIdsMatch (some (formatTurnId loopId generation))
        (some (formatTurnId loopId' generation')) = true ↔
      formatTurnId loopId generation = formatTurnId loopId' generation' := by
  have htrimmed := trimmed_formatTurnId hloop hpos
  by_cases hvalid : Text.trim loopId' = "" ∨ generation' ≤ 0
  · rw [formatTurnId_of_invalid hvalid]
    refine iff_of_false ?_ (formatTurnId_ne_empty hloop hpos)
    unfold turnIdsMatch
    rw [htrimmed.bind_nonBlank]
    exact Bool.false_ne_true
  · obtain ⟨hloop', hpos'⟩ := not_or.1 hvalid
    rw [turnIdsMatch_iff htrimmed (trimmed_formatTurnId hloop' (Int.not_le.1 hpos'))]
    constructor
    · rintro ⟨t, ht, ht'⟩
      exact Option.some.inj (ht.trans ht'.symm)
    · intro h
      exact ⟨_, rfl, congrArg some h.symm⟩

/-- **Turn ids.** The id of a turn gives its generation back, and it is the id of the same loop and
generation only; so it is matched by these alone. -/
theorem turn_id_round_trip (loopId : String) (generation : ℤ) (hloop : Text.trim loopId ≠ "")
    (hpos : 0 < generation) (hmax : generation < 2 ^ 63) :
    parseTurnGeneration (some (formatTurnId loopId generation)) = some generation ∧
      ∀ (loopId' : String) (generation' : ℤ),
        (formatTurnId loopId generation = formatTurnId loopId' generation' ↔
          Text.trim loopId = Text.trim loopId' ∧ generation = generation') ∧
        (turnIdsMatch (some (formatTurnId loopId generation))
            (some (formatTurnId loopId' generation')) = true ↔
          Text.trim loopId = Text.trim loopId' ∧ generation = generation') := by
  refine ⟨parseTurnGeneration_formatTurnId hloop hpos hmax, fun loopId' generation' => ?_⟩
  have hinj : formatTurnId loopId generation = formatTurnId loopId' generation' ↔ _ :=
    formatTurnId_inj hloop hpos
  exact ⟨hinj, (turnIdsMatch_formatTurnId hloop hpos).trans hinj⟩

/-- With the separator and white space in the loop id. -/
theorem turn_id_round_trip_colon :
    parseTurnGeneration (some (formatTurnId " team a:7 " 3)) = some 3 ∧
      ∀ (loopId' : String) (generation' : ℤ),
        (formatTurnId " team a:7 " 3 = formatTurnId loopId' generation' ↔
          Text.trim " team a:7 " = Text.trim loopId' ∧ 3 = generation') ∧
        (turnIdsMatch (some (formatTurnId " team a:7 " 3))
            (some (formatTurnId loopId' generation')) = true ↔
          Text.trim " team a:7 " = Text.trim loopId' ∧ 3 = generation') :=
  turn_id_round_trip " team a:7 " 3 (by decide) (by decide) (by decide)

end SootheClient.Frame
