import SootheClient.Lib.Segments
import SootheClient.Turn.Classifier

/-!
# Verbosity of events

The tier of an event is that of the domain in its name; a name that is not parsed has the normal
tier, whatever it is.
-/

namespace SootheClient.Turn

def VERBOSITY_QUIET : String := "quiet"

def VERBOSITY_NORMAL : String := "normal"

def VERBOSITY_DEBUG : String := "debug"

/-- Minimum verbosity level at which content is visible. -/
inductive VerbosityTier where
  | quiet
  | normal
  | detailed
  | debug
  /-- Never shown at any level. -/
  | internal
  deriving DecidableEq, Repr

/-- The discriminant. -/
def VerbosityTier.value : VerbosityTier → ℤ
  | .quiet => 0
  | .normal => 1
  | .detailed => 2
  | .debug => 3
  | .internal => 99

def verbosityLevelValue (verbosity : String) : ℤ :=
  if verbosity = VERBOSITY_QUIET then 0
  else if verbosity = VERBOSITY_NORMAL then 1
  else if verbosity = VERBOSITY_DEBUG then 3
  else 1

/-- Content of the tier is visible at the verbosity. -/
def shouldShow (tier : VerbosityTier) (verbosity : String) : Bool :=
  tier ≠ .internal && decide (tier.value ≤ verbosityLevelValue verbosity)

def isValidVerbosityLevel (s : String) : Bool :=
  s = VERBOSITY_QUIET || s = VERBOSITY_NORMAL || s = VERBOSITY_DEBUG

def EVENT_GENERAL_FAILED : String := "soothe.error.general.failed"

/-- Parsed 4-segment namespace components. -/
structure ParsedNamespace where
  domain : String
  component : String
  action : String
  deriving DecidableEq, Repr

def parseNamespace (ns : String) : Option ParsedNamespace :=
  match Text.segments '.' ns with
  | root :: domain :: component :: action :: _ =>
    if root = "soothe" ∧ domain ≠ "internal" then some ⟨domain, component, action⟩ else none
  | _ => none

def classifySubagentEvent (full : String) : VerbosityTier :=
  match parseNamespace full with
  | none => .normal
  | some parsed =>
    if parsed.action = "started" ∨ parsed.action = "completed" then .normal else .detailed

def classifyByDomain (domain full : String) : VerbosityTier :=
  if domain = "cognition" then .normal
  else if domain = "protocol" then .detailed
  else if domain = "tool" then .internal
  else if domain = "subagent" then classifySubagentEvent full
  else if domain = "system" then .normal
  else if domain = "output" ∨ domain = "error" then .quiet
  else .normal

def classifyByEventTypeString (eventType : String) : VerbosityTier :=
  if eventType = EVENT_FINAL_REPORT ∨ eventType = EVENT_GENERAL_FAILED then .quiet
  else if eventType = EVENT_TOOL_STARTED then .internal
  else .normal

/-- Classify an event type into a verbosity tier. -/
def classifyEventVerbosity (eventType : String) : VerbosityTier :=
  match parseNamespace eventType with
  | some parsed => classifyByDomain parsed.domain eventType
  | none => classifyByEventTypeString eventType

def isSubagentProgressEvent (eventType : String) : Bool :=
  match parseNamespace eventType with
  | none => false
  | some parsed =>
    parsed.domain = "subagent" && (parsed.action = "started" || parsed.action = "completed")

variable {ns eventType verbosity : String} {p : ParsedNamespace}

/-- A name of four segments or more, and not an internal one. -/
def Names (ns : String) (p : ParsedNamespace) : Prop :=
  p.domain ≠ "internal" ∧ ∃ rest,
    (∀ seg ∈ "soothe" :: p.domain :: p.component :: p.action :: rest, Text.Plain '.' seg) ∧
    ns = Text.joined '.' ("soothe" :: p.domain :: p.component :: p.action :: rest)

/-- The event is for details. -/
def ParsedNamespace.Detailed (p : ParsedNamespace) : Prop :=
  p.domain = "protocol" ∨ p.domain = "subagent" ∧ ¬ (p.action = "started" ∨ p.action = "completed")

/-- When an event of that name is shown. -/
def ParsedNamespace.ShownAt (p : ParsedNamespace) (verbosity : String) : Prop :=
  p.domain = "output" ∨ p.domain = "error" ∨
    p.domain ≠ "tool" ∧ verbosity ≠ VERBOSITY_QUIET ∧ (p.Detailed → verbosity = VERBOSITY_DEBUG)

/-- **Names.** What is parsed is a name, and every name is parsed. -/
theorem parseNamespace_iff : parseNamespace ns = some p ↔ Names ns p := by
  have hparse : parseNamespace ns = some p ↔ p.domain ≠ "internal" ∧
      ∃ rest, Text.segments '.' ns = "soothe" :: p.domain :: p.component :: p.action :: rest := by
    unfold parseNamespace
    split
    · rename_i root domain component action rest hseg
      rw [hseg]
      constructor
      · intro h
        split_ifs at h with hroot
        obtain rfl := Option.some.inj h
        exact ⟨hroot.2, rest, by rw [hroot.1]⟩
      · rintro ⟨hdomain, rest', heq⟩
        obtain ⟨rfl, rfl, rfl, rfl, -⟩ := by simpa only [List.cons.injEq] using heq
        rw [if_pos ⟨rfl, hdomain⟩]
    · rename_i hshort
      refine iff_of_false (fun h => by cases h) fun h => ?_
      obtain ⟨-, rest, heq⟩ := h
      exact hshort _ _ _ _ _ heq
  unfold Names
  rw [hparse]
  simp only [Text.segments_eq_iff (List.cons_ne_nil _ _)]

/-- The fall-back finds no event of its own: those that it names are parsed. -/
theorem classifyByEventTypeString_eq (h : parseNamespace eventType = none) :
    classifyByEventTypeString eventType = .normal := by
  have hne : ∀ e, parseNamespace e ≠ none → eventType ≠ e := by
    rintro e he rfl
    exact he h
  unfold classifyByEventTypeString
  rw [if_neg (not_or.2 ⟨hne _ (by decide), hne _ (by decide)⟩), if_neg (hne _ (by decide))]

/-! ## What is shown -/

theorem shouldShow_quiet (verbosity : String) : shouldShow .quiet verbosity = true := by
  unfold shouldShow verbosityLevelValue
  split_ifs <;> rfl

theorem shouldShow_normal : shouldShow .normal verbosity = true ↔ verbosity ≠ VERBOSITY_QUIET := by
  unfold shouldShow verbosityLevelValue
  split_ifs with hquiet
  · exact iff_of_false (by decide) fun h => h hquiet
  all_goals exact iff_of_true (by decide) hquiet

theorem shouldShow_detailed :
    shouldShow .detailed verbosity = true ↔ verbosity = VERBOSITY_DEBUG := by
  unfold shouldShow verbosityLevelValue
  split_ifs with hquiet hnormal hdebug
  · exact iff_of_false (by decide) fun h => absurd (hquiet.symm.trans h) (by decide)
  · exact iff_of_false (by decide) fun h => absurd (hnormal.symm.trans h) (by decide)
  · exact iff_of_true (by decide) hdebug
  · exact iff_of_false (by decide) hdebug

theorem shouldShow_internal (verbosity : String) : shouldShow .internal verbosity = false := rfl

theorem quiet_ne_debug (h : verbosity = VERBOSITY_DEBUG) : verbosity ≠ VERBOSITY_QUIET := by
  rw [h]
  decide

/-- The event of a name is shown as its domain and its action say. -/
theorem shown_of_names (h : parseNamespace eventType = some p) :
    shouldShow (classifyEventVerbosity eventType) verbosity = true ↔ p.ShownAt verbosity := by
  have hclass : classifyEventVerbosity eventType = classifyByDomain p.domain eventType := by
    unfold classifyEventVerbosity
    rw [h]
  have hsub : classifySubagentEvent eventType =
      if p.action = "started" ∨ p.action = "completed" then .normal else .detailed := by
    unfold classifySubagentEvent
    rw [h]
  rw [hclass]
  unfold classifyByDomain ParsedNamespace.ShownAt ParsedNamespace.Detailed
  rw [hsub]
  split_ifs with hcognition hprotocol htool hsubagent haction hsystem hloud
  · simp [hcognition, shouldShow_normal]
  · simp only [hprotocol, shouldShow_detailed]
    simpa using quiet_ne_debug
  · simp [htool, shouldShow_internal]
  · simp [hsubagent, haction, shouldShow_normal]
  · simp only [hsubagent, haction, shouldShow_detailed]
    simpa using quiet_ne_debug
  · simp [hsystem, shouldShow_normal]
  · exact iff_of_true (shouldShow_quiet verbosity) (or_assoc.1 (Or.inl hloud))
  · obtain ⟨houtput, herror⟩ := not_or.1 hloud
    simp [houtput, herror, htool, hprotocol, hsubagent, shouldShow_normal]

/-- A verbosity that is none is read as the normal one. -/
theorem shouldShow_of_invalid (h : isValidVerbosityLevel verbosity = false) (tier : VerbosityTier) :
    shouldShow tier verbosity = shouldShow tier VERBOSITY_NORMAL := by
  unfold isValidVerbosityLevel at h
  simp only [Bool.or_eq_false_iff, decide_eq_false_iff_not] at h
  obtain ⟨⟨hquiet, hnormal⟩, hdebug⟩ := h
  have hlevel : verbosityLevelValue verbosity = verbosityLevelValue VERBOSITY_NORMAL := by
    unfold verbosityLevelValue
    rw [if_neg hquiet, if_neg hnormal, if_neg hdebug]
    rfl
  unfold shouldShow
  rw [hlevel]

/-- **Verbosity.** What is parsed is the segments of a name, and every name is parsed. An event is
shown as its name says, and one without a name unless the verbosity is quiet; the start and the end
of a subagent are shown then, too. A verbosity that is none is read as the normal one. -/
theorem event_shown_iff (eventType verbosity : String) :
    (∀ p, parseNamespace eventType = some p ↔ Names eventType p) ∧
    (shouldShow (classifyEventVerbosity eventType) verbosity = true ↔
      (∃ p, Names eventType p ∧ p.ShownAt verbosity) ∨
        (∀ p, ¬ Names eventType p) ∧ verbosity ≠ VERBOSITY_QUIET) ∧
      (isSubagentProgressEvent eventType = true → verbosity ≠ VERBOSITY_QUIET →
        shouldShow (classifyEventVerbosity eventType) verbosity = true) ∧
      (isValidVerbosityLevel verbosity = false →
        ∀ tier, shouldShow tier verbosity = shouldShow tier VERBOSITY_NORMAL) := by
  refine ⟨fun _ => parseNamespace_iff, ?_, ?_, shouldShow_of_invalid⟩
  · cases h : parseNamespace eventType with
    | some p =>
      have hp := parseNamespace_iff.1 h
      rw [shown_of_names h]
      refine ⟨fun hs => .inl ⟨p, hp, hs⟩, fun hs => ?_⟩
      obtain ⟨q, hq, hs⟩ | ⟨hnone, -⟩ := hs
      · have heq : parseNamespace eventType = some q := parseNamespace_iff.2 hq
        obtain rfl := Option.some.inj (h.symm.trans heq)
        exact hs
      · exact absurd hp (hnone p)
    | none =>
      have hnone : ∀ p, ¬ Names eventType p := fun p hp => by
        rw [parseNamespace_iff.2 hp] at h
        cases h
      have hclass : classifyEventVerbosity eventType = .normal := by
        unfold classifyEventVerbosity
        rw [h]
        exact classifyByEventTypeString_eq h
      rw [hclass, shouldShow_normal]
      refine ⟨fun hs => .inr ⟨hnone, hs⟩, fun hs => ?_⟩
      obtain ⟨p, hp, -⟩ | ⟨-, hs⟩ := hs
      · exact absurd hp (hnone p)
      · exact hs
  · intro hprogress hquiet
    unfold isSubagentProgressEvent at hprogress
    cases h : parseNamespace eventType with
    | none =>
      rw [h] at hprogress
      cases hprogress
    | some p =>
      simp only [h, Bool.and_eq_true, Bool.or_eq_true, decide_eq_true_eq] at hprogress
      rw [shown_of_names h]
      obtain ⟨hdomain, haction⟩ := hprogress
      refine .inr (.inr ⟨by rw [hdomain]; decide, hquiet, fun hdetailed => ?_⟩)
      obtain hprotocol | ⟨-, hne⟩ := hdetailed
      · exact absurd (hdomain.symm.trans hprotocol) (by decide)
      · exact absurd haction hne

end SootheClient.Turn
