import SootheClient.Frame.ChunkFilter
import SootheClient.Turn.Classifier

/-!
# Text that the early filter drops

The early filter and the classifier read the text of a message in different places: the filter
looks into the wire body and trims, the classifier takes the message's own content as it stands and
falls back on its content blocks.
-/

namespace SootheClient.Turn

open SootheClient.Frame
open Json (Members)

variable {msg : Members} {data : Json} {ns : List Json} {s : String}

/-- The text of a content value: a string, or the texts of its blocks. -/
def valueText : Json → String
  | .str s => s
  | .arr items => joinBlocks blockPlainText items
  | _ => ""

/-- The text of the message's own content. -/
def ownText (msg : Members) : String := valueText ((Members.get msg "content").getD .null)

/-- The text of the message's content blocks. -/
def blocksText (msg : Members) : String :=
  joinBlocks (fun blk => blk.getStrD "text")
    (((Members.get msg "content_blocks").bind Json.asArray?).getD [])

/-- The content that the filter reads: that of the wire body, or else the message's own. -/
def readContent (msg : Members) : Json :=
  (((wireBody msg).get "content").or (Members.get msg "content")).getD .null

/-- Nothing but what the filter trims. -/
def Blank (s : String) : Prop := ∀ c ∈ s.toList, isSpace c = true

/-- The type that the filter reads: that of the wire body, or else the message's own. -/
def wireType (msg : Members) : String :=
  if memberStr (wireBody msg) "type" = "" then memberStr msg "type"
  else memberStr (wireBody msg) "type"

/-- The filter judges the message by its text: it is no tool message, invokes no tool and has no
phase. -/
structure Judged (msg : Members) : Prop where
  type : wireType msg ≠ "tool"
  suffix : Text.endsWith (wireType msg) "ToolMessage" = false
  invocation : dictHasToolInvocation msg = false
  wirePhase : (wireBody msg).containsKey "phase" = false
  phase : Members.containsKey msg "phase" = false

/-- The ways in which the filter misses the text of a message. -/
inductive LosesText (msg : Members) : Prop
  /-- The message's own content is white space, and the filter trims it away. -/
  | blank (hbody : (wireBody msg).get "content" = none ∨ wireBody msg = msg)
      (htext : ownText msg ≠ "") (hblank : Blank (ownText msg))
  /-- The wire body has a blank content of its own, which hides the text of the message. -/
  | hidden (content : Json) (hbody : (wireBody msg).get "content" = some content)
      (hblank : Blank (valueText content)) (hne : wireBody msg ≠ msg) (htext : ownText msg ≠ "")
  /-- The text is in the content blocks, where the filter does not look. -/
  | blocks (hread : Blank (valueText (readContent msg))) (hown : ownText msg = "")
      (htext : blocksText msg ≠ "")

/-- The data of a chunk that is dropped though it carries text. -/
def LosesChunkText (data : Json) : Prop :=
  ∃ msg : Members, ∃ snd, data = .arr [.obj msg, snd] ∧ Judged msg ∧ LosesText msg

/-! ## The two readings -/

theorem blank_empty : Blank "" := fun _ hc => absurd hc List.not_mem_nil

theorem trimSpace_eq_empty_iff : trimSpace s = "" ↔ Blank s := Text.trimMatches_eq_empty_iff

/-- The filter reads the trimmed text of `readContent`. -/
theorem plainText_eq : plainText msg = trimSpace (valueText (readContent msg)) := by
  unfold plainText readContent
  simp only
  cases (((wireBody msg).get "content").or (Members.get msg "content")).getD .null with
  | str s => rfl
  | arr blocks => rfl
  | null | bool b | num n | obj m => exact (trimSpace_eq_empty_iff.2 blank_empty).symm

theorem plainText_eq_empty_iff : plainText msg = "" ↔ Blank (valueText (readContent msg)) := by
  rw [plainText_eq]
  exact trimSpace_eq_empty_iff

/-- The classifier reads the message's own text, and its content blocks when that is empty. -/
theorem extractContentFromMessage_eq :
    extractContentFromMessage msg = if ownText msg ≠ "" then ownText msg else blocksText msg := by
  unfold extractContentFromMessage ownText blocksText strMember
  simp only
  generalize Members.get msg "content" = content
  cases content with
  | none => rfl
  | some content =>
    cases content with
    | str s =>
      by_cases hs : s ≠ ""
      · exact (if_pos hs).trans (if_pos hs).symm
      · exact (if_neg hs).trans (if_neg hs).symm
    | arr items => rfl
    | null | bool b | num n | obj m => rfl

theorem extract_ne_empty_iff :
    extractContentFromMessage msg ≠ "" ↔ ownText msg ≠ "" ∨ blocksText msg ≠ "" := by
  rw [extractContentFromMessage_eq]
  by_cases hown : ownText msg ≠ ""
  · rw [if_pos hown]
    exact ⟨Or.inl, fun _ => hown⟩
  · rw [if_neg hown]
    exact ⟨Or.inr, fun h => h.resolve_left hown⟩

/-- Without a content in a nested body the filter reads the message's own. -/
theorem readContent_own (h : (wireBody msg).get "content" = none ∨ wireBody msg = msg) :
    valueText (readContent msg) = ownText msg := by
  unfold readContent ownText
  rcases h with h | h
  · rw [h, Option.none_or]
  · rw [h, Option.or_self]

theorem readContent_nested {content : Json} (h : (wireBody msg).get "content" = some content) :
    readContent msg = content := by
  unfold readContent
  rw [h, Option.some_or, Option.getD_some]

/-- The filter takes a message with text for an empty one exactly in these ways. -/
theorem losesText_iff :
    LosesText msg ↔ plainText msg = "" ∧ extractContentFromMessage msg ≠ "" := by
  rw [plainText_eq_empty_iff, extract_ne_empty_iff]
  constructor
  · intro h
    cases h with
    | blank hbody htext hblank => exact ⟨readContent_own hbody ▸ hblank, Or.inl htext⟩
    | hidden content hbody hblank hne htext =>
      exact ⟨readContent_nested hbody ▸ hblank, Or.inl htext⟩
    | blocks hread hown htext => exact ⟨hread, Or.inr htext⟩
  · rintro ⟨hread, htext⟩
    by_cases hown : ownText msg = ""
    · exact .blocks hread hown (htext.resolve_left fun h => h hown)
    by_cases hmsg : wireBody msg = msg
    · exact .blank (Or.inr hmsg) hown (readContent_own (Or.inr hmsg) ▸ hread)
    cases hbody : (wireBody msg).get "content" with
    | none => exact .blank (Or.inl hbody) hown (readContent_own (Or.inl hbody) ▸ hread)
    | some content => exact .hidden content hbody (readContent_nested hbody ▸ hread) hmsg hown

/-! ## The filter -/

/-- The filter drops a message by its text, once it judges it. -/
theorem nonActionable_obj {snd : Json} :
    messageChunkIsNonActionable (.arr [.obj msg, snd]) = true ↔ Judged msg ∧ plainText msg = "" := by
  show (if (wireType msg = "tool" || wireType msg = "ToolMessage" ||
      Text.endsWith (wireType msg) "ToolMessage") = true then false
    else if dictHasToolInvocation msg = true then false
    else if ((wireBody msg).containsKey "phase" || Members.containsKey msg "phase") = true then false
    else decide (plainText msg = "")) = true ↔ _
  by_cases htool : (wireType msg = "tool" || wireType msg = "ToolMessage" ||
      Text.endsWith (wireType msg) "ToolMessage") = true
  · rw [if_pos htool]
    refine ⟨fun h => absurd h Bool.false_ne_true, fun h => ?_⟩
    rw [h.1.suffix, Bool.or_false, Bool.or_eq_true, decide_eq_true_eq, decide_eq_true_eq] at htool
    obtain htype | htype := htool
    · exact absurd htype h.1.type
    · exact absurd h.1.suffix (by rw [htype]; decide)
  rw [if_neg htool]
  rw [Bool.not_eq_true, Bool.or_eq_false_iff, Bool.or_eq_false_iff, decide_eq_false_iff_not] at htool
  by_cases hinv : dictHasToolInvocation msg = true
  · rw [if_pos hinv]
    exact ⟨fun h => absurd h Bool.false_ne_true,
      fun h => absurd h.1.invocation (by rw [hinv]; decide)⟩
  rw [if_neg hinv]
  by_cases hphase : ((wireBody msg).containsKey "phase" || Members.containsKey msg "phase") = true
  · rw [if_pos hphase]
    refine ⟨fun h => absurd h Bool.false_ne_true, fun h => ?_⟩
    rw [h.1.wirePhase, h.1.phase] at hphase
    exact absurd hphase Bool.false_ne_true
  · rw [if_neg hphase, decide_eq_true_eq]
    rw [Bool.not_eq_true, Bool.or_eq_false_iff] at hphase
    exact ⟨fun h => ⟨⟨htool.1.1, htool.2, Bool.eq_false_iff.2 hinv, hphase.1, hphase.2⟩, h⟩,
      fun h => h.2⟩

/-- It drops nothing but pairs. -/
theorem pair_of_nonActionable (h : messageChunkIsNonActionable data = true) :
    ∃ first snd, data = .arr [first, snd] := by
  unfold messageChunkIsNonActionable at h
  cases data with
  | arr items =>
    match items with
    | [first, snd] => exact ⟨first, snd, rfl⟩
    | [] | [_] | _ :: _ :: _ :: _ => exact absurd h Bool.false_ne_true
  | null | bool b | num n | str s | obj m => exact absurd h Bool.false_ne_true

/-- It drops a pair without a first item, and a judged message without a text. -/
theorem nonActionable_iff : messageChunkIsNonActionable data = true ↔
    (∃ snd, data = .arr [.null, snd]) ∨
      ∃ msg : Members, ∃ snd, data = .arr [.obj msg, snd] ∧ Judged msg ∧ plainText msg = "" := by
  constructor
  · intro h
    obtain ⟨first, snd, rfl⟩ := pair_of_nonActionable h
    cases first with
    | null => exact Or.inl ⟨snd, rfl⟩
    | obj msg => exact Or.inr ⟨msg, snd, rfl, nonActionable_obj.1 h⟩
    | bool b | num n | str s | arr items => exact absurd h Bool.false_ne_true
  · rintro (⟨snd, rfl⟩ | ⟨msg, snd, rfl, h⟩)
    · rfl
    · exact nonActionable_obj.2 h

theorem drop_messages : shouldDropStreamChunkEarly ns "messages" data =
    messageChunkIsNonActionable data := by
  unfold shouldDropStreamChunkEarly
  rw [if_neg (by decide), if_pos rfl]

/-- A dropped chunk without a text is one that does not lose it. -/
theorem dropped_text (ns : List Json) (data : Json) :
    (shouldDropStreamChunkEarly ns "messages" data = true → (firstMessagePayload data).2.1 = "") ↔
      ¬ LosesChunkText data := by
  rw [drop_messages, nonActionable_iff]
  constructor
  · rintro h ⟨msg, snd, rfl, hjudged, hloses⟩
    obtain ⟨hplain, htext⟩ := losesText_iff.1 hloses
    exact htext (h (Or.inr ⟨msg, snd, rfl, hjudged, hplain⟩))
  · rintro h (⟨snd, rfl⟩ | ⟨msg, snd, rfl, hjudged, hplain⟩)
    · rfl
    · by_contra htext
      exact h ⟨msg, snd, rfl, hjudged, losesText_iff.2 ⟨hplain, htext⟩⟩

end SootheClient.Turn
