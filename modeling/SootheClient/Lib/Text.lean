import Mathlib.Algebra.Group.Int.Defs
import Mathlib.Algebra.Group.Nat.Defs
import Mathlib.Data.List.DropRight
import Mathlib.Data.List.Infix
import Mathlib.Tactic.Common

/-!
# String operations

The string operations of the standard library that the source calls, on the list of characters.
`trim` removes Unicode white space; the `Ascii` operations leave other characters alone.
-/

namespace Text

/-- The Unicode property `White_Space`. -/
def isWhitespace (c : Char) : Bool :=
  let n := c.toNat
  (9 ≤ n && n ≤ 13) || n == 32 || n == 0x85 || n == 0xA0 || n == 0x1680 ||
    (0x2000 ≤ n && n ≤ 0x200A) || n == 0x2028 || n == 0x2029 || n == 0x202F || n == 0x205F ||
    n == 0x3000

/-- The characters without white space at both ends. -/
def trimChars (l : List Char) : List Char := (l.dropWhile isWhitespace).rdropWhile isWhitespace

/-- `str::trim`. -/
def trim (s : String) : String := String.ofList (trimChars s.toList)

/-- `str::trim_matches`. -/
def trimMatches (p : Char → Bool) (s : String) : String :=
  String.ofList ((s.toList.dropWhile p).rdropWhile p)

/-- `str::starts_with`. -/
def startsWith (s p : String) : Bool := p.toList.isPrefixOf s.toList

/-- `str::ends_with`. -/
def endsWith (s p : String) : Bool := p.toList.isSuffixOf s.toList

/-- `str::strip_prefix`. -/
def stripPrefix (s p : String) : Option String := (s.toList.dropPrefix? p.toList).map String.ofList

/-- `p` occurs in `l`. -/
def containsChars (p : List Char) : List Char → Bool
  | [] => p.isEmpty
  | c :: l => p.isPrefixOf (c :: l) || containsChars p l

/-- `str::contains`. -/
def contains (s p : String) : Bool := containsChars p.toList s.toList

/-- `char::to_ascii_lowercase`. -/
def lowerChar (c : Char) : Char :=
  if 65 ≤ c.toNat ∧ c.toNat ≤ 90 then Char.ofNat (c.toNat + 32) else c

/-- `str::to_ascii_lowercase`. -/
def toAsciiLowercase (s : String) : String := String.ofList (s.toList.map lowerChar)

/-- `str::eq_ignore_ascii_case`. -/
def eqIgnoreAsciiCase (s t : String) : Bool := s.toList.map lowerChar == t.toList.map lowerChar

/-- The trimmed string, when it is not empty. -/
def nonBlank (s : String) : Option String :=
  if trim s = "" then none else some (trim s)

/-- The text after the last `c`, the whole string when there is none. -/
def afterLast (c : Char) (s : String) : List Char :=
  (s.toList.reverse.takeWhile (· ≠ c)).reverse

/-- A nonempty row of decimal digits. -/
def parseDigits (l : List Char) : Option ℕ :=
  if l = [] ∨ l.any (fun c => !c.isDigit) then none
  else some (l.foldl (fun n c => 10 * n + (c.toNat - 48)) 0)

/-- `str::parse::<i64>`: an optional sign and digits, within range. -/
def parseI64 (l : List Char) : Option ℤ :=
  match l with
  | '-' :: ds => (parseDigits ds).bind fun n => if n ≤ 2 ^ 63 then some (-(n : ℤ)) else none
  | '+' :: ds => (parseDigits ds).bind fun n => if n < 2 ^ 63 then some (n : ℤ) else none
  | ds => (parseDigits ds).bind fun n => if n < 2 ^ 63 then some (n : ℤ) else none

theorem trimChars_idem (l : List Char) : trimChars (trimChars l) = trimChars l := by
  unfold trimChars
  have hdrop : ∀ l : List Char, (∀ h : l ≠ [], isWhitespace (l.head h) = false) →
      (l.rdropWhile isWhitespace).dropWhile isWhitespace = l.rdropWhile isWhitespace := by
    intro l hl
    rw [List.dropWhile_eq_self_iff]
    intro h0
    have hpre := List.rdropWhile_prefix isWhitespace (l := l)
    have hne : l ≠ [] := by
      rintro rfl
      simp at h0
    have hget := hl hne
    rw [List.head_eq_getElem] at hget
    rw [hpre.getElem h0]
    simp [hget]
  rw [hdrop]
  · rw [List.rdropWhile_idempotent]
  · intro h
    exact List.head_dropWhile_not isWhitespace h

@[simp] theorem trim_trim (s : String) : trim (trim s) = trim s := by
  simp [trim, trimChars_idem]

theorem startsWith_iff {s p : String} : startsWith s p = true ↔ p.toList <+: s.toList :=
  List.isPrefixOf_iff_prefix

/-- A string is its prefix and the text after it. -/
theorem append_drop_of_startsWith {s p : String} (h : startsWith s p = true) :
    p ++ String.ofList (s.toList.drop p.length) = s := by
  rw [← String.toList_inj, String.toList_append, String.toList_ofList, ← String.length_toList]
  exact List.prefix_append_drop (startsWith_iff.1 h) |>.symm

theorem containsChars_iff {p l : List Char} : containsChars p l = true ↔ p <:+: l := by
  induction l with
  | nil => exact List.isEmpty_iff.trans List.infix_nil.symm
  | cons c l ih =>
    rw [containsChars, Bool.or_eq_true, ih, List.isPrefixOf_iff_prefix, List.infix_cons_iff]

theorem contains_iff {s p : String} : contains s p = true ↔ p.toList <:+: s.toList :=
  containsChars_iff

/-- A string contains what stands in it. -/
theorem contains_append (s p t : String) : contains (s ++ p ++ t) p = true := by
  rw [contains_iff, String.toList_append, String.toList_append]
  exact ⟨s.toList, t.toList, rfl⟩

theorem trimMatches_eq_empty_iff {p : Char → Bool} {s : String} :
    trimMatches p s = "" ↔ ∀ c ∈ s.toList, p c = true := by
  unfold trimMatches
  rw [← String.toList_inj, String.toList_ofList, String.toList_empty, List.rdropWhile_eq_nil_iff]
  constructor
  · intro h
    have hnil : s.toList.dropWhile p = [] := by
      by_contra hne
      have hhead := List.head_dropWhile_not p hne
      rw [h _ (List.head_mem hne)] at hhead
      cases hhead
    exact List.dropWhile_eq_nil_iff.1 hnil
  · intro h c hc
    exact h c ((List.dropWhile_suffix _).mem hc)

theorem trim_eq_empty_iff {s : String} : trim s = "" ↔ ∀ c ∈ s.toList, isWhitespace c = true :=
  trimMatches_eq_empty_iff

theorem trim_append_ne {s t : String} (h : trim t ≠ "") : trim (s ++ t) ≠ "" := by
  intro hblank
  refine h (trim_eq_empty_iff.2 fun c hc => trim_eq_empty_iff.1 hblank c ?_)
  rw [String.toList_append]
  exact List.mem_append_right _ hc

theorem length_trim_le (s : String) : (trim s).length ≤ s.length := by
  unfold trim trimChars
  rw [String.length_ofList, ← String.length_toList]
  calc ((s.toList.dropWhile isWhitespace).rdropWhile isWhitespace).length
      ≤ (s.toList.dropWhile isWhitespace).length := (List.rdropWhile_prefix _ _).length_le
    _ ≤ s.toList.length := (List.dropWhile_suffix _).length_le

/-- The trimmed string has the string as its prefix only when nothing was trimmed. -/
theorem startsWith_trim_iff {s : String} : startsWith (trim s) s = true ↔ trim s = s := by
  constructor
  · intro h
    have hpre := startsWith_iff.1 h
    have hlen : (trim s).toList.length ≤ s.toList.length := by
      rw [String.length_toList, String.length_toList]
      exact length_trim_le s
    exact String.toList_inj.1 (hpre.eq_of_length_le hlen).symm
  · intro h
    rw [h]
    exact startsWith_iff.2 (List.prefix_refl _)

/-- A text is trimmed when no white space is at its ends. -/
theorem trim_eq_self_iff {s : String} : trim s = s ↔
    (∀ h : s.toList ≠ [], isWhitespace (s.toList.head h) = false) ∧
      ∀ h : s.toList ≠ [], isWhitespace (s.toList.getLast h) = false := by
  have hlist : trim s = s ↔ trimChars s.toList = s.toList := by
    unfold trim
    rw [← String.toList_inj, String.toList_ofList]
  rw [hlist]
  generalize s.toList = l
  unfold trimChars
  constructor
  · intro h
    have hlen : l.length ≤ (l.dropWhile isWhitespace).length := by
      calc l.length = ((l.dropWhile isWhitespace).rdropWhile isWhitespace).length := by rw [h]
        _ ≤ (l.dropWhile isWhitespace).length := (List.rdropWhile_prefix _ _).length_le
    have hdrop := (List.dropWhile_suffix isWhitespace).eq_of_length_le hlen
    rw [hdrop] at h
    refine ⟨fun hne => ?_, fun hne => ?_⟩
    · rw [List.head_eq_getElem]
      exact Bool.eq_false_iff.2 (List.dropWhile_eq_self_iff.1 hdrop (List.length_pos_of_ne_nil hne))
    · exact Bool.eq_false_iff.2 (List.rdropWhile_eq_self_iff.1 h hne)
  · rintro ⟨hhead, hlast⟩
    have hdrop : l.dropWhile isWhitespace = l := by
      rw [List.dropWhile_eq_self_iff]
      intro h0
      have hh := hhead (List.ne_nil_of_length_pos h0)
      rw [List.head_eq_getElem] at hh
      rw [hh]
      decide
    rw [hdrop, List.rdropWhile_eq_self_iff]
    intro hne
    rw [hlast hne]
    decide

/-- A trimmed text stays trimmed after another one. -/
theorem trim_append {p s : String} (hp : trim p = p) (hne : p ≠ "") (hs : trim s = s) :
    trim (p ++ s) = p ++ s := by
  have hnil : p.toList ≠ [] := by
    intro h
    exact hne (String.toList_inj.1 (h.trans String.toList_empty.symm))
  rw [trim_eq_self_iff] at hp hs ⊢
  rw [String.toList_append]
  refine ⟨fun h => ?_, fun h => ?_⟩
  · rw [List.head_append_of_ne_nil hnil]
    exact hp.1 hnil
  · by_cases hs0 : s.toList = []
    · simp only [hs0, List.append_nil]
      exact hp.2 hnil
    · rw [List.getLast_append_of_ne_nil h hs0]
      exact hs.2 hs0

theorem stripPrefix_eq_some {s p t : String} : stripPrefix s p = some t ↔ s = p ++ t := by
  unfold stripPrefix
  rw [Option.map_eq_some_iff]
  constructor
  · rintro ⟨l, hl, rfl⟩
    obtain ⟨p', heq, hp⟩ := List.dropPrefix?_eq_some_iff.1 hl
    rw [← String.toList_inj, String.toList_append, String.toList_ofList, heq, beq_iff_eq.1 hp]
  · rintro rfl
    refine ⟨t.toList, ?_, String.ofList_toList⟩
    rw [String.toList_append]
    exact List.dropPrefix?_eq_some_iff.2 ⟨p.toList, rfl, beq_self_eq_true _⟩

theorem eqIgnoreAsciiCase_congr {s u : String} (h : eqIgnoreAsciiCase s u = true) (v : String) :
    eqIgnoreAsciiCase s v = eqIgnoreAsciiCase u v := by
  unfold eqIgnoreAsciiCase at *
  rw [beq_iff_eq] at h
  rw [h]

theorem eqIgnoreAsciiCase_of_lower {s w : String} (h : toAsciiLowercase s = w) (v : String) :
    eqIgnoreAsciiCase s v = (w.toList == v.toList.map lowerChar) := by
  unfold eqIgnoreAsciiCase
  rw [← h]
  unfold toAsciiLowercase
  rw [String.toList_ofList]

theorem nonBlank_of_trimmed {s : String} (h : trim s = s) (hne : s ≠ "") :
    nonBlank s = some s := by
  unfold nonBlank
  rw [h, if_neg hne]

/-- What `nonBlank` gives is trimmed and not empty. -/
theorem trimmed_of_nonBlank {s t : String} (h : nonBlank s = some t) : trim t = t ∧ t ≠ "" := by
  unfold nonBlank at h
  split_ifs at h with hb
  obtain rfl := Option.some.inj h
  exact ⟨trim_trim s, hb⟩

end Text
