import SootheClient.Lib.Text

/-!
# Decimals

A number is printed as a row of digits after its sign, and the row is read back. There is no white
space in it and no other character, so it can be told from a text before it by one separator.
-/

namespace Text

variable {c : Char} {l : List Char} {s s' t t' : String} {i j : ℤ}

/-! ## Digits -/

/-- The digits of a number are read back. -/
theorem parseDigits_toDigits (n : ℕ) : parseDigits (Nat.toDigits 10 n) = some n := by
  have hany : (Nat.toDigits 10 n).any (fun c => !c.isDigit) = false := by
    rw [List.any_eq_false]
    intro c hc
    rw [Nat.isDigit_of_mem_toDigits (by decide) (by decide) hc]
    decide
  unfold parseDigits
  rw [if_neg (not_or.2 ⟨Nat.toDigits_ne_nil, by rw [hany]; decide⟩)]
  exact congrArg some Nat.ofDigitChars_ten_toDigits

theorem toNat_of_isDigit (h : c.isDigit = true) : 48 ≤ c.toNat ∧ c.toNat ≤ 57 := by
  unfold Char.isDigit at h
  rw [Bool.and_eq_true, decide_eq_true_eq, decide_eq_true_eq] at h
  exact ⟨UInt32.le_iff_toNat_le.1 h.1, UInt32.le_iff_toNat_le.1 h.2⟩

theorem isWhitespace_of_isDigit (h : c.isDigit = true) : isWhitespace c = false := by
  obtain ⟨hlow, hhigh⟩ := toNat_of_isDigit h
  unfold isWhitespace
  simp only [Bool.or_eq_false_iff, Bool.and_eq_false_iff, beq_eq_false_iff_ne,
    decide_eq_false_iff_not]
  omega

theorem isDigit_of_mem_toDigits {n : ℕ} (h : c ∈ Nat.toDigits 10 n) : c.isDigit = true :=
  Nat.isDigit_of_mem_toDigits (by decide) (by decide) h

theorem toDigits_inj {m n : ℕ} (h : Nat.toDigits 10 m = Nat.toDigits 10 n) : m = n := by
  have hread := congrArg parseDigits h
  rw [parseDigits_toDigits, parseDigits_toDigits] at hread
  exact Option.some.inj hread

/-- Digits have no sign before them. -/
theorem toDigits_ne_sign {m n : ℕ} : Nat.toDigits 10 m ≠ '-' :: Nat.toDigits 10 n := by
  intro h
  have hsign : '-' ∈ Nat.toDigits 10 m := by
    rw [h]
    exact List.mem_cons_self
  exact absurd (isDigit_of_mem_toDigits hsign) (by decide)

/-! ## Printed numbers -/

theorem toList_toString_ofNat (n : ℕ) : (toString (Int.ofNat n)).toList = Nat.toDigits 10 n :=
  Nat.toList_repr

theorem toList_toString_negSucc (n : ℕ) :
    (toString (Int.negSucc n)).toList = '-' :: Nat.toDigits 10 (n + 1) := by
  show ("-" ++ (n + 1).repr).toList = _
  rw [String.toList_append, Nat.toList_repr]
  rfl

/-- Without a sign it is the digits that are read. -/
theorem parseI64_of_isDigit (h : c.isDigit = true) : parseI64 (c :: l) =
    (parseDigits (c :: l)).bind fun n => if n < 2 ^ 63 then some (n : ℤ) else none := by
  unfold parseI64
  split
  · next heq =>
    rw [(List.cons.inj heq).1] at h
    cases h
  · next heq =>
    rw [(List.cons.inj heq).1] at h
    cases h
  · rfl

/-- **Print and parse.** An `i64` that is printed is read back. -/
theorem parseI64_toString (hmin : -2 ^ 63 ≤ i) (hmax : i < 2 ^ 63) :
    parseI64 (toString i).toList = some i := by
  cases i with
  | ofNat n =>
    obtain ⟨c, l, hcons⟩ := List.exists_cons_of_ne_nil (Nat.toDigits_ne_nil (n := n) (b := 10))
    have hc : c.isDigit = true := by
      refine isDigit_of_mem_toDigits (n := n) ?_
      rw [hcons]
      exact List.mem_cons_self
    have hn : n < 2 ^ 63 := Int.ofNat_lt.1 hmax
    rw [toList_toString_ofNat, hcons, parseI64_of_isDigit hc, ← hcons, parseDigits_toDigits,
      Option.bind_some, if_pos hn]
    rfl
  | negSucc n =>
    have hn : n + 1 ≤ 2 ^ 63 := by omega
    rw [toList_toString_negSucc]
    show (parseDigits (Nat.toDigits 10 (n + 1))).bind _ = _
    rw [parseDigits_toDigits, Option.bind_some, if_pos hn]
    rfl

theorem mem_toString (h : c ∈ (toString i).toList) : c = '-' ∨ c.isDigit = true := by
  cases i with
  | ofNat n =>
    rw [toList_toString_ofNat] at h
    exact Or.inr (isDigit_of_mem_toDigits h)
  | negSucc n =>
    rw [toList_toString_negSucc] at h
    exact (List.mem_cons.1 h).imp id isDigit_of_mem_toDigits

/-- Different numbers are printed differently. -/
theorem toString_inj : toString i = toString j ↔ i = j := by
  refine ⟨fun h => ?_, congrArg toString⟩
  have hchars := congrArg String.toList h
  cases i with
  | ofNat m =>
    cases j with
    | ofNat n =>
      rw [toList_toString_ofNat, toList_toString_ofNat] at hchars
      rw [toDigits_inj hchars]
    | negSucc n =>
      rw [toList_toString_ofNat, toList_toString_negSucc] at hchars
      exact absurd hchars toDigits_ne_sign
  | negSucc m =>
    cases j with
    | ofNat n =>
      rw [toList_toString_ofNat, toList_toString_negSucc] at hchars
      exact absurd hchars.symm toDigits_ne_sign
    | negSucc n =>
      rw [toList_toString_negSucc, toList_toString_negSucc] at hchars
      rw [Nat.succ.inj (toDigits_inj (List.cons.inj hchars).2)]

/-- A printed number is trimmed. -/
theorem trim_toString (i : ℤ) : trim (toString i) = toString i := by
  have hnot : ∀ c ∈ (toString i).toList, isWhitespace c = false := by
    intro c hc
    rcases mem_toString hc with rfl | hdigit
    · decide
    · exact isWhitespace_of_isDigit hdigit
  exact trim_eq_self_iff.2
    ⟨fun h => hnot _ (List.head_mem h), fun h => hnot _ (List.getLast_mem h)⟩

/-! ## The last separator -/

/-- After the last separator comes what has none in it. -/
theorem afterLast_append (h : c ∉ t.toList) :
    afterLast c (s ++ String.singleton c ++ t) = t.toList := by
  have hrev : ∀ x ∈ t.toList.reverse, decide (x ≠ c) = true := fun x hx =>
    decide_eq_true (ne_of_mem_of_not_mem (List.mem_reverse.1 hx) h)
  unfold afterLast
  rw [String.toList_append, String.toList_append, String.toList_singleton, List.reverse_append,
    List.reverse_append, List.takeWhile_append_of_pos hrev, List.reverse_singleton,
    List.singleton_append, List.takeWhile_cons_of_neg (by simp), List.append_nil,
    List.reverse_reverse]

/-- So two texts that are cut there have the same parts. -/
theorem append_inj_of_not_mem (h : c ∉ t.toList) (h' : c ∉ t'.toList) :
    s ++ String.singleton c ++ t = s' ++ String.singleton c ++ t' ↔ s = s' ∧ t = t' := by
  constructor
  · intro heq
    have hlast := congrArg (afterLast c) heq
    rw [afterLast_append h, afterLast_append h', String.toList_inj] at hlast
    subst hlast
    rw [← String.toList_inj, String.toList_append, String.toList_append, String.toList_append,
      String.toList_append, List.append_left_inj, List.append_left_inj, String.toList_inj] at heq
    exact ⟨heq, rfl⟩
  · rintro ⟨rfl, rfl⟩
    rfl

end Text
