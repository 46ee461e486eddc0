import Clearance.Text.Blank
import Clearance.Text.Numeral
import Mathlib.Algebra.Group.Nat.Defs

/-!
# Numerals read back

A signed word of 32 bits is written in decimal, and what is written reads as
the same word (`int32?_decimal`). The digits never come alone by accident: a
written number is not empty, and it holds nothing but digits and perhaps one
minus sign in front, so neither a dot nor a backslash. Zeros in front of it
leave its value alone (`digits_paddedDecimal`).
-/

namespace Clearance.Text

theorem isDigit_of_mem_toDigits {n : Nat} {c : Char} (h : c ∈ Nat.toDigits 10 n) :
    isDigit c = true := by
  have hdigit : c.isDigit = true := Nat.isDigit_of_mem_toDigits (by decide) (by decide) h
  rw [Char.isDigit] at hdigit
  rw [isDigit]
  exact hdigit

theorem natOfDigits?_toDigits (n : Nat) : natOfDigits? (Nat.toDigits 10 n) = some n := by
  have hnil : (Nat.toDigits 10 n).isEmpty = false := by
    rw [List.isEmpty_eq_false_iff]
    exact Nat.toDigits_ne_nil
  have hall : (Nat.toDigits 10 n).all isDigit = true :=
    List.all_eq_true.2 fun c hc => isDigit_of_mem_toDigits hc
  have hvalue : digitsValue (Nat.toDigits 10 n) = n := Nat.ofDigitChars_ten_toDigits
  rw [natOfDigits?, hnil, hall, hvalue]
  rfl

/-- A digit in front is no sign. -/
theorem intOfChars?_toDigits (n : Nat) :
    intOfChars? (Nat.toDigits 10 n) = some (n : Int) := by
  have hread := natOfDigits?_toDigits n
  cases hdigits : Nat.toDigits 10 n with
  | nil => exact absurd hdigits Nat.toDigits_ne_nil
  | cons c cs =>
      have hc : isDigit c = true := isDigit_of_mem_toDigits (hdigits ▸ List.mem_cons_self)
      rw [hdigits] at hread
      unfold intOfChars?
      split
      · next heq =>
        obtain ⟨rfl, -⟩ := List.cons.inj heq
        exact absurd hc (by decide)
      · next heq =>
        obtain ⟨rfl, -⟩ := List.cons.inj heq
        exact absurd hc (by decide)
      · rw [hread]
        rfl

theorem toList_decimal (n : Int) : (decimal n).toList =
    if n < 0 then '-' :: Nat.toDigits 10 n.natAbs else Nat.toDigits 10 n.natAbs := by
  rw [decimal]
  split
  · simp
  · exact String.toList_ofList

theorem intOfChars?_decimal (n : Int) : intOfChars? (decimal n).toList = some n := by
  rw [toList_decimal]
  split
  · next hneg =>
    have hsign : -(n.natAbs : Int) = n := by omega
    rw [intOfChars?, natOfDigits?_toDigits]
    exact congrArg some hsign
  · next hpos =>
    have hsign : (n.natAbs : Int) = n := by omega
    rw [intOfChars?_toDigits, hsign]

theorem int32?_decimal (n : Int32) : int32? (decimal n.toInt) = some n := by
  have hlow : -2 ^ 31 ≤ n.toInt := n.le_toInt
  have hhigh : n.toInt < 2 ^ 31 := n.toInt_lt
  have hfits : (-2147483648 ≤ n.toInt && n.toInt ≤ 2147483647) = true := by
    rw [Bool.and_eq_true, decide_eq_true_eq, decide_eq_true_eq]
    omega
  rw [int32?, intOfChars?_decimal]
  simp only
  rw [if_pos hfits, Int32.ofInt_toInt]

theorem mem_decimal {n : Int} {c : Char} (h : c ∈ (decimal n).toList) :
    c = '-' ∨ isDigit c = true := by
  rw [toList_decimal] at h
  split at h
  · rcases List.mem_cons.1 h with rfl | h
    · exact .inl rfl
    · exact .inr (isDigit_of_mem_toDigits h)
  · exact .inr (isDigit_of_mem_toDigits h)

theorem takeWhile_run {p : Char → Bool} {cs rest : List Char} (h : ∀ c ∈ cs, p c = true)
    (hrest : ∀ c, rest.head? = some c → p c = false) :
    (cs ++ rest).takeWhile p = cs ∧ (cs ++ rest).dropWhile p = rest := by
  rw [List.takeWhile_append_of_pos h, List.dropWhile_append_of_pos h]
  cases rest with
  | nil => exact ⟨List.append_nil cs, rfl⟩
  | cons c rest =>
      have hc : ¬p c = true := Bool.eq_false_iff.1 (hrest c rfl)
      rw [List.takeWhile_cons_of_neg hc, List.dropWhile_cons_of_neg hc, List.append_nil]
      exact ⟨rfl, rfl⟩

/-! ## Digits with zeros -/

/-- Whether the characters are the digits of a number, perhaps with zeros in
front. -/
structure Digits (cs : List Char) (n : Nat) : Prop where
  ne_nil : cs ≠ []
  isDigit : ∀ c ∈ cs, isDigit c = true
  value : digitsValue cs = n

theorem digitsValue_zeros (count : Nat) (cs : List Char) :
    digitsValue (List.replicate count '0' ++ cs) = digitsValue cs := by
  induction count with
  | zero => rfl
  | succ count ih => exact ih

theorem digitsValue_append_zeros (count : Nat) (cs : List Char) :
    digitsValue (cs ++ List.replicate count '0') = digitsValue cs * 10 ^ count := by
  induction count with
  | zero => simp
  | succ count ih =>
      have hlast : ∀ ds, digitsValue (ds ++ ['0']) = 10 * digitsValue ds := by
        intro ds
        rw [digitsValue, List.foldl_append]
        rfl
      rw [List.replicate_succ', ← List.append_assoc, hlast, ih, Nat.pow_succ,
        Nat.mul_left_comm, Nat.mul_comm 10]

theorem digits_toDigits (n : Nat) : Digits (Nat.toDigits 10 n) n where
  ne_nil := Nat.toDigits_ne_nil
  isDigit _ := isDigit_of_mem_toDigits
  value := Nat.ofDigitChars_ten_toDigits

theorem toList_paddedDecimal (width n : Nat) : (paddedDecimal width n).toList =
    List.replicate (width - (Nat.toDigits 10 n).length) '0' ++ Nat.toDigits 10 n :=
  String.toList_ofList

theorem digits_paddedDecimal (width n : Nat) :
    Digits (paddedDecimal width n).toList n := by
  have d := digits_toDigits n
  rw [toList_paddedDecimal]
  refine ⟨List.append_ne_nil_of_right_ne_nil _ d.ne_nil, fun c hc => ?_, ?_⟩
  · rcases List.mem_append.1 hc with hc | hc
    · obtain rfl := List.eq_of_mem_replicate hc
      rfl
    · exact d.isDigit c hc
  · rw [digitsValue_zeros, d.value]

theorem length_paddedDecimal {width n : Nat} (hwidth : 0 < width) (hn : n < 10 ^ width) :
    (paddedDecimal width n).toList.length = width := by
  have hlen := (Nat.length_toDigits_le_iff (by decide) hwidth).2 hn
  rw [toList_paddedDecimal, List.length_append, List.length_replicate]
  omega

theorem isBlank_of_isDigit {c : Char} (h : isDigit c = true) : isBlank c = false := by
  rw [isDigit, Bool.and_eq_true, decide_eq_true_eq, decide_eq_true_eq] at h
  have hlow : 48 ≤ c.toNat := h.1
  have hhigh : c.toNat ≤ 57 := h.2
  simp only [isBlank, inRanges, blankRanges, List.any_cons, List.any_nil, Bool.or_false,
    Bool.or_eq_false_iff, Bool.and_eq_false_iff, decide_eq_false_iff_not]
  omega

end Clearance.Text
