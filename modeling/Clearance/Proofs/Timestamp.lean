import Clearance.Proofs.Calendar
import Clearance.Proofs.Instant
import Clearance.Proofs.NormalForm
import Clearance.Proofs.Numeral
import Clearance.Time.Timestamp
import Clearance.Time.Timestamp.Reader
import Mathlib.Data.List.TakeWhile

/-!
# Timestamps read back

The reader takes a timestamp apart in the order in which it was put together:
each part of the text is read up to where the next begins, and the next begins
with a mark or is the fraction, so no digit of it is taken too early.

The parts give the instant again, with one exception (`parse?_timestamp_iff`).
A leap second is written as second 60 of its minute, and only there it is read
as one; the time within a leap second that does not end a minute is written as
an ordinary second.
-/

namespace Clearance

namespace Time.Timestamp

open Text (Digits isDigit isBlank digitsValue trimStart paddedDecimal)

/-- Whether no digit comes first. -/
def NoDigit (cs : List Char) : Prop := ∀ c, cs.head? = some c → isDigit c = false

theorem trimStart_digits {cs : List Char} {n : Nat} (d : Digits cs n) (rest : List Char) :
    trimStart (cs ++ rest) = cs ++ rest := by
  refine Text.dropWhile_isBlank fun c hc => ?_
  obtain ⟨a, as, rfl⟩ := List.exists_cons_of_ne_nil d.ne_nil
  obtain rfl := Option.some.inj hc
  exact Text.isBlank_of_isDigit (d.isDigit a List.mem_cons_self)

theorem number_digits {cs : List Char} {n width : Nat} (d : Digits cs n)
    (hwidth : cs.length = width) (rest : List Char) :
    number width (cs ++ rest) = some (n, rest) := by
  have htake : ((cs ++ rest).take width).takeWhile isDigit = cs := by
    rw [List.take_left' hwidth, List.takeWhile_eq_self_iff.2 d.isDigit]
  have hempty : cs.isEmpty = false := List.isEmpty_eq_false_iff.2 d.ne_nil
  rw [number]
  simp only [trimStart_digits d, htake, hempty, d.value, List.drop_left]
  rfl

theorem longNumber_digits {cs rest : List Char} {n : Nat} (d : Digits cs n)
    (hrest : NoDigit rest) : longNumber (cs ++ rest) = some (n, rest) := by
  have hempty : cs.isEmpty = false := List.isEmpty_eq_false_iff.2 d.ne_nil
  rw [longNumber]
  simp only [(Text.takeWhile_run d.isDigit hrest).1, hempty, d.value, List.drop_left]
  rfl

theorem mark_cons {c : Char} (hc : isBlank c = false) (rest : List Char) :
    mark c (c :: rest) = some ((), rest) := by
  have htrim : trimStart (c :: rest) = c :: rest :=
    Text.dropWhile_isBlank fun d hd => Option.some.inj hd ▸ hc
  simp only [mark, htrim, if_pos]

theorem number_two {n : Nat} (hn : n < 100) (rest : List Char) :
    number 2 ((paddedDecimal 2 n).toList ++ rest) = some (n, rest) :=
  number_digits (Text.digits_paddedDecimal 2 n) (Text.length_paddedDecimal (by decide) hn)
    rest

theorem year_digits {cs : List Char} {n : Nat} (d : Digits cs n) (hlength : cs.length = 4)
    (rest : List Char) : year (cs ++ rest) = some ((n : Int), rest) := by
  have hnumber := number_digits d hlength rest
  obtain ⟨a, as, rfl⟩ := List.exists_cons_of_ne_nil d.ne_nil
  have ha : isDigit a = true := d.isDigit a List.mem_cons_self
  rw [year, trimStart_digits d]
  split
  · next heq =>
    obtain ⟨rfl, -⟩ := List.cons.inj heq
    cases ha
  · next heq =>
    obtain ⟨rfl, -⟩ := List.cons.inj heq
    cases ha
  · rw [hnumber]
    rfl

theorem year_minus {cs rest : List Char} {n : Nat} (h : longNumber cs = some (n, rest)) :
    year ('-' :: cs) = some (-(n : Int), rest) := by
  show (longNumber cs).map _ = _
  rw [h]
  rfl

theorem year_plus {cs rest : List Char} {n : Nat} (h : longNumber cs = some (n, rest)) :
    year ('+' :: cs) = some ((n : Int), rest) := by
  show (longNumber cs).map _ = _
  rw [h]
  rfl

/-- A year reads back. A sign in front comes with all the digits that there are. -/
theorem year_yearText (y : Int) {rest : List Char} (hrest : NoDigit rest) :
    year ((yearText y).toList ++ rest) = some (y, rest) := by
  rw [yearText]
  split
  · next hplain =>
    rw [Bool.and_eq_true, decide_eq_true_eq, decide_eq_true_eq] at hplain
    have hy : (y.toNat : Int) = y := Int.toNat_of_nonneg hplain.1
    have hlength : (paddedDecimal 4 y.toNat).toList.length = 4 :=
      Text.length_paddedDecimal (by decide) (by omega)
    rw [year_digits (Text.digits_paddedDecimal 4 y.toNat) hlength, hy]
  · have hread := longNumber_digits (Text.digits_paddedDecimal 4 y.natAbs) hrest
    split
    · next hneg =>
      have hy : -(y.natAbs : Int) = y := by omega
      simp only [String.toList_append, String.reduceToList, List.cons_append,
        List.nil_append]
      rw [year_minus hread, hy]
    · next hpos =>
      have hy : (y.natAbs : Int) = y := by omega
      simp only [String.toList_append, String.reduceToList, List.cons_append,
        List.nil_append]
      rw [year_plus hread, hy]

theorem fraction_digits {cs rest : List Char} {n width : Nat} (d : Digits cs n)
    (hlength : cs.length = width) (hwidth : width ≤ 9) (hrest : NoDigit rest) :
    fraction ('.' :: (cs ++ rest)) = some (n * 10 ^ (9 - width), rest) := by
  have hempty : cs.isEmpty = false := List.isEmpty_eq_false_iff.2 d.ne_nil
  have htake : cs.take 9 = cs := List.take_of_length_le (by omega)
  have hvalue : digitsValue (cs.rightpad 9 '0') = n * 10 ^ (9 - width) := by
    rw [List.rightpad, hlength, Text.digitsValue_append_zeros, d.value]
  rw [fraction]
  simp only [(Text.takeWhile_run d.isDigit hrest).1, hempty, htake, hvalue,
    List.drop_left]
  rfl

/-- A fraction reads back, with three, six or nine digits or none. -/
theorem fraction_fractionText {nano : Nat} (hnano : nano < 1000000000) {rest : List Char}
    (hrest : NoDigit rest) (hpoint : rest.head? ≠ some '.') :
    fraction ((fractionText nano).toList ++ rest) = some (nano, rest) := by
  have hpointed : ∀ {width n : Nat}, 0 < width → width ≤ 9 → n < 10 ^ width →
      fraction (("." ++ paddedDecimal width n).toList ++ rest) =
        some (n * 10 ^ (9 - width), rest) := by
    intro width n hwidth hle hn
    simp only [String.toList_append, String.reduceToList, List.cons_append,
      List.nil_append]
    exact fraction_digits (Text.digits_paddedDecimal width n)
      (Text.length_paddedDecimal hwidth hn) hle hrest
  rw [fractionText]
  split
  · next hzero =>
    subst hzero
    cases rest with
    | nil => rfl
    | cons c rest =>
        show fraction (c :: rest) = _
        unfold fraction
        split
        · next heq => exact absurd (congrArg List.head? heq) hpoint
        · rfl
  · split
    · next hmilli =>
      have hvalue : nano / 1000000 * 10 ^ (9 - 3) = nano := by omega
      rw [hpointed (by decide) (by decide) (by omega), hvalue]
    · split
      · next hmicro =>
        have hvalue : nano / 1000 * 10 ^ (9 - 6) = nano := by omega
        rw [hpointed (by decide) (by decide) (by omega), hvalue]
      · have hvalue : nano * 10 ^ (9 - 9) = nano := Nat.mul_one nano
        rw [hpointed (by decide) (by decide) (by omega), hvalue]

/-! ## The parts together -/

theorem date_text {d : Date} (hmonth : d.month < 100) (hday : d.day < 100)
    (rest : List Char) :
    date ((yearText d.year ++ "-" ++ paddedDecimal 2 d.month ++ "-" ++
      paddedDecimal 2 d.day).toList ++ rest) = some (d, rest) := by
  have hyphen : ∀ cs, mark '-' ('-' :: cs) = some ((), cs) := mark_cons (by decide)
  have hyear : ∀ cs, year ((yearText d.year).toList ++ '-' :: cs) =
      some (d.year, '-' :: cs) :=
    fun _ => year_yearText d.year fun c hc => Option.some.inj hc ▸ rfl
  simp only [String.toList_append, String.reduceToList, List.append_assoc,
    List.cons_append, List.nil_append]
  simp only [date, hyear, hyphen, number_two hmonth, number_two hday, Option.bind_eq_bind,
    Option.bind_some]

theorem timeOfDay_text {h m s nano : Nat} (hh : h < 24) (hm : m < 60) (hs : s ≤ 60)
    (hnano : nano < 1000000000) {rest : List Char} (hrest : NoDigit rest)
    (hpoint : rest.head? ≠ some '.') :
    timeOfDay ((paddedDecimal 2 h ++ ":" ++ paddedDecimal 2 m ++ ":" ++
      paddedDecimal 2 s ++ fractionText nano).toList ++ rest) =
        some ((h * 3600 + m * 60 + s - s / 60, nano + s / 60 * nanosPerSecond),
          rest) := by
  have colon : ∀ cs, mark ':' (':' :: cs) = some ((), cs) := mark_cons (by decide)
  have hfits : (h < 24 && m < 60 && s ≤ 60) = true := by
    simp [hh, hm, hs]
  simp only [String.toList_append, String.reduceToList, List.append_assoc,
    List.cons_append, List.nil_append]
  simp only [timeOfDay, number_two (show h < 100 by omega),
    number_two (show m < 100 by omega), number_two (show s < 100 by omega), colon,
    fraction_fractionText hnano hrest hpoint, Option.bind_eq_bind, Option.bind_some,
    hfits, if_true]

end Time.Timestamp

namespace Time

/-- Whether a leap second comes at the end of a minute. -/
def Instant.Regular (t : Instant) : Prop := t.inLeapSecond = true → t.second % 60 = 59

instance (t : Instant) : Decidable t.Regular := inferInstanceAs (Decidable (_ → _))

namespace Timestamp

open Text (paddedDecimal)

theorem daysInMonth_le (year : Int) (month : Nat) : daysInMonth year month ≤ 31 := by
  rw [daysInMonth.eq_def]
  split
  · split <;> decide
  all_goals decide

theorem parse?_eq {text : String} {d : Date} {second nano : Nat} {cs : List Char}
    (hdate : date text.toList = some (d, 'T' :: cs))
    (htime : timeOfDay cs = some ((second, nano), ['Z'])) (hvalid : d.isValid = true) :
    parse? text = Instant.ofParts? (d.toDays * 86400 + second) nano := by
  have hzone : zone (Text.trimStart ['Z']) = some (0, []) := rfl
  have hnear : decide ((0 : Int).natAbs < 86400) = true := by decide
  rw [parse?, hdate]
  simp only [Option.bind_eq_bind, Option.bind_some, decide_true, Bool.true_or, if_true,
    htime, hzone, hvalid, List.all_nil, hnear, Bool.and_self, Int.sub_zero]

theorem parse?_of_parts {d : Date} {h m s nano : Nat} (hvalid : d.isValid = true)
    (hh : h < 24) (hm : m < 60) (hs : s ≤ 60) (hnano : nano < 1000000000) :
    parse? (yearText d.year ++ "-" ++ paddedDecimal 2 d.month ++ "-" ++
      paddedDecimal 2 d.day ++ "T" ++ paddedDecimal 2 h ++ ":" ++
      paddedDecimal 2 m ++ ":" ++ paddedDecimal 2 s ++ fractionText nano ++
      ZoneMark.letter.text) =
    Instant.ofParts? (d.toDays * 86400 + (h * 3600 + m * 60 + s - s / 60 : Nat))
      (nano + s / 60 * nanosPerSecond) := by
  have hdays := daysInMonth_le d.year d.month
  have hrange := hvalid
  simp only [Date.isValid, Bool.and_eq_true, decide_eq_true_eq] at hrange
  refine parse?_eq ?_
    (timeOfDay_text hh hm hs hnano (fun c hc => Option.some.inj hc ▸ rfl)
      (by decide)) hvalid
  rw [← date_text (d := d) (by omega) (by omega)]
  simp only [ZoneMark.text, String.toList_append, String.reduceToList, List.append_assoc,
    List.cons_append, List.nil_append]

/-- Whether an instant is in a leap second, as a number of seconds. -/
def leapOf (t : Instant) : Nat := if t.inLeapSecond then 1 else 0

/-- The leap second that a reader finds: it is second 60 of its minute. -/
def leapRead (t : Instant) : Nat := ((t.second % 60).toNat + leapOf t) / 60

theorem leapOf_le (t : Instant) : leapOf t ≤ 1 ∧ leapOf t * nanosPerSecond ≤ t.nano ∧
    t.nano - leapOf t * nanosPerSecond < 1000000000 := by
  have hlt := t.nano_lt
  rw [leapOf]
  cases hin : t.inLeapSecond with
  | true =>
      have hle : nanosPerSecond ≤ t.nano := of_decide_eq_true hin
      simp only [if_true, nanosPerSecond] at hle ⊢
      omega
  | false =>
      have hnot : ¬nanosPerSecond ≤ t.nano := of_decide_eq_false hin
      simp only [Bool.false_eq_true, if_false, nanosPerSecond] at hnot ⊢
      omega

/-- What is read from the timestamp of an instant. -/
theorem parse?_timestamp (t : Instant) : parse? (t.timestamp .letter) =
    Instant.ofParts? (t.second + leapOf t - leapRead t)
      (t.nano - leapOf t * nanosPerSecond + leapRead t * nanosPerSecond) := by
  have hmin := t.min_le
  have hmax := t.le_max
  rw [minSecond] at hmin
  rw [maxSecond] at hmax
  have hvalid : (Date.ofDays (t.second / 86400)).isValid = true :=
    Date.isValid_ofDays (by omega) (by omega)
  obtain ⟨hle, -, hsmall⟩ := leapOf_le t
  rw [Instant.timestamp, Int.fdiv_eq_ediv_of_nonneg _ (by decide),
    Int.fmod_eq_emod_of_nonneg _ (by decide), ← leapOf,
    parse?_of_parts hvalid (by omega) (by omega) (by omega) hsmall, Date.toDays_ofDays]
  have hminute : (t.second % 86400).toNat % 60 = (t.second % 60).toNat := by omega
  rw [hminute, ← leapRead]
  refine congrArg (Instant.ofParts? · _) ?_
  rw [leapRead]
  omega

/-- The instants that are read back from their timestamps: outside of leap
seconds all of them, and in leap seconds those at the end of a minute. -/
theorem parse?_timestamp_iff (t : Instant) :
    parse? (t.timestamp .letter) = some t ↔ t.Regular := by
  rw [parse?_timestamp]
  constructor
  · intro h hin
    obtain ⟨hsecond, -⟩ := Instant.ofParts?_eq_some h
    rw [leapRead, leapOf, hin] at hsecond
    simp only [if_true] at hsecond
    omega
  · intro h
    have hread : leapRead t = leapOf t := by
      rw [leapRead, leapOf]
      cases hin : t.inLeapSecond with
      | true =>
          have hlast := h hin
          simp only [if_true]
          omega
      | false =>
          simp only [Bool.false_eq_true, if_false]
          omega
    rw [hread, Int.add_sub_cancel, Nat.sub_add_cancel (leapOf_le t).2.1]
    exact dif_pos ⟨t.nano_lt, t.min_le, t.le_max⟩

end Timestamp

end Time

end Clearance
