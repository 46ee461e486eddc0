import Clearance.Time.Calendar

/-!
# Days and dates

A day has one date, and the date gives the day back (`toDays_ofDays`). The
four hundred years in which the calendar repeats are cut into centuries, spans
of four years, and years: each of them ends with its longest part, because a
year is counted from March. Once a day is cut up like that (`EraDay`), the
divisions by which its year is found can be carried out.
-/

namespace Clearance.Time

/-- A day of the four hundred years: after so many centuries, spans of four
years and years it is a day of a year. The last day is there in leap years
only. -/
structure EraDay (day c q r k : Int) : Prop where
  eq : day = 36524 * c + 1461 * q + 365 * r + k
  century : 0 ≤ c ∧ c ≤ 3
  span : 0 ≤ q ∧ q ≤ 24
  year : 0 ≤ r ∧ r ≤ 3
  ofYear : 0 ≤ k ∧ k ≤ 365
  leap : k = 365 → r = 3 ∧ (q = 24 → c = 3)

theorem exists_eraDay {day : Int} (h : 0 ≤ day) (hlt : day < 146097) :
    ∃ c q r k, EraDay day c q r k := by
  obtain ⟨c, d₁, hday, hc, h₁⟩ : ∃ c d₁, day = 36524 * c + d₁ ∧ (0 ≤ c ∧ c ≤ 3) ∧
      (0 ≤ d₁ ∧ d₁ ≤ 36524 ∧ (d₁ = 36524 → c = 3)) :=
    ⟨day / 36524 - day / 146096, day - 36524 * (day / 36524 - day / 146096),
      by omega, by omega, by omega⟩
  obtain ⟨q, d₂, hd₁, hq, h₂⟩ : ∃ q d₂, d₁ = 1461 * q + d₂ ∧ (0 ≤ q ∧ q ≤ 24) ∧
      (0 ≤ d₂ ∧ d₂ ≤ 1460) :=
    ⟨d₁ / 1461, d₁ % 1461, by omega, by omega, by omega⟩
  obtain ⟨r, k, hd₂, hr, hk⟩ : ∃ r k, d₂ = 365 * r + k ∧ (0 ≤ r ∧ r ≤ 3) ∧
      (0 ≤ k ∧ k ≤ 365 ∧ (k = 365 → r = 3)) :=
    ⟨d₂ / 365 - d₂ / 1460,
      d₂ - 365 * (d₂ / 365 - d₂ / 1460), by omega, by omega, by omega⟩
  exact ⟨c, q, r, k, by omega, hc, hq, hr, by omega, by omega⟩

namespace EraDay

variable {day c q r k : Int}

theorem yearOfEra_eq (e : EraDay day c q r k) :
    (day - day / 1460 + day / 36524 - day / 146096) / 365 = 100 * c + 4 * q + r := by
  obtain ⟨heq, hc, hq, hr, hk, hleap⟩ := e
  have hcentury : day / 36524 - day / 146096 = c := by
    by_cases hlast : day = 146096
    · subst hlast
      omega
    · have hshort : 1461 * q + 365 * r + k < 36524 := by omega
      omega
  have hspan : day / 1460 = 25 * c + q + (24 * c + q + 365 * r + k) / 1460 := by omega
  omega

theorem dayOfEra_eq (e : EraDay day c q r k) :
    day = 365 * (100 * c + 4 * q + r) + (100 * c + 4 * q + r) / 4 -
      (100 * c + 4 * q + r) / 100 + k := by
  obtain ⟨heq, hc, hq, hr, hk, -⟩ := e
  omega

end EraDay

namespace Date

/-- The date that lies so many days after the first of March of a year. -/
def fromMarch (year k : Int) : Date :=
  let m := (5 * k + 2) / 153
  let month := if m < 10 then m + 3 else m - 9
  { year := if month ≤ 2 then year + 1 else year
    month := month.toNat
    day := (k - (153 * m + 2) / 5 + 1).toNat }

theorem ofDays_eq {days era c q r k : Int}
    (e : EraDay (days + 719468 - era * 146097) c q r k) :
    ofDays days = fromMarch (100 * c + 4 * q + r + era * 400) k := by
  have hrange : 0 ≤ days + 719468 - era * 146097 ∧
      days + 719468 - era * 146097 < 146097 := by
    obtain ⟨heq, hc, hq, hr, hk, hleap⟩ := e
    omega
  have hera : (days + 719468).fdiv 146097 = era := by
    rw [Int.fdiv_eq_ediv_of_nonneg _ (by decide)]
    omega
  have hday := e.dayOfEra_eq
  rw [ofDays]
  simp only [hera, e.yearOfEra_eq]
  have hk : days + 719468 - era * 146097 - (365 * (100 * c + 4 * q + r) +
      (100 * c + 4 * q + r) / 4 - (100 * c + 4 * q + r) / 100) = k := by omega
  rw [hk]
  rfl

theorem toDays_fromMarch {era y k : Int} (hy : 0 ≤ y ∧ y < 400) (hk : 0 ≤ k ∧ k ≤ 365) :
    (fromMarch (y + era * 400) k).toDays =
      era * 146097 + (y * 365 + y / 4 - y / 100 + k) - 719468 := by
  have hm : 0 ≤ (5 * k + 2) / 153 ∧ (5 * k + 2) / 153 ≤ 11 := by omega
  rw [fromMarch]
  generalize hmdef : (5 * k + 2) / 153 = m at hm
  have hday : ((k - (153 * m + 2) / 5 + 1).toNat : Int) = k - (153 * m + 2) / 5 + 1 := by
    omega
  have hera : (y + era * 400).fdiv 400 = era := by
    rw [Int.fdiv_eq_ediv_of_nonneg _ (by decide)]
    omega
  have hyear : y + era * 400 - era * 400 = y := by omega
  rw [toDays]
  by_cases hlate : m < 10
  · have hmonth : (((m + 3).toNat : Int) + 9) % 12 = m := by omega
    have hafter : ¬m + 3 ≤ 2 := by omega
    have hafter' : ¬(m + 3).toNat ≤ 2 := by omega
    simp only [if_pos hlate, if_neg hafter, if_neg hafter', hera, hyear, hmonth, hday]
    omega
  · have hmonth : (((m - 9).toNat : Int) + 9) % 12 = m := by omega
    have hafter : m - 9 ≤ 2 := by omega
    have hafter' : (m - 9).toNat ≤ 2 := by omega
    have hsame : y + era * 400 + 1 - 1 = y + era * 400 := by omega
    simp only [if_neg hlate, if_pos hafter, if_pos hafter', hsame, hera, hyear, hmonth,
      hday]
    omega

theorem toDays_ofDays (days : Int) : (ofDays days).toDays = days := by
  obtain ⟨c, q, r, k, e⟩ : ∃ c q r k,
      EraDay (days + 719468 - (days + 719468) / 146097 * 146097) c q r k :=
    exists_eraDay (by omega) (by omega)
  have hy : 0 ≤ 100 * c + 4 * q + r ∧ 100 * c + 4 * q + r < 400 := by
    have := e.century
    have := e.span
    have := e.year
    omega
  rw [ofDays_eq e, toDays_fromMarch hy e.ofYear]
  have hday := e.dayOfEra_eq
  omega

theorem isLeapYear_of_mod {y : Int} (h : y % 4 = 0) (h' : y % 100 = 0 → y % 400 = 0) :
    isLeapYear y = true := by
  simp only [isLeapYear, Bool.and_eq_true, Bool.or_eq_true, beq_iff_eq, bne_iff_ne]
  omega

/-- Months that are counted from March are long enough for their days. -/
theorem day_le_daysInMonth {y m k : Int} (hm : m = (5 * k + 2) / 153)
    (hk : 0 ≤ k ∧ k ≤ 365) (hleap : k = 365 → isLeapYear y = true) :
    k - (153 * m + 2) / 5 + 1 ≤
      (daysInMonth y (if m < 10 then m + 3 else m - 9).toNat : Int) := by
  have hmonth : m = 11 ∨ m = 0 ∨ m = 1 ∨ m = 2 ∨ m = 3 ∨ m = 4 ∨ m = 5 ∨ m = 6 ∨ m = 7 ∨
    m = 8 ∨ m = 9 ∨ m = 10 := by omega
  rcases hmonth with rfl | hmonth
  · show k - 337 + 1 ≤ (daysInMonth y 2 : Int)
    rw [daysInMonth]
    split
    · omega
    · next hcommon =>
      have hlast : k ≠ 365 := fun hlast => hcommon (hleap hlast)
      omega
  · rcases hmonth with rfl | rfl | rfl | rfl | rfl | rfl | rfl | rfl | rfl | rfl | rfl <;>
      simp only [daysInMonth, Int.reduceLT, if_true, if_false, Int.reduceAdd,
        Int.reduceSub, Int.reduceToNat] <;> omega

theorem isValid_fromMarch {year k : Int} (hk : 0 ≤ k ∧ k ≤ 365)
    (hleap : k = 365 → isLeapYear (year + 1) = true)
    (hmin : minYear ≤ year ∨ minYear ≤ year + 1 ∧ 306 ≤ k)
    (hmax : year < maxYear ∨ year ≤ maxYear ∧ k < 306) :
    (fromMarch year k).isValid = true := by
  have hm : 0 ≤ (5 * k + 2) / 153 ∧ (5 * k + 2) / 153 ≤ 11 := by omega
  have hlate : (5 * k + 2) / 153 < 10 ↔ k < 306 := by omega
  rw [fromMarch]
  generalize hmdef : (5 * k + 2) / 153 = m at hm hlate
  have hfirst : 1 ≤ k - (153 * m + 2) / 5 + 1 := by omega
  simp only [isValid, Bool.and_eq_true, decide_eq_true_eq]
  have hlength : ∀ y : Int, (k = 365 → isLeapYear y = true) → _ := fun y =>
    day_le_daysInMonth (y := y) hmdef.symm hk
  by_cases hm10 : m < 10
  · have hlong := hlength year (by omega)
    rw [if_pos hm10] at hlong
    rw [if_pos hm10, if_neg (by omega)]
    omega
  · have hlong := hlength (year + 1) hleap
    rw [if_neg hm10] at hlong
    rw [if_neg hm10, if_pos (by omega)]
    omega

theorem isValid_ofDays {days : Int} (hmin : (Date.mk minYear 1 1).toDays ≤ days)
    (hmax : days ≤ (Date.mk maxYear 12 31).toDays) : (ofDays days).isValid = true := by
  have hlow : (Date.mk minYear 1 1).toDays = -96465292 := by decide
  have hhigh : (Date.mk maxYear 12 31).toDays = 95026236 := by decide
  rw [hlow] at hmin
  rw [hhigh] at hmax
  generalize hera : (days + 719468) / 146097 = era
  obtain ⟨c, q, r, k, e⟩ : ∃ c q r k, EraDay (days + 719468 - era * 146097) c q r k :=
    exists_eraDay (by omega) (by omega)
  rw [ofDays_eq e]
  obtain ⟨heq, hc, hq, hr, hk, hleap⟩ := e
  refine isValid_fromMarch hk (fun hlast => ?_) ?_ ?_
  · have hlast := hleap hlast
    refine isLeapYear_of_mod ?_ fun hcentury => ?_ <;> omega
  · simp only [minYear]
    omega
  · have hlast : era = 655 ∨ era ≤ 654 := by omega
    simp only [maxYear]
    rcases hlast with rfl | hlast <;> omega

end Date

end Clearance.Time
