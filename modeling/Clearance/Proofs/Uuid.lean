import Clearance.Holder.Uuid
import Mathlib.Algebra.Group.Nat.Defs

/-!
# Identifiers read back

An identifier is written as 32 hexadecimal digits in five groups with hyphens
between them, and the text reads as the same identifier (`parse?_text`).
-/

namespace Clearance.Uuid

open Text (hexDigit?)

theorem hexDigit?_digitChar : ∀ n < 16, hexDigit? (Nat.digitChar n) = some n := by decide

theorem length_hexDigits (count n : Nat) : (hexDigits count n).length = count := by
  induction count generalizing n with
  | zero => rfl
  | succ count ih => rw [hexDigits, List.length_append, ih, List.length_singleton]

/-- The digits are those of the number, as far as they go. -/
theorem mapM_hexDigits (count n : Nat) :
    ∃ ds, (hexDigits count n).mapM hexDigit? = some ds ∧
    ds.length = count ∧ ds.foldl (fun n d => 16 * n + d) 0 = n % 16 ^ count := by
  induction count generalizing n with
  | zero => exact ⟨[], rfl, rfl, (Nat.mod_one n).symm⟩
  | succ count ih =>
      obtain ⟨ds, hread, hlength, hvalue⟩ := ih (n / 16)
      refine ⟨ds ++ [n % 16], ?_, ?_, ?_⟩
      · rw [hexDigits, List.mapM_append, hread]
        simp [hexDigit?_digitChar _ (Nat.mod_lt n (by decide))]
      · rw [List.length_append, hlength, List.length_singleton]
      · rw [List.foldl_append, hvalue, List.foldl_cons, List.foldl_nil, Nat.pow_succ']
        rw [Nat.mod_mul]
        omega

theorem ofHyphenated?_eq {a b c d e : List Char} (ha : a.length = 8) (hb : b.length = 4)
    (hc : c.length = 4) (hd : d.length = 4) (he : e.length = 12) :
    ofHyphenated? (a ++ '-' :: b ++ '-' :: c ++ '-' :: d ++ '-' :: e) =
      ofDigits? (a ++ b ++ c ++ d ++ e) := by
  have hshape : ((a ++ '-' :: b ++ '-' :: c ++ '-' :: d ++ '-' :: e).length = 36 &&
      [8, 13, 18, 23].all fun i =>
        (a ++ '-' :: b ++ '-' :: c ++ '-' :: d ++ '-' :: e)[i]? == some '-') = true := by
    simp [ha, hb, hc, hd, he, List.getElem?_append]
  rw [ofHyphenated?, if_pos hshape]
  simp [ha, hb, hc, hd, List.drop_append, List.drop_of_length_le]

theorem ofHyphenated?_groups {ds : List Char} (h : ds.length = 32) :
    ofHyphenated? (ds.take 8 ++ '-' :: (ds.drop 8).take 4 ++ '-' :: (ds.drop 12).take 4 ++
      '-' :: (ds.drop 16).take 4 ++ '-' :: ds.drop 20) = ofDigits? ds := by
  have hfour : ∀ i, ds.drop i = (ds.drop i).take 4 ++ ds.drop (i + 4) := by
    intro i
    rw [← List.drop_drop, List.take_append_drop]
  have hgroups : ds.take 8 ++ (ds.drop 8).take 4 ++ (ds.drop 12).take 4 ++
    (ds.drop 16).take 4 ++ ds.drop 20 = ds := by
    rw [List.append_assoc, ← hfour 16, List.append_assoc, ← hfour 12, List.append_assoc,
      ← hfour 8, List.take_append_drop]
  rw [ofHyphenated?_eq, hgroups] <;> simp [h]

/-- An identifier reads back from its text. -/
theorem parse?_text (u : Uuid) : parse? u.text = some u := by
  have hlength := length_hexDigits 32 u.bits.toNat
  have htext : u.text.toList.length = 36 := by
    rw [text, String.toList_ofList]
    simp [hlength]
  obtain ⟨ds, hread, hds, hvalue⟩ := mapM_hexDigits 32 u.bits.toNat
  have hfits : u.bits.toNat % 16 ^ 32 = u.bits.toNat := Nat.mod_eq_of_lt u.bits.isLt
  have hshape : parse? u.text = ofHyphenated? u.text.toList := by
    rw [parse?, if_neg (by omega), if_pos htext]
  rw [hshape, text, String.toList_ofList]
  rw [ofHyphenated?_groups hlength, ofDigits?, hread]
  simp only [Option.bind_eq_bind, Option.bind_some, if_pos hds, hvalue, hfits]
  rw [BitVec.ofNat_toNat, BitVec.setWidth_eq]

end Clearance.Uuid
