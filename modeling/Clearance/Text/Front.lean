/-!
# Texts that begin with another

What follows a text that stands at the front of another one.
-/

namespace Clearance.Text

/-- The characters after `front`, if the others begin with it. -/
def afterFront? (front : String) (cs : List Char) : Option (List Char) :=
  if front.toList.isPrefixOf cs then some (cs.drop front.toList.length) else none

theorem afterFront?_append (front : String) (cs : List Char) :
    afterFront? front (front.toList ++ cs) = some cs := by
  simp [afterFront?, List.isPrefixOf_iff_prefix]

theorem eq_append_of_afterFront? {front : String} {cs rest : List Char}
    (h : afterFront? front cs = some rest) : cs = front.toList ++ rest := by
  unfold afterFront? at h
  split at h
  · next hp =>
    obtain ⟨t, rfl⟩ := List.isPrefixOf_iff_prefix.1 hp
    simp at h
    simp [h]
  · cases h

end Clearance.Text
