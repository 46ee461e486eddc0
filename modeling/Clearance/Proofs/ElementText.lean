import Clearance.Proofs.NormalForm
import Clearance.Stack.Element

/-!
# An element is what its text says

The text of an element puts the name of a rule and the source one behind the
other, with nothing in between, and the name `all` begins the name `all_levels`.
Still no text can be taken apart in two ways (`text_injective`), because no
source is written so that it begins with what `all_levels` has more than `all`.
Nothing else is needed of the reader: whichever rule it finds, it has found the
only one, so the order in which the names are tried does not matter
(`read?_eq_some_iff`).

Texts are read in lower case and without the blanks around them, so what is read
from a written element is that element if writing it gives a normal text. The
names of rules and all that stands in front of a group is in lower case, and it
is the group's name that decides.
-/

namespace Clearance

namespace StackSource

/-- The group that the source is about. -/
def group? : StackSource → Option String
  | fromGroup name | notFromGroup name => some name
  | _ => none

/-- Whether the source does not leave out the name of the group that it is
about. -/
def Named (s : StackSource) : Prop := s.group? ≠ some ""

instance (s : StackSource) : Decidable s.Named := inferInstanceAs (Decidable (_ ≠ _))

theorem groupOf?_eq_some {cs : List Char} {name : String} :
    groupOf? cs = some name ↔ cs = name.toList ∧ name ≠ "" := by
  rw [groupOf?]
  cases cs with
  | nil => simp
  | cons c cs =>
      simp only [List.isEmpty_cons, Bool.false_eq_true, if_false, Option.some.injEq]
      constructor
      · rintro rfl
        simp
      · rintro ⟨h, -⟩
        rw [h, String.ofList_toList]

/-- What is read as a source is its text. -/
theorem text_of_read? {cs : List Char} {s : StackSource} (h : read? cs = some s) :
    cs = s.text.toList ∧ s.Named := by
  rw [read?] at h
  split at h
  · next hempty =>
    obtain rfl := Option.some.inj h
    exact ⟨List.isEmpty_iff.1 hempty, nofun⟩
  · split at h
    · next hown =>
      obtain rfl := Option.some.inj h
      exact ⟨hown, nofun⟩
    · split at h
      · next hinherited =>
        obtain rfl := Option.some.inj h
        exact ⟨hinherited, nofun⟩
      · split at h
        · next group hfront =>
          obtain ⟨name, hname, rfl⟩ := Option.map_eq_some_iff.1 h
          obtain ⟨rfl, hne⟩ := groupOf?_eq_some.1 hname
          refine ⟨?_, fun heq => hne (Option.some.inj heq)⟩
          rw [Text.eq_append_of_afterFront? hfront, text, String.toList_append]
        · obtain ⟨name, hname, rfl⟩ := Option.map_eq_some_iff.1 h
          obtain ⟨group, hfront, hname⟩ := Option.bind_eq_some_iff.1 hname
          obtain ⟨rfl, hne⟩ := groupOf?_eq_some.1 hname
          refine ⟨?_, fun heq => hne (Option.some.inj heq)⟩
          rw [Text.eq_append_of_afterFront? hfront, text, String.toList_append]

theorem read?_fromGroup (cs : List Char) :
    read? (fromGroupMark.toList ++ cs) = (groupOf? cs).map fromGroup := by
  have hother : Text.afterFront? notFromGroupMark (fromGroupMark.toList ++ cs) = none :=
    rfl
  rw [read?, if_neg (by simp [fromGroupMark]), if_neg (by simp [fromGroupMark]),
    if_neg (by simp [fromGroupMark]), hother]
  simp only [Text.afterFront?_append, Option.bind_eq_bind, Option.bind_some]

theorem read?_notFromGroup (cs : List Char) :
    read? (notFromGroupMark.toList ++ cs) = (groupOf? cs).map notFromGroup := by
  rw [read?, if_neg (by simp [notFromGroupMark]), if_neg (by simp [notFromGroupMark]),
    if_neg (by simp [notFromGroupMark]), Text.afterFront?_append]

theorem read?_text {s : StackSource} (h : s.Named) : read? s.text.toList = some s := by
  have hgroup : ∀ {name : String}, s.group? = some name →
      groupOf? name.toList = some name :=
    fun heq =>
      groupOf?_eq_some.2 ⟨rfl, fun hempty => h (heq.trans (congrArg some hempty))⟩
  cases s with
  | any | own | inherited => rfl
  | fromGroup name =>
      rw [text, String.toList_append, read?_fromGroup, hgroup rfl, Option.map_some]
  | notFromGroup name =>
      rw [text, String.toList_append, read?_notFromGroup, hgroup rfl, Option.map_some]

theorem text_ne_levels (s : StackSource) (cs : List Char) :
    s.text.toList ≠ "_levels".toList ++ cs := by
  cases s <;> simp [text, fromGroupMark, notFromGroupMark]

theorem text_injective {s s' : StackSource} (h : s.text.toList = s'.text.toList) :
    s = s' := by
  cases s <;> cases s' <;>
    simp_all [text, fromGroupMark, notFromGroupMark, String.toList_inj]

end StackSource

theorem StackRule.eq_of_text {r r' : StackRule} {s s' : StackSource}
    (h : r.text.toList ++ s.text.toList = r'.text.toList ++ s'.text.toList) : r = r' := by
  have hs := s.text_ne_levels s'.text.toList
  have hs' := s'.text_ne_levels s.text.toList
  cases r <;> cases r' <;> simp_all [text]

namespace StackElement

theorem text_injective {e e' : StackElement} (h : e.text = e'.text) : e = e' := by
  rw [text, text, ← String.toList_inj, String.toList_append, String.toList_append] at h
  have hrule : e.rule = e'.rule := StackRule.eq_of_text h
  rw [hrule] at h
  have hsource : e.source = e'.source :=
    StackSource.text_injective (List.append_cancel_left h)
  rw [StackElement.mk.injEq]
  exact ⟨hrule, hsource⟩

/-- A text is read as the element that it is the text of, and as no other. -/
theorem read?_eq_some_iff {cs : List Char} {e : StackElement} :
    read? cs = some e ↔ cs = e.text.toList ∧ e.source.Named := by
  have hsound : ∀ {e : StackElement}, read? cs = some e →
      cs = e.text.toList ∧ e.source.Named := by
    intro e h
    obtain ⟨rule, -, hrule⟩ := List.exists_of_findSome?_eq_some h
    obtain ⟨source, hsource, rfl⟩ := Option.map_eq_some_iff.1 hrule
    obtain ⟨rest, hrest, hsource⟩ := Option.bind_eq_some_iff.1 hsource
    obtain ⟨rfl, hnamed⟩ := StackSource.text_of_read? hsource
    refine ⟨?_, hnamed⟩
    rw [Text.eq_append_of_afterFront? hrest, text, String.toList_append]
  refine ⟨hsound, ?_⟩
  rintro ⟨rfl, hnamed⟩
  have hrule : e.rule ∈ StackRule.inReadingOrder := by cases e.rule <;> decide
  have hreads : (Text.afterFront? e.rule.text e.text.toList >>= StackSource.read?).map
      (fun source => ({ rule := e.rule, source } : StackElement)) = some e := by
    rw [text, String.toList_append, Text.afterFront?_append, Option.bind_eq_bind,
      Option.bind_some, StackSource.read?_text hnamed, Option.map_some]
  -- some rule is found, and it can be no other than that of the element
  obtain ⟨e', hfound⟩ : ∃ e', read? e.text.toList = some e' :=
    Option.isSome_iff_exists.1
      (List.findSome?_isSome_iff.2 ⟨e.rule, hrule, Option.isSome_of_eq_some hreads⟩)
  rw [hfound, text_injective (String.toList_inj.1 (hsound hfound).1)]

/-! ## Raw texts -/

theorem ofRaw_eq_ok_iff {raw : String} {e : StackElement} :
    ofRaw raw = .ok e ↔ Text.normalize raw = e.text ∧ e.source.Named := by
  rw [← String.toList_inj, ← read?_eq_some_iff]
  unfold ofRaw
  cases read? (Text.normalize raw).toList with
  | none => exact ⟨nofun, nofun⟩
  | some found => rw [Except.ok.injEq, Option.some.injEq]

end StackElement

/-! ## Normal texts -/

theorem Text.normalize_eq_self_iff {s : String} :
    normalize s = s ↔ Trimmed s.toList ∧ ∀ c ∈ s.toList, Settled c := by
  constructor
  · intro h
    refine ⟨h ▸ trimmed_normalize s, fun c hc => ?_⟩
    rw [← h, normalize, lowercase, String.toList_ofList] at hc
    exact settled_of_mem_lowercaseFrom hc
  · rintro ⟨htrimmed, hsettled⟩
    rw [normalize, trim_of_trimmed htrimmed, lowercase, lowercaseFrom_of_settled hsettled,
      String.ofList_toList]

theorem Text.lowercase_eq_self_iff {s : String} :
    lowercase s = s ↔ ∀ c ∈ s.toList, Settled c := by
  constructor
  · intro h c hc
    rw [← h, lowercase, String.toList_ofList] at hc
    exact settled_of_mem_lowercaseFrom hc
  · intro h
    rw [lowercase, lowercaseFrom_of_settled h, String.ofList_toList]

/-- Whether a text is in lower case and has no blanks. -/
def Text.isQuiet (s : String) : Bool :=
  s.toList.all fun c => decide (Settled c) && !isBlank c

theorem Text.isQuiet_iff {s : String} :
    isQuiet s = true ↔ ∀ c ∈ s.toList, Settled c ∧ isBlank c = false := by
  simp [isQuiet]

/-- What stands at the end of a text decides whether it is trimmed, if there is
something without blanks in front of it. -/
theorem Text.trimmed_append_iff {front cs : List Char} (hne : front ≠ [])
    (hfront : ∀ c ∈ front, isBlank c = false) :
    Trimmed (front ++ cs) ↔ ∀ c, cs.getLast? = some c → isBlank c = false := by
  constructor
  · intro h c hc
    exact h.last c (by rw [List.getLast?_append, hc, Option.some_or])
  · intro h
    constructor
    · intro c hc
      rw [List.head?_append, List.head?_eq_some_head hne, Option.some_or] at hc
      exact hfront c (Option.some.inj hc ▸ List.head_mem hne)
    · intro c hc
      rw [List.getLast?_append, Option.or_eq_some_iff] at hc
      exact hc.elim (h c) fun hc => hfront c (List.mem_of_getLast? hc.2)

/-- Whether the name of a group is kept when it is written and read: there is
something of it, it is in lower case, and no blank stands at its end. -/
structure Legible (group : String) : Prop where
  nonempty : group ≠ ""
  lower : Text.lowercase group = group
  last : ∀ c, group.toList.getLast? = some c → Text.isBlank c = false

namespace StackElement

/-- All of the text that stands in front of the group's name, or all of it if
there is none, is in lower case and without blanks. -/
theorem exists_front (e : StackElement) : ∃ front ≠ [],
    e.text.toList = front ++ (e.source.group?.getD "").toList ∧
      ∀ c ∈ front, Text.Settled c ∧ Text.isBlank c = false := by
  have hrule : e.rule.text.toList ≠ [] ∧ Text.isQuiet e.rule.text = true := by
    cases e.rule <;> decide +kernel
  obtain ⟨mark, hmark, hquiet⟩ : ∃ mark,
      e.source.text = mark ++ e.source.group?.getD "" ∧ Text.isQuiet mark = true := by
    cases e.source with
    | any => exact ⟨"", rfl, rfl⟩
    | own => exact ⟨"_own", String.append_empty.symm, by decide +kernel⟩
    | inherited => exact ⟨"_inherited", String.append_empty.symm, by decide +kernel⟩
    | fromGroup name => exact ⟨StackSource.fromGroupMark, rfl, by decide +kernel⟩
    | notFromGroup name => exact ⟨StackSource.notFromGroupMark, rfl, by decide +kernel⟩
  refine ⟨e.rule.text.toList ++ mark.toList, List.append_ne_nil_of_left_ne_nil hrule.1 _,
    ?_, ?_⟩
  · rw [text, hmark, String.toList_append, String.toList_append, List.append_assoc]
  · exact List.forall_mem_append.2 ⟨Text.isQuiet_iff.1 hrule.2, Text.isQuiet_iff.1 hquiet⟩

/-- An element is read from its text if the name of its group is legible, and
not otherwise. -/
theorem ofRaw_text_iff (e : StackElement) :
    ofRaw e.text = .ok e ↔ ∀ group, e.source.group? = some group → Legible group := by
  obtain ⟨front, hne, htext, hplain⟩ := e.exists_front
  rw [ofRaw_eq_ok_iff, Text.normalize_eq_self_iff, htext,
    Text.trimmed_append_iff hne fun c hc => (hplain c hc).2, List.forall_mem_append,
    ← Text.lowercase_eq_self_iff, StackSource.Named]
  have hsettled : ∀ c ∈ front, Text.Settled c := fun c hc => (hplain c hc).1
  cases e.source.group? with
  | none => exact iff_of_true ⟨⟨nofun, hsettled, rfl⟩, nofun⟩ nofun
  | some name =>
      constructor
      · rintro ⟨⟨hlast, -, hlower⟩, hnamed⟩ group hgroup
        obtain rfl := Option.some.inj hgroup
        exact ⟨fun hempty => hnamed (congrArg some hempty), hlower, hlast⟩
      · intro h
        obtain ⟨hnonempty, hlower, hlast⟩ := h name rfl
        exact ⟨⟨hlast, hsettled, hlower⟩,
          fun hempty => hnonempty (Option.some.inj hempty)⟩

/-! ## The grammar -/

/-- The texts of elements: the name of a rule, and behind it nothing, or where
the decorations come from. -/
def Written (s : String) : Prop :=
  ∃ rule ∈ ["all", "first", "all_levels", "highest_priority"],
    s = rule ∨ s = rule ++ "_own" ∨ s = rule ++ "_inherited" ∨
      ∃ group, group ≠ "" ∧
        (s = rule ++ "_from_group_" ++ group ∨ s = rule ++ "_not_from_group_" ++ group)

theorem written_iff {s : String} :
    Written s ↔ ∃ e : StackElement, s = e.text ∧ e.source.Named := by
  constructor
  · rintro ⟨name, hname, hs⟩
    obtain ⟨rule, rfl⟩ : ∃ rule : StackRule, rule.text = name := by
      simp only [List.mem_cons, List.not_mem_nil, or_false] at hname
      rcases hname with rfl | rfl | rfl | rfl
      · exact ⟨.all, rfl⟩
      · exact ⟨.first, rfl⟩
      · exact ⟨.levels, rfl⟩
      · exact ⟨.highest, rfl⟩
    rcases hs with rfl | rfl | rfl | ⟨group, hne, rfl | rfl⟩
    · exact ⟨⟨rule, .any⟩, String.append_empty.symm, nofun⟩
    · exact ⟨⟨rule, .own⟩, rfl, nofun⟩
    · exact ⟨⟨rule, .inherited⟩, rfl, nofun⟩
    · exact ⟨⟨rule, .fromGroup group⟩, String.append_assoc,
        fun hempty => hne (Option.some.inj hempty)⟩
    · exact ⟨⟨rule, .notFromGroup group⟩, String.append_assoc,
        fun hempty => hne (Option.some.inj hempty)⟩
  · rintro ⟨⟨rule, source⟩, rfl, hnamed⟩
    refine ⟨rule.text, by cases rule <;> decide, ?_⟩
    cases source with
    | any => exact .inl String.append_empty
    | own => exact .inr (.inl rfl)
    | inherited => exact .inr (.inr (.inl rfl))
    | fromGroup name =>
        exact .inr (.inr (.inr ⟨name, fun hempty => hnamed (congrArg some hempty),
          .inl String.append_assoc.symm⟩))
    | notFromGroup name =>
        exact .inr (.inr (.inr ⟨name, fun hempty => hnamed (congrArg some hempty),
          .inr String.append_assoc.symm⟩))

/-- A raw text is read exactly if its normal form is the text of an element, and
else it is what the error names. What is read has the normal form for its text,
and is read from it again. An element is read from its text exactly if the name
of its group, if it has one, is legible. No two elements have the same text. -/
theorem ofRaw_written (raw : String) :
    ((∃ e, ofRaw raw = .ok e) ↔ Written (Text.normalize raw)) ∧
      (∀ fault, ofRaw raw = .error fault → fault = .invalidElement raw) ∧
      (∀ e, ofRaw raw = .ok e → e.text = Text.normalize raw ∧ ofRaw e.text = .ok e) ∧
      (∀ e : StackElement,
        ofRaw e.text = .ok e ↔ ∀ group, e.source.group? = some group → Legible group) ∧
      ∀ e e' : StackElement, e.text = e'.text → e = e' := by
  refine ⟨?_, fun fault h => ?_, fun e h => ?_, ofRaw_text_iff,
    fun e e' => text_injective⟩
  · rw [written_iff]
    exact exists_congr fun e => ofRaw_eq_ok_iff
  · unfold ofRaw at h
    split at h
    · cases h
    · exact (Except.error.inj h).symm
  · obtain ⟨htext, hnamed⟩ := ofRaw_eq_ok_iff.1 h
    refine ⟨htext.symm, ofRaw_eq_ok_iff.2 ⟨?_, hnamed⟩⟩
    rw [← htext, Text.normalize_normalize]

/-- A group may have a name that looks like a rule and a source. -/
def lookalike : StackElement where
  rule := .all
  source := .fromGroup "all_levels_own"

/-- It is read as such, in any case and with blanks around it. -/
theorem ofRaw_written_lookalike :
    ofRaw " All_FROM_group_all_Levels_own\n" = .ok lookalike ∧
      Text.normalize " All_FROM_group_all_Levels_own\n" = lookalike.text ∧
      Legible "all_levels_own" ∧ ofRaw lookalike.text = .ok lookalike := by
  obtain ⟨-, -, hread, hlegible, -⟩ := ofRaw_written " All_FROM_group_all_Levels_own\n"
  have hraw : ofRaw " All_FROM_group_all_Levels_own\n" = .ok lookalike := by
    rw [ofRaw_eq_ok_iff]
    exact ⟨by decide +kernel, by decide⟩
  obtain ⟨htext, hagain⟩ := hread _ hraw
  exact ⟨hraw, htext.symm, (hlegible lookalike).1 hagain _ rfl, hagain⟩

end StackElement

end Clearance
