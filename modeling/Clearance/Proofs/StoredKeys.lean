import Clearance.Proofs.AsciiCase
import Clearance.Proofs.KeyRoundTrip
import Clearance.Proofs.Multimap
import Clearance.Storage

/-!
# What stored keys make

Reading a key never fails, but building the node can: some payloads are read
behind a mark and then turned away. `Refused` lists them by the shapes of keys,
and `load_stored` says that the list is complete: every other stored record makes
a node, and a holder without such records is loaded with one node for each.

What takes an argument is a key that is read as the name of a permission. Such a
name is trimmed and lowered, and turned away if it then looks like a marked key.
Lowering a text brings no mark about and takes none away
(`isSome_readMarked?_lowers`), though it makes ASCII letters of other characters:
nothing comes out as a sign, a dot or a digit that was not one, no mark has a `k`
in it, and the `i` of `İ` brings a dot along that fits nowhere. So blanks at the
ends of the key are the only thing that can hide a mark.
-/

namespace Clearance

namespace NodeKey

open Text (Lowers Caseless)

/-! ## Reading a lowered key -/

theorem caseless_of_intOfChars? {cs : List Char} (h : (Text.intOfChars? cs).isSome) :
    ∀ c ∈ cs, Caseless c := by
  have hdigits : ∀ {ds : List Char}, (Text.natOfDigits? ds).isSome →
      ∀ d ∈ ds, Caseless d := by
    intro ds hds d hd
    rw [Text.natOfDigits?] at hds
    split at hds
    · cases hds
    · next hall =>
      rw [Bool.or_eq_true, not_or, Bool.not_eq_true', Bool.not_eq_false] at hall
      have hdigit := List.all_eq_true.1 hall.2 d hd
      rw [Text.isDigit, Bool.and_eq_true, decide_eq_true_eq, decide_eq_true_eq] at hdigit
      have hlast : d.toNat ≤ '9'.toNat := hdigit.2
      exact .inl (Nat.lt_of_le_of_lt hlast (by decide))
  unfold Text.intOfChars? at h
  split at h
  · rw [Option.isSome_map] at h
    exact List.forall_mem_cons.2 ⟨by decide, hdigits (Option.isSome_of_isSome_bind h)⟩
  · rw [Option.isSome_map] at h
    exact List.forall_mem_cons.2 ⟨by decide, hdigits (Option.isSome_of_isSome_bind h)⟩
  · rw [Option.isSome_map] at h
    exact hdigits (Option.isSome_of_isSome_bind h)

theorem int32?_lowers {cs ds : List Char} (h : Lowers cs ds) :
    Text.int32? (String.ofList ds) = Text.int32? (String.ofList cs) := by
  have hsome : ∀ {es : List Char}, (Text.int32? (String.ofList es)).isSome →
      ∀ e ∈ es, Caseless e := by
    intro es hes
    rw [Text.int32?, String.toList_ofList] at hes
    refine caseless_of_intOfChars? ?_
    cases hint : Text.intOfChars? es with
    | none => rw [hint] at hes; cases hes
    | some n => rfl
  by_cases hds : (Text.int32? (String.ofList ds)).isSome
  · rw [h.eq_of_caseless (hsome hds)]
  · by_cases hcs : (Text.int32? (String.ofList cs)).isSome
    · rw [h.eq_of_caseless_left (hsome hcs)]
    · rw [Option.not_isSome_iff_eq_none.1 hds, Option.not_isSome_iff_eq_none.1 hcs]

/-- Whether both texts have a free dot, and what stands on its two sides is lowered
from the one to the other, or neither has one. -/
def LowersParts : Option (List Char × List Char) → Option (List Char × List Char) →
    Prop :=
  Option.Rel fun x y => Lowers x.1 y.1 ∧ Lowers x.2 y.2

theorem LowersParts.map {x y : Option (List Char × List Char)} (h : LowersParts x y)
    {f g : List Char → List Char} (hfg : ∀ {p q}, Lowers p q → Lowers (f p) (g q)) :
    LowersParts (x.map fun (p, r) => (f p, r)) (y.map fun (p, r) => (g p, r)) := by
  cases h with
  | some h => exact .some ⟨hfg h.1, h.2⟩
  | none => exact .none

theorem splitAtDot?_lowers {cs ds : List Char} (h : Lowers cs ds) :
    LowersParts (splitAtDot? cs) (splitAtDot? ds) := by
  fun_induction splitAtDot? cs generalizing ds with
  | case1 =>
      cases h
      exact .none
  | case2 cs =>
      cases h with
      | ascii _ h => exact .some ⟨.nil, h⟩
      | beyond hc => exact absurd (by decide) hc
  | case3 c cs ih =>
      -- Whatever follows the backslash is skipped, be it one character or two.
      cases h with
      | beyond hc => exact absurd (by decide) hc
      | ascii hslash h =>
          cases h with
          | ascii hc h => exact (ih h).map fun h => .ascii hslash (.ascii hc h)
          | beyond hc hd h => exact (ih h).map fun h => .ascii hslash (.beyond hc hd h)
          | @dotted cs ds h =>
              have hmark : splitAtDot? ('\u0307' :: ds) =
                  (splitAtDot? ds).map fun (part, rest) =>
                ('\u0307' :: part, rest) := splitAtDot?_of_ne (by decide) (by decide)
              show LowersParts _ ((splitAtDot? ('\u0307' :: ds)).map _)
              rw [hmark, Option.map_map]
              exact (ih h).map fun h => .ascii hslash (.dotted h)
  | case4 c cs hdot hslash ih =>
      cases h with
      | @ascii _ _ ds hc h =>
          by_cases hc' : c = '\\'
          · -- A backslash that nothing follows is lowered to one that nothing follows.
            cases h with
            | nil =>
                subst hc'
                exact .none
            | ascii | dotted | beyond => exact absurd rfl (hslash _ _ hc')
          · have hplain : ∀ x, Caseless x → c ≠ x → c.toLower ≠ x := by
              rintro x hx hne rfl
              exact hne (Text.toLower_of_caseless_toLower hx).symm
            rw [splitAtDot?_of_ne (hplain '.' (by decide) hdot)
              (hplain '\\' (by decide) hc')]
            exact (ih h).map fun h => .ascii hc h
      | @dotted _ ds h =>
          rw [splitAtDot?_of_ne (by decide) (by decide),
            splitAtDot?_of_ne (by decide) (by decide), Option.map_map]
          exact (ih h).map fun h => .dotted h
      | @beyond _ d _ ds hc hd h =>
          have hplain : ∀ x, Caseless x → d ≠ x := by
            rintro x hx rfl
            exact Text.not_caseless_of_beyond hd hx
          rw [splitAtDot?_of_ne (hplain '.' (by decide)) (hplain '\\' (by decide))]
          exact (ih h).map fun h => .beyond hc hd h

theorem isSome_nonempty?_lowers {cs ds : List Char} (h : Lowers cs ds) :
    (nonempty? ds).isSome = (nonempty? cs).isSome := by
  rw [nonempty?, nonempty?, h.isEmpty_eq]
  split <;> rfl

theorem isSome_readAffix?_lowers (side : Affix) {cs ds : List Char} (h : Lowers cs ds) :
    (readAffix? side ds).isSome = (readAffix? side cs).isSome := by
  have hparts := splitAtDot?_lowers h
  unfold readAffix?
  generalize splitAtDot? cs = x at hparts
  generalize splitAtDot? ds = y at hparts
  cases hparts with
  | none => rfl
  | @some x y hparts =>
      simp only [Option.bind_eq_bind, Option.bind_some, int32?_lowers hparts.1]
      cases Text.int32? (String.ofList x.1) <;> rfl

theorem isSome_readMetaPair?_lowers {cs ds : List Char} (h : Lowers cs ds) :
    (readMetaPair? ds).isSome = (readMetaPair? cs).isSome := by
  have hparts := splitAtDot?_lowers h
  unfold readMetaPair?
  generalize splitAtDot? cs = x at hparts
  generalize splitAtDot? ds = y at hparts
  cases hparts with
  | none => rfl
  | @some x y hparts =>
      simp only [Option.bind_eq_bind, Option.bind_some, hparts.1.isEmpty_eq]
      split <;> rfl

theorem isSome_reader_lowers {e : String × (List Char → Option NodeKind)}
    (he : e ∈ markedKinds) {cs ds : List Char} (h : Lowers cs ds) :
    (e.2 ds).isSome = (e.2 cs).isSome := by
  simp only [markedKinds, List.mem_cons, List.not_mem_nil, or_false] at he
  rcases he with rfl | rfl | rfl | rfl | rfl | rfl | rfl
  · simp only [Option.isSome_map, isSome_nonempty?_lowers h]
  · simp only [Option.isSome_map, isSome_nonempty?_lowers h]
  · exact isSome_readAffix?_lowers .front h
  · exact isSome_readAffix?_lowers .back h
  · exact isSome_readMetaPair?_lowers h
  · simp only [int32?_lowers h]
  · simp only [Option.isSome_map, isSome_nonempty?_lowers h]

/-! ### Lowered marks -/

/-- Whether a mark is spelled so that lowering other characters cannot bring it
about: it is of ASCII characters, has no `k`, and does not end in `i`. -/
def Spelled : List Char → Prop
  | [] => True
  | m :: ms => m.toNat < 0x80 ∧ m ≠ 'k' ∧ (m = 'i' → ms ≠ []) ∧ Spelled ms

instance decidableSpelled : (ms : List Char) → Decidable (Spelled ms)
  | [] => .isTrue trivial
  | _ :: ms =>
    have := decidableSpelled ms
    inferInstanceAs (Decidable (_ ∧ _ ∧ _ ∧ _))

theorem spelled_marks : ∀ e ∈ markedKinds, Spelled e.1.toList := by decide

theorem toLower_ne_of_beyond {c m : Char} (hc : 0x80 ≤ c.toNat ∨ c = 'k')
    (hm : m.toNat < 0x80) (hk : m ≠ 'k') : c.toLower ≠ m := by
  rintro rfl
  rcases hc with hc | rfl
  · rw [Text.toLower_of_not_ascii (by omega)] at hm
    omega
  · exact hk rfl

theorem front_lowers {ms : List Char} (hms : Spelled ms) {cs ds : List Char}
    (h : Lowers cs ds) :
    ((ds.take ms.length).map Char.toLower = ms ↔
      (cs.take ms.length).map Char.toLower = ms) ∧
      ((cs.take ms.length).map Char.toLower = ms →
        Lowers (cs.drop ms.length) (ds.drop ms.length)) := by
  induction ms generalizing cs ds with
  | nil => exact ⟨Iff.rfl, fun _ => h⟩
  | cons m ms ih =>
      obtain ⟨hm, hk, hi, hms⟩ := hms
      cases h with
      | nil => exact ⟨Iff.rfl, nofun⟩
      | @ascii c cs ds hc h =>
          obtain ⟨hfront, hrest⟩ := ih hms h
          simp only [List.length_cons, List.take_succ_cons, List.drop_succ_cons,
            List.map_cons, List.cons.injEq, Text.toLower_toLower, hfront, true_and]
          exact fun hboth => hrest hboth.2
      | @dotted cs ds h =>
          have hleft :
              ¬('i' = m ∧ (('\u0307' :: ds).take ms.length).map Char.toLower = ms) := by
            rintro ⟨rfl, hfront⟩
            obtain ⟨m, rest, rfl⟩ := List.exists_cons_of_ne_nil (hi rfl)
            exact toLower_ne_of_beyond (.inl (by decide)) hms.1 hms.2.1
              (List.cons.inj hfront).1
          have hright : 'İ'.toLower ≠ m := toLower_ne_of_beyond (.inl (by decide)) hm hk
          simp only [List.length_cons, List.take_succ_cons, List.map_cons,
            List.cons.injEq, hright, false_and, false_implies, and_true, iff_false]
          exact hleft
      | @beyond c d cs ds hc hd h =>
          have hleft : d.toLower ≠ m := toLower_ne_of_beyond hd hm hk
          have hright : c.toLower ≠ m :=
            toLower_ne_of_beyond (.inl (Nat.not_lt.1 hc)) hm hk
          simp only [List.length_cons, List.take_succ_cons, List.map_cons,
            List.cons.injEq, hleft, hright, false_and, false_implies, and_true]

theorem afterMark?_lowers {mark : String} (hmark : Spelled mark.toList)
    {cs ds : List Char} (h : Lowers cs ds) :
    Option.Rel Lowers (afterMark? mark cs) (afterMark? mark ds) := by
  obtain ⟨hfront, hrest⟩ := front_lowers hmark h
  simp only [afterMark?, hfront]
  split
  · next hmarked => exact .some (hrest hmarked)
  · exact .none

/-- Lowering a text brings no mark about and takes none away. -/
theorem isSome_readMarked?_lowers {cs ds : List Char} (h : Lowers cs ds) :
    (readMarked? ds).isSome = (readMarked? cs).isSome := by
  have hread : ∀ e ∈ markedKinds,
      (afterMark? e.1 ds >>= e.2).isSome = (afterMark? e.1 cs >>= e.2).isSome := by
    intro e he
    have hrest := afterMark?_lowers (spelled_marks e he) h
    generalize afterMark? e.1 cs = x at hrest
    generalize afterMark? e.1 ds = y at hrest
    cases hrest with
    | some hrest => exact isSome_reader_lowers he hrest
    | none => rfl
  rw [Bool.eq_iff_iff, readMarked?, readMarked?, List.findSome?_isSome_iff,
    List.findSome?_isSome_iff]
  exact exists_congr fun e => and_congr_right fun he => by rw [hread e he]

theorem isSome_readMarked?_normalize (key : String) :
    (readMarked? (Text.normalize key).toList).isSome =
      (readMarked? (Text.trim key).toList).isSome := by
  rw [Text.normalize, Text.lowercase, String.toList_ofList]
  exact isSome_readMarked?_lowers (Text.lowers_lowercaseFrom [] _)

theorem map_nonempty?_eq_some {cs : List Char} {make : String → NodeKind}
    {kind : NodeKind} :
    (nonempty? cs).map make = some kind ↔ cs ≠ [] ∧ make (String.ofList cs) = kind := by
  cases cs <;> simp [nonempty?]

theorem readAffix?_eq_some {side : Affix} {rest : List Char} {kind : NodeKind} :
    readAffix? side rest = some kind ↔ ∃ number text priority,
      splitAtDot? rest = some (number, text) ∧
        Text.int32? (String.ofList number) = some priority ∧
        .affix side priority (String.ofList (unescape text)) = kind := by
  simp [readAffix?, Option.bind_eq_some_iff]

theorem readMetaPair?_eq_some {rest : List Char} {kind : NodeKind} :
    readMetaPair? rest = some kind ↔ ∃ part value,
      splitAtDot? rest = some (part, value) ∧ part ≠ [] ∧
        .metaPair (String.ofList (unescape part)) (String.ofList (unescape value)) =
          kind := by
  simp [readMetaPair?, Option.bind_eq_some_iff]

theorem exists_of_readMarked? {key : List Char} {kind : NodeKind}
    (h : readMarked? key = some kind) :
    ∃ e ∈ markedKinds, ∃ rest, afterMark? e.1 key = some rest ∧ e.2 rest = some kind := by
  obtain ⟨e, he, hread⟩ := List.exists_of_findSome?_eq_some h
  obtain ⟨rest, hrest, hkind⟩ := Option.bind_eq_some_iff.1 hread
  exact ⟨e, he, rest, hrest, hkind⟩

theorem ne_permission_of_readMarked? {key : List Char} {kind : NodeKind}
    (h : readMarked? key = some kind) (name : String) : kind ≠ .permission name := by
  obtain ⟨e, he, rest, -, hkind⟩ := exists_of_readMarked? h
  rintro rfl
  simp only [markedKinds, List.mem_cons, List.not_mem_nil, or_false] at he
  rcases he with rfl | rfl | rfl | rfl | rfl | rfl | rfl <;>
    simp [readAffix?_eq_some, readMetaPair?_eq_some] at hkind

theorem read_eq_permission_iff {name : String} :
    read name = .permission name ↔ readMarked? name.toList = none := by
  rw [read]
  cases h : readMarked? name.toList with
  | none => exact iff_of_true rfl rfl
  | some kind =>
      exact iff_of_false (ne_permission_of_readMarked? h name) (Option.some_ne_none kind)

end NodeKey

/-! ## Kinds that are turned away -/

namespace NodeKind

/-- Whether building a kind fails, with what is wrong with it. -/
def Faulty (fault : NodeError) : NodeKind → Prop
  | permission raw =>
    Text.isAllBlank raw = true ∧ .emptyPermission = fault ∨
      Text.isAllBlank raw = false ∧ (NodeKey.readMarked? (Text.trim raw).toList).isSome ∧
        .markedPermission (Text.normalize raw) = fault
  | regex pattern => Text.isAllBlank pattern = true ∧ .emptyPattern = fault
  | inheritance raw => normalName? raw = none ∧ .invalidGroup (Text.normalize raw) = fault
  | affix side _ text => text = "" ∧ .emptyAffix side = fault
  | metaPair raw _ => Text.isAllBlank raw = true ∧ .emptyMetaKey = fault
  | weight _ => False
  | displayName name => Text.isAllBlank name = true ∧ .emptyDisplayName = fault

/-- What building makes of a kind that it does not turn away. -/
def tidy : NodeKind → NodeKind
  | permission raw => permission (Text.normalize raw)
  | inheritance raw => inheritance (Text.normalize raw)
  | metaPair raw value => metaPair (Text.trim raw) value
  | kind => kind

theorem normalize_eq_error_iff {kind : NodeKind} {fault : NodeError} :
    kind.normalize = .error fault ↔ kind.Faulty fault := by
  cases kind with
  | permission raw =>
      have hname : NodeKey.read (Text.normalize raw) = permission (Text.normalize raw) ↔
          NodeKey.readMarked? (Text.trim raw).toList = none := by
        rw [NodeKey.read_eq_permission_iff, ← Option.not_isSome_iff_eq_none,
          NodeKey.isSome_readMarked?_normalize, Option.not_isSome_iff_eq_none]
      simp only [normalize, Faulty, Text.isEmpty_normalize, beq_iff_eq, hname]
      cases Text.isAllBlank raw <;> cases NodeKey.readMarked? (Text.trim raw).toList <;>
        simp
  | inheritance raw =>
      simp only [normalize, Faulty]
      cases normalName? raw <;> simp
  | regex pattern =>
      simp only [normalize, Faulty]
      cases Text.isAllBlank pattern <;> simp
  | affix side priority text =>
      simp only [normalize, Faulty, String.isEmpty_iff]
      split <;> simp [*]
  | metaPair raw value =>
      simp only [normalize, Faulty, Text.isEmpty_trim]
      cases Text.isAllBlank raw <;> simp
  | weight amount => simp [normalize, Faulty]
  | displayName name =>
      simp only [normalize, Faulty]
      cases Text.isAllBlank name <;> simp

theorem tidy_of_normalize {kind normal : NodeKind} (h : kind.normalize = .ok normal) :
    normal = kind.tidy := by
  cases kind with
  | weight amount => exact (Except.ok.inj h).symm
  | permission raw =>
      rw [normalize] at h
      split at h
      · cases h
      · split at h
        · exact (Except.ok.inj h).symm
        · cases h
  | inheritance raw =>
      rw [normalize] at h
      split at h
      · next group hname =>
        rw [tidy, normalize_of_normalName? hname]
        exact (Except.ok.inj h).symm
      · cases h
  | regex | affix | metaPair | displayName =>
      rw [normalize] at h
      split at h
      · cases h
      · exact (Except.ok.inj h).symm

end NodeKind

/-! ## Keys that are turned away -/

namespace NodeKey

/-- The stored keys that make no node, each with what is wrong with it. -/
inductive Refused (key : String) : NodeError → Prop
  | blank (hblank : Text.isAllBlank key = true) : Refused key (.blankKey key)
  | pattern {rest : List Char} (hmark : afterMark? regexMark key.toList = some rest)
      (hne : rest ≠ []) (hblank : Text.isAllBlank (String.ofList rest) = true) :
      Refused key .emptyPattern
  | group {rest : List Char} (hmark : afterMark? groupMark key.toList = some rest)
      (hne : rest ≠ []) (hname : normalName? (String.ofList rest) = none) :
      Refused key (.invalidGroup (Text.normalize (String.ofList rest)))
  /-- Nothing stands behind the number of a decoration and its dot. -/
  | affix {side : Affix} {rest number : List Char}
      (hmark : afterMark? (affixMark side) key.toList = some rest)
      (hsplit : splitAtDot? rest = some (number, []))
      (hnumber : (Text.int32? (String.ofList number)).isSome) :
      Refused key (.emptyAffix side)
  | metaPair {rest part value : List Char}
      (hmark : afterMark? metaMark key.toList = some rest)
      (hsplit : splitAtDot? rest = some (part, value)) (hne : part ≠ [])
      (hblank : Text.isAllBlank (String.ofList (unescape part)) = true) :
      Refused key .emptyMetaKey
  | displayName {rest : List Char}
      (hmark : afterMark? displayNameMark key.toList = some rest)
      (hne : rest ≠ []) (hblank : Text.isAllBlank (String.ofList rest) = true) :
      Refused key .emptyDisplayName
  /-- A key that is read as a name, but would be read otherwise without the blanks at
  its ends. -/
  | hidden (hkey : readMarked? key.toList = none)
      (hmarked : (readMarked? (Text.trim key).toList).isSome) :
      Refused key (.markedPermission (Text.normalize key))

theorem unescape_eq_nil_iff {cs : List Char} : unescape cs = [] ↔ cs = [] := by
  fun_cases unescape cs <;> simp

theorem refused_of_affix {key : String} {side : Affix} {rest : List Char}
    {kind : NodeKind} {fault : NodeError}
    (hrest : afterMark? (affixMark side) key.toList = some rest)
    (hkind : readAffix? side rest = some kind) (hfault : kind.Faulty fault) :
    Refused key fault := by
  obtain ⟨number, text, priority, hsplit, hnumber, rfl⟩ := readAffix?_eq_some.1 hkind
  obtain ⟨hempty, rfl⟩ := hfault
  have htext : text = [] := unescape_eq_nil_iff.1 (String.ofList_eq_empty_iff.1 hempty)
  rw [htext] at hsplit
  exact .affix hrest hsplit (Option.isSome_of_eq_some hnumber)

/-- What is read behind a mark and turned away was listed. -/
theorem refused_of_marked {key : String} {kind : NodeKind} {fault : NodeError}
    (hread : readMarked? key.toList = some kind) (hfault : kind.Faulty fault) :
    Refused key fault := by
  obtain ⟨e, he, rest, hrest, hkind⟩ := exists_of_readMarked? hread
  simp only [markedKinds, List.mem_cons, List.not_mem_nil, or_false] at he
  rcases he with rfl | rfl | rfl | rfl | rfl | rfl | rfl
  · obtain ⟨hne, rfl⟩ := map_nonempty?_eq_some.1 hkind
    obtain ⟨hblank, rfl⟩ := hfault
    exact .pattern hrest hne hblank
  · obtain ⟨hne, rfl⟩ := map_nonempty?_eq_some.1 hkind
    obtain ⟨hname, rfl⟩ := hfault
    exact .group hrest hne hname
  · exact refused_of_affix hrest hkind hfault
  · exact refused_of_affix hrest hkind hfault
  · obtain ⟨part, value, hsplit, hne, rfl⟩ := readMetaPair?_eq_some.1 hkind
    obtain ⟨hblank, rfl⟩ := hfault
    exact .metaPair hrest hsplit hne hblank
  · obtain ⟨priority, -, rfl⟩ := Option.map_eq_some_iff.1 hkind
    cases hfault
  · obtain ⟨hne, rfl⟩ := map_nonempty?_eq_some.1 hkind
    obtain ⟨hblank, rfl⟩ := hfault
    exact .displayName hrest hne hblank

theorem heads_visible : ∀ e ∈ markedKinds, e.1.toList.head?.any Text.isBlank = false := by
  decide

/-- What begins with a mark does not begin with a blank. -/
theorem isAllBlank_of_readMarked? {key : String} (h : (readMarked? key.toList).isSome) :
    Text.isAllBlank key = false := by
  obtain ⟨kind, hkind⟩ := Option.isSome_iff_exists.1 h
  obtain ⟨e, he, rest, hrest, -⟩ := exists_of_readMarked? hkind
  have hhead := head?_of_afterMark? (plain_marks e he) hrest
  have hvisible := heads_visible e he
  rw [Text.isAllBlank]
  cases hkey : key.toList with
  | nil =>
      rw [hkey, List.head?_nil, Option.map_none, List.head?_eq_none_iff] at hhead
      exact absurd hhead (plain_marks e he).1
  | cons c cs =>
      have hblank : Text.isBlank c = true → c.toLower = c := by
        rcases Text.toLower_cases c with ⟨hfirst, hlast, -⟩ | hself
        · have hcapital : Text.isBlank c = false :=
            Text.forall_ascii (P := fun c => 0x41 ≤ c.toNat → c.toNat ≤ 0x5A →
              Text.isBlank c = false) (by decide) (by omega) hfirst hlast
          rw [hcapital]
          exact fun h => absurd h Bool.false_ne_true
        · exact fun _ => hself
      rw [hhead, hkey] at hvisible
      have hc : Text.isBlank c.toLower = false := hvisible
      rw [List.all_cons, Bool.and_eq_false_iff]
      refine .inl (Bool.eq_false_iff.2 fun htrue => ?_)
      rw [hblank htrue, htrue] at hc
      cases hc

theorem faulty_of_marked {mark : String} {reader : List Char → Option NodeKind}
    (he : (mark, reader) ∈ markedKinds) {key : String} {rest : List Char}
    (hrest : afterMark? mark key.toList = some rest) {kind : NodeKind}
    (hkind : reader rest = some kind) {fault : NodeError} (hfault : kind.Faulty fault) :
    Text.isAllBlank key = false ∧ (read key).Faulty fault := by
  have hread : readMarked? key.toList = some kind :=
    (readMarked?_of_afterMark? he hrest).trans hkind
  refine ⟨isAllBlank_of_readMarked? (Option.isSome_of_eq_some hread), ?_⟩
  rw [read, hread]
  exact hfault

theorem faulty_of_text {mark : String} {f : String → NodeKind}
    (he : (mark, fun rest => (nonempty? rest).map f) ∈ markedKinds) {key : String}
    {rest : List Char} (hrest : afterMark? mark key.toList = some rest) (hne : rest ≠ [])
    {fault : NodeError} (hfault : (f (String.ofList rest)).Faulty fault) :
    Text.isAllBlank key = false ∧ (read key).Faulty fault :=
  faulty_of_marked he hrest (map_nonempty?_eq_some.2 ⟨hne, rfl⟩) hfault

/-- A key makes no node if it is blank, or if what it reads as is turned away. -/
theorem refused_iff {key : String} {fault : NodeError} : Refused key fault ↔
    Text.isAllBlank key = true ∧ .blankKey key = fault ∨
      Text.isAllBlank key = false ∧ (read key).Faulty fault := by
  constructor
  · intro h
    cases h with
    | blank hblank => exact .inl ⟨hblank, rfl⟩
    | pattern hrest hne hblank =>
        refine .inr (faulty_of_text (f := .regex) ?_ hrest hne ⟨hblank, rfl⟩)
        simp [markedKinds]
    | group hrest hne hname =>
        refine .inr (faulty_of_text (f := .inheritance) ?_ hrest hne ⟨hname, rfl⟩)
        simp [markedKinds]
    | @affix side rest number hrest hsplit hnumber =>
        obtain ⟨priority, hnumber⟩ := Option.isSome_iff_exists.1 hnumber
        have hkind : readAffix? side rest = some (.affix side priority "") :=
          readAffix?_eq_some.2 ⟨_, _, _, hsplit, hnumber, rfl⟩
        refine .inr (faulty_of_marked ?_ hrest hkind ⟨rfl, rfl⟩)
        cases side <;> simp [markedKinds]
    | metaPair hrest hsplit hne hblank =>
        have hkind := readMetaPair?_eq_some.2 ⟨_, _, hsplit, hne, rfl⟩
        refine .inr (faulty_of_marked ?_ hrest hkind ⟨hblank, rfl⟩)
        simp [markedKinds]
    | displayName hrest hne hblank =>
        refine .inr (faulty_of_text (f := .displayName) ?_ hrest hne ⟨hblank, rfl⟩)
        simp [markedKinds]
    | hidden hkey hmarked =>
        have hname : read key = .permission key := read_eq_permission_iff.2 hkey
        have hblank : Text.isAllBlank key = false := by
          rw [← Text.isEmpty_trim, Bool.eq_false_iff]
          intro hempty
          rw [String.isEmpty_iff.1 hempty] at hmarked
          exact absurd hmarked (by decide)
        refine .inr ⟨hblank, ?_⟩
        rw [hname]
        exact .inr ⟨hblank, hmarked, rfl⟩
  · rintro (⟨hblank, rfl⟩ | ⟨hblank, hfault⟩)
    · exact .blank hblank
    · rw [read] at hfault
      cases hread : readMarked? key.toList with
      | some kind =>
          rw [hread] at hfault
          exact refused_of_marked hread hfault
      | none =>
          rw [hread] at hfault
          obtain ⟨hempty, -⟩ | ⟨-, hmarked, rfl⟩ := hfault
          · rw [hblank] at hempty
            cases hempty
          · exact .hidden hread hmarked

end NodeKey

/-! ## Records -/

namespace Record

/-- What building makes of a record that it does not turn away. -/
def tidied (r : Record) : Node :=
  { kind := (NodeKey.read r.key).tidy, value := r.value, context := r.context,
    expiry := r.expiry }

theorem toNode_eq_map {r : Record} (h : Text.isAllBlank r.key = false) :
    r.toNode = (NodeKey.read r.key).normalize.map fun kind =>
      { kind, value := r.value, context := r.context, expiry := r.expiry } := by
  rw [toNode, h, if_neg Bool.false_ne_true]
  exact Draft.build_eq_map rfl rfl

theorem toNode_eq_error_iff {r : Record} {fault : NodeError} :
    r.toNode = .error fault ↔ NodeKey.Refused r.key fault := by
  rw [NodeKey.refused_iff]
  cases hblank : Text.isAllBlank r.key with
  | true => simp [toNode, hblank]
  | false =>
      rw [toNode_eq_map hblank, ← NodeKind.normalize_eq_error_iff]
      cases (NodeKey.read r.key).normalize <;> simp [Except.map]

theorem toNode_eq_ok {r : Record} {n : Node} (h : r.toNode = .ok n) : n = r.tidied := by
  cases hblank : Text.isAllBlank r.key with
  | true => simp [toNode, hblank] at h
  | false =>
      rw [toNode_eq_map hblank] at h
      cases hkind : (NodeKey.read r.key).normalize with
      | error fault =>
          rw [hkind] at h
          cases h
      | ok kind =>
          rw [hkind] at h
          obtain rfl := Except.ok.inj h
          rw [NodeKind.tidy_of_normalize hkind]
          rfl

theorem toNode_eq_ok_iff {r : Record} :
    r.toNode = .ok r.tidied ↔ ∀ fault, ¬NodeKey.Refused r.key fault := by
  simp only [← toNode_eq_error_iff]
  cases h : r.toNode with
  | ok n => simp [toNode_eq_ok h]
  | error fault => simp

/-- A key that is read as a name is taken for one, unless blanks hide a mark. -/
theorem toNode_of_name {r : Record} (hblank : Text.isAllBlank r.key = false)
    (hkey : NodeKey.readMarked? r.key.toList = none)
    (hshown : NodeKey.readMarked? (Text.trim r.key).toList = none) :
    r.toNode =
      .ok ⟨.permission (Text.normalize r.key), r.value, r.context, r.expiry⟩ := by
  have hread : NodeKey.read r.key = .permission r.key :=
    NodeKey.read_eq_permission_iff.2 hkey
  have htidied : r.tidied =
      ⟨.permission (Text.normalize r.key), r.value, r.context, r.expiry⟩ := by
    rw [tidied, hread, NodeKind.tidy]
  rw [← htidied, toNode_eq_ok_iff]
  intro fault hrefused
  rw [NodeKey.refused_iff, hblank, hread] at hrefused
  simp [NodeKind.Faulty, hblank, hshown] at hrefused

end Record

/-! ## Holders -/

namespace Storage

/-- What becomes of stored records, in full. A record makes no node exactly if its
key is one of those that are listed, and otherwise the node is what it reads as,
tidied up. In particular a key that is read as a name makes a permission, unless
blanks at its ends hide a mark. A holder is loaded, with one node for each record,
exactly if all its records make nodes; the first that does not is what is
reported. -/
theorem load_stored (s : Storage) (id : HolderId) :
    (∀ (r : Record) fault, r.toNode = .error fault ↔ NodeKey.Refused r.key fault) ∧
    (∀ r : Record, r.toNode = .ok r.tidied ↔ ∀ fault, ¬NodeKey.Refused r.key fault) ∧
    (∀ r : Record, Text.isAllBlank r.key = false →
      NodeKey.readMarked? r.key.toList = none →
      NodeKey.readMarked? (Text.trim r.key).toList = none →
        r.toNode =
          .ok ⟨.permission (Text.normalize r.key), r.value, r.context, r.expiry⟩) ∧
    ∀ records, s.holders.get? id = some records →
      (s.load id = .ok (some (records.map Record.tidied)) ↔
        ∀ r ∈ records, ∀ fault, ¬NodeKey.Refused r.key fault) ∧
      ∀ fault, s.load id = .error fault ↔
        ∃ before r after, records = before ++ r :: after ∧
          (∀ b ∈ before, ∀ fault, ¬NodeKey.Refused b.key fault) ∧
          NodeKey.Refused r.key fault := by
  refine ⟨fun _ _ => Record.toNode_eq_error_iff, fun _ => Record.toNode_eq_ok_iff,
    fun _ => Record.toNode_of_name, fun records hrecords => ⟨?_, fun fault => ?_⟩⟩
  · have hload : s.load id = .ok (some (records.map Record.tidied)) ↔
        records.mapM Record.toNode = .ok (records.map Record.tidied) := by
      simp only [load, hrecords]
      cases records.mapM Record.toNode <;> simp [Except.map]
    rw [hload, mapM_eq_ok_iff, List.forall₂_map_right_iff, List.forall₂_same]
    exact forall₂_congr fun r _ => Record.toNode_eq_ok_iff
  · have hload : s.load id = .error fault ↔
        records.mapM Record.toNode = .error fault := by
      simp only [load, hrecords]
      cases records.mapM Record.toNode <;> simp [Except.map]
    have hmakes : ∀ r : Record,
        (∃ n, r.toNode = .ok n) ↔ ∀ fault, ¬NodeKey.Refused r.key fault := by
      intro r
      rw [← Record.toNode_eq_ok_iff]
      exact ⟨fun ⟨n, hn⟩ => Record.toNode_eq_ok hn ▸ hn, fun hn => ⟨_, hn⟩⟩
    simp only [hload, mapM_eq_error_iff, hmakes, Record.toNode_eq_error_iff]

/-- The membership in a group whose name has a blank in it. -/
def spaced : Record :=
  { key := "group.two words", value := true, expiry := none, context := .empty }

/-- A record whose key is not blank need not make a node, and then its holder is not
loaded: here the payload behind the mark is read, and does not fall back to the name
of a permission, but names no group. -/
theorem load_spaced :
    (Text.isAllBlank spaced.key = false ∧
      spaced.toNode = .error (.invalidGroup "two words")) ∧
      ¬(∀ r : Record, Text.isAllBlank r.key = false → ∃ n, r.toNode = .ok n) ∧
      (Storage.mk (Table.empty.insert (.group "g") [spaced])).load (.group "g") =
        .error (.invalidGroup "two words") := by
  have hblank : Text.isAllBlank spaced.key = false := by decide
  have hfault : spaced.toNode = .error (.invalidGroup "two words") := by decide +kernel
  refine ⟨⟨hblank, hfault⟩, fun h => ?_, ?_⟩
  · obtain ⟨n, hn⟩ := h spaced hblank
    rw [hfault] at hn
    cases hn
  · rw [load, Table.get?_insert_self]
    show ([spaced].mapM Record.toNode).map some = _
    rw [List.mapM_cons, hfault]
    rfl

end Storage

end Clearance
