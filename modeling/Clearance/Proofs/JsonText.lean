import Clearance.Proofs.JsonDocument
import Clearance.Proofs.Numeral
import Mathlib.Data.List.Forall2
import Mathlib.Data.List.TakeWhile

/-!
# JSON read back

What a JSON value is written as, in either layout, reads as the document that
the value says (`ofJson?_pretty`, `ofJson?_compact`). The two layouts differ in
the blanks between the signs and in nothing else, so lists and tables are read
back once, for any blanks.

A text that is read inside of another one has more behind it. For numbers alone
this matters: they go on as long as digits follow (`Delimited`). The recursion
of the reader is bounded, and the length of a text is enough for all that is
nested in it.
-/

namespace Clearance

namespace Document.JsonText

open Text (isDigit digitsValue hexDigit?)

/-! ## Strings -/

/-- What is read of a character that is escaped where it has to be. -/
def unit (c : Char) : Nat ⊕ Char :=
  if c.toNat < 0x20 ∧ c ∉ ['\n', '\r', '\t', '\x08', '\x0c'] then .inl c.toNat else .inr c

theorem controlEscape_digits : ∀ n < 0x20,
    List.replicate (4 - (Nat.toDigits 16 n).length) '0' ++ Nat.toDigits 16 n =
        ['0', '0', Nat.digitChar (n / 16), Nat.digitChar (n % 16)] ∧
      hexUnit? '0' '0' (Nat.digitChar (n / 16)) (Nat.digitChar (n % 16)) = some n := by
  decide

theorem stringUnits_controlEscape {n : Nat} (hn : n < 0x20) (cs : List Char) :
    stringUnits ((Json.controlEscape n).toList ++ cs) =
      (stringUnits cs).map fun p => (.inl n :: p.1, p.2) := by
  obtain ⟨hdigits, hread⟩ := controlEscape_digits n hn
  simp only [Json.controlEscape, String.toList_append, String.reduceToList,
    String.toList_ofList, hdigits, List.cons_append, List.nil_append, stringUnits, hread,
    Option.bind_eq_bind, Option.bind_some]
  cases stringUnits cs <;> rfl

/-- A character that is not escaped stands for itself. -/
theorem stringUnits_cons {c : Char} (hquote : c ≠ '"') (hback : c ≠ '\\')
    (hplain : ¬c.toNat < 0x20) (cs : List Char) :
    stringUnits (c :: cs) = (stringUnits cs).map fun p => (.inr c :: p.1, p.2) := by
  rw [stringUnits.eq_def]
  split
  · next heq => cases heq
  · next heq => exact absurd (List.cons.inj heq).1 hquote
  · next heq => exact absurd (List.cons.inj heq).1 hback
  · next heq => exact absurd (List.cons.inj heq).1 hback
  · next heq =>
    obtain ⟨rfl, rfl⟩ := List.cons.inj heq
    simp only [if_neg hplain]
    cases stringUnits _ <;> rfl

theorem stringUnits_letter {letter c : Char} (h : escaped? letter = some c)
    (cs : List Char) :
    stringUnits ('\\' :: letter :: cs) = (stringUnits cs).map fun p =>
      (.inr c :: p.1, p.2) := by
  rw [stringUnits.eq_def]
  split
  · next heq => cases heq
  · next heq => cases heq
  · next heq =>
    obtain ⟨-, heq⟩ := List.cons.inj heq
    obtain ⟨rfl, -⟩ := List.cons.inj heq
    cases h
  · next heq =>
    obtain ⟨-, heq⟩ := List.cons.inj heq
    obtain ⟨rfl, rfl⟩ := List.cons.inj heq
    rw [h]
    cases stringUnits _ <;> rfl
  · next hback heq =>
    obtain ⟨rfl, rfl⟩ := List.cons.inj heq
    exact (hback _ _ rfl rfl).elim

theorem stringUnits_escapeChar (c : Char) (cs : List Char) :
    stringUnits ((Json.escapeChar c).toList ++ cs) =
      (stringUnits cs).map fun p => (unit c :: p.1, p.2) := by
  unfold Json.escapeChar
  split
  case h_8 hquote hback hline hreturn htab hbell hfeed =>
    split
    · next hcontrol =>
      rw [unit, if_pos ⟨hcontrol, by simp_all⟩]
      exact stringUnits_controlEscape hcontrol cs
    · next hplain =>
      rw [unit, if_neg fun h => hplain h.1, Char.toString, String.toList_singleton]
      exact stringUnits_cons hquote hback hplain cs
  all_goals exact stringUnits_letter rfl cs

theorem textOfUnits_inl {n : Nat} (hn : n < 0xD800) (units : List (Nat ⊕ Char)) :
    textOfUnits (.inl n :: units) = (textOfUnits units).map (Char.ofNat n :: ·) := by
  have hhigh : (0xD800 ≤ n && n < 0xDC00) = false := by simp; omega
  have hlow : (0xDC00 ≤ n && n < 0xE000) = false := by simp; omega
  have hboth : (0xD800 ≤ n && n < 0xE000) = false := by simp; omega
  cases units with
  | nil => simp only [textOfUnits, hboth]; rfl
  | cons u units =>
      cases u with
      | inl m => simp only [textOfUnits, hhigh, hlow]; rfl
      | inr d => simp only [textOfUnits, hboth]; rfl

theorem textOfUnits_unit (c : Char) (units : List (Nat ⊕ Char)) :
    textOfUnits (unit c :: units) = (textOfUnits units).map (c :: ·) := by
  rw [unit]
  split
  · next hcontrol =>
    rw [textOfUnits_inl (by omega), Char.ofNat_toNat]
  · rfl

/-- The characters of a string, escaped where they have to be. -/
def escaped (s : String) : List Char :=
  s.toList.flatMap fun c => (Json.escapeChar c).toList

theorem toList_quote (s : String) :
    (Json.quote s).toList = '"' :: (escaped s ++ ['"']) := by
  simp only [Json.quote, String.toList_append, String.reduceToList, String.toList_join,
    List.flatMap_map, escaped, List.cons_append, List.nil_append]

theorem stringUnits_escaped (cs rest : List Char) :
    stringUnits (cs.flatMap (fun c => (Json.escapeChar c).toList) ++ '"' :: rest) =
      some (cs.map unit, rest) := by
  induction cs with
  | nil => rfl
  | cons c cs ih =>
      rw [List.flatMap_cons, List.append_assoc, stringUnits_escapeChar, ih]
      rfl

theorem textOfUnits_map_unit (cs : List Char) : textOfUnits (cs.map unit) = some cs := by
  induction cs with
  | nil => rfl
  | cons c cs ih =>
      rw [List.map_cons, textOfUnits_unit, ih]
      rfl

theorem string?_escaped (s : String) (rest : List Char) :
    string? (escaped s ++ '"' :: rest) = some (some s, rest) := by
  rw [string?, escaped, stringUnits_escaped]
  simp only [Option.bind_eq_bind, Option.bind_some, textOfUnits_map_unit, Option.map_some,
    String.ofList_toList]

/-! ## Blanks -/

def isSpace (c : Char) : Bool := c == ' ' || c == '\n' || c == '\t' || c == '\r'

/-- Whether all characters are blanks between signs. -/
def Blanks (cs : List Char) : Prop := ∀ c ∈ cs, isSpace c = true

theorem blanks_nil : Blanks [] := fun _ hc => by cases hc

theorem skipBlanks_append {gap : List Char} (hgap : Blanks gap) (cs : List Char) :
    skipBlanks (gap ++ cs) = skipBlanks cs :=
  List.dropWhile_append_of_pos hgap

theorem skipBlanks_cons {c : Char} (hc : isSpace c = false) (cs : List Char) :
    skipBlanks (c :: cs) = c :: cs :=
  List.dropWhile_cons_of_neg (by rw [Bool.not_eq_true]; exact hc)

theorem value_gap {gap : List Char} (hgap : Blanks gap) (fuel : Nat) (cs : List Char) :
    value fuel (gap ++ cs) = value fuel cs := by
  cases fuel with
  | zero => rw [value, value]
  | succ fuel => rw [value, value, skipBlanks_append hgap]

theorem items_gap {gap : List Char} (hgap : Blanks gap) (fuel : Nat) (cs : List Char) :
    items fuel (gap ++ cs) = items fuel cs := by
  cases fuel with
  | zero => rw [items, items]
  | succ fuel => rw [items, items, value_gap hgap]

theorem entries_gap {gap : List Char} (hgap : Blanks gap) (fuel : Nat) (cs : List Char) :
    entries fuel (gap ++ cs) = entries fuel cs := by
  cases fuel with
  | zero => rw [entries, entries]
  | succ fuel => rw [entries, entries, skipBlanks_append hgap]

/-! ## Texts of documents -/

/-- Whether a character may be part of a number. -/
def isNumberChar (c : Char) : Bool := isDigit c || "+-.eE".toList.contains c

/-- Whether what follows does not go on with a number. -/
def Delimited (rest : List Char) : Prop :=
  ∀ c, rest.head? = some c → isNumberChar c = false

/-- Whether the characters are read as a document, whatever stands behind them. -/
structure Reads (cs : List Char) (d : Document) : Prop where
  starts : ∃ c rest, cs = c :: rest ∧ isSpace c = false ∧ c ≠ ']'
  value_eq : ∀ fuel rest, cs.length ≤ fuel → Delimited rest →
    value fuel (cs ++ rest) = some (d, rest)

theorem delimited_gap {gap : List Char} (hgap : Blanks gap) {c : Char}
    (hc : isNumberChar c = false) (rest : List Char) : Delimited (gap ++ c :: rest) := by
  intro d hd
  cases gap with
  | nil => exact Option.some.inj hd ▸ hc
  | cons b gap =>
      obtain rfl := Option.some.inj hd
      have hb := hgap b List.mem_cons_self
      simp only [isSpace, Bool.or_eq_true, beq_iff_eq] at hb
      rcases hb with ((rfl | rfl) | rfl) | rfl <;> rfl

theorem Reads.length_pos {cs : List Char} {d : Document} (h : Reads cs d) :
    0 < cs.length := by
  obtain ⟨c, rest, rfl, -⟩ := h.starts
  exact Nat.succ_pos _

theorem delimited_comma (rest : List Char) : Delimited (',' :: rest) :=
  delimited_gap blanks_nil rfl rest

/-! ## Lists -/

theorem items_close {last cs rest : List Char} (hlast : Blanks last) {fuel : Nat}
    {d : Document} (h : value fuel cs = some (d, last ++ ']' :: rest)) :
    items (fuel + 1) cs = some ([d], rest) := by
  rw [items, h]
  simp only [Option.bind_eq_bind, Option.bind_some, skipBlanks_append hlast]
  rfl

theorem items_comma {cs more rest : List Char} {fuel : Nat} {d : Document}
    {ds : List Document} (h : value fuel cs = some (d, ',' :: more))
    (hmore : items fuel more = some (ds, rest)) :
    items (fuel + 1) cs = some (d :: ds, rest) := by
  rw [items, h]
  show (items fuel more).bind _ = _
  rw [hmore]
  rfl

/-- Items with commas between them are read one by one. -/
theorem items_intercalate {gap last : List Char} (hgap : Blanks gap) (hlast : Blanks last)
    {texts : List (List Char)} {docs : List Document} (h : List.Forall₂ Reads texts docs)
    (hne : texts ≠ []) (fuel : Nat) (rest : List Char)
    (hfuel : ((',' :: gap).intercalate texts).length < fuel) :
    items fuel ((',' :: gap).intercalate texts ++ (last ++ ']' :: rest)) =
      some (docs, rest) := by
  induction h generalizing fuel with
  | nil => exact absurd rfl hne
  | @cons text d texts docs hread htail ih =>
      have hpos := hread.length_pos
      obtain ⟨fuel, rfl⟩ : ∃ f, fuel = f + 1 := ⟨fuel - 1, by omega⟩
      cases htail with
      | nil =>
          rw [List.intercalate_singleton] at hfuel ⊢
          exact items_close hlast
            (hread.value_eq fuel _ (by omega) (delimited_gap hlast rfl rest))
      | cons hread' htail =>
          rw [List.intercalate_cons_cons] at hfuel ⊢
          simp only [List.length_append, List.length_cons] at hfuel
          rw [List.append_assoc, List.append_assoc, List.cons_append]
          refine items_comma (hread.value_eq fuel _ (by omega) (delimited_comma _)) ?_
          rw [items_gap hgap]
          exact ih (List.cons_ne_nil _ _) fuel (by omega)

theorem value_open {cs rest gap : List Char} {c : Char} (hc : isSpace c = false)
    (hclose : c ≠ ']') {fuel : Nat} {ds : List Document} (hgap : Blanks gap)
    (h : items fuel (c :: cs) = some (ds, rest)) :
    value (fuel + 1) ('[' :: (gap ++ c :: cs)) = some (.list ds, rest) := by
  have hskip : skipBlanks (gap ++ c :: cs) = c :: cs := by
    rw [skipBlanks_append hgap, skipBlanks_cons hc]
  rw [value, skipBlanks_cons (show isSpace '[' = false from rfl)]
  simp only [hskip]
  split
  · next heq => exact absurd (List.cons.inj heq).1 hclose
  · rw [h]
    rfl

theorem intercalate_cons_cons_eq {separator cs : List Char} {c : Char}
    {texts : List (List Char)} :
    ∃ rest, separator.intercalate ((c :: cs) :: texts) = c :: rest := by
  cases texts with
  | nil => exact ⟨cs, List.intercalate_singleton⟩
  | cons text texts =>
      rw [List.intercalate_cons_cons]
      exact ⟨_, rfl⟩

/-- A list reads back, if each of its items does. -/
theorem reads_list {gap last : List Char} (hgap : Blanks gap) (hlast : Blanks last)
    {texts : List (List Char)} {docs : List Document} (h : List.Forall₂ Reads texts docs)
    (hne : texts ≠ []) :
    Reads ('[' :: (gap ++ ((',' :: gap).intercalate texts ++ (last ++ [']']))))
      (.list docs) where
  starts := ⟨_, _, rfl, rfl, by decide⟩
  value_eq fuel rest hfuel hrest := by
    simp only [List.length_append, List.length_cons] at hfuel
    obtain ⟨fuel, rfl⟩ : ∃ f, fuel = f + 1 := ⟨fuel - 1, by omega⟩
    have hitems := items_intercalate hgap hlast h hne fuel rest (by omega)
    cases h with
    | nil => exact absurd rfl hne
    | cons hread htail =>
        obtain ⟨c, cs, rfl, hc, hclose⟩ := hread.starts
        obtain ⟨tail, htexts⟩ := intercalate_cons_cons_eq
        rw [htexts] at hitems ⊢
        simp only [List.cons_append, List.append_assoc, List.nil_append] at hitems ⊢
        exact value_open hc hclose hgap hitems

theorem reads_nil_list : Reads ['[', ']'] (.list []) where
  starts := ⟨_, _, rfl, rfl, by decide⟩
  value_eq fuel rest hfuel _ := by
    cases fuel with
    | zero => cases hfuel
    | succ fuel => rfl

/-! ## Tables -/

/-- Whether the characters are read as the row of a table. -/
def ReadsRow (cs : List Char) (row : Option String × Document) : Prop :=
  ∃ key gap text, cs = (Json.quote key).toList ++ ':' :: (gap ++ text) ∧
    row.1 = some key ∧ Blanks gap ∧ Reads text row.2

theorem entries_close {last cs rest : List Char} {key : String} (hlast : Blanks last)
    {fuel : Nat} {d : Document} (h : value fuel cs = some (d, last ++ '\x7d' :: rest)) :
    entries (fuel + 1) ((Json.quote key).toList ++ ':' :: cs) =
      some ([(some key, d)], rest) := by
  rw [entries, toList_quote, List.cons_append,
    skipBlanks_cons (show isSpace '"' = false from rfl)]
  simp only [List.append_assoc, List.cons_append, List.nil_append, string?_escaped,
    skipBlanks_cons (show isSpace ':' = false from rfl), Option.bind_eq_bind,
    Option.bind_some, h, skipBlanks_append hlast]
  rfl

theorem entries_comma {cs more rest : List Char} {key : String} {fuel : Nat}
    {d : Document} {rows : List (Option String × Document)}
    (h : value fuel cs = some (d, ',' :: more))
    (hmore : entries fuel more = some (rows, rest)) :
    entries (fuel + 1) ((Json.quote key).toList ++ ':' :: cs) =
      some ((some key, d) :: rows, rest) := by
  rw [entries, toList_quote, List.cons_append,
    skipBlanks_cons (show isSpace '"' = false from rfl)]
  simp only [List.append_assoc, List.cons_append, List.nil_append, string?_escaped,
    skipBlanks_cons (show isSpace ':' = false from rfl),
    skipBlanks_cons (show isSpace ',' = false from rfl), Option.bind_eq_bind,
    Option.bind_some, h, hmore]

/-- Rows with commas between them are read one by one. -/
theorem entries_intercalate {gap last : List Char} (hgap : Blanks gap)
    (hlast : Blanks last) {texts : List (List Char)}
    {rows : List (Option String × Document)}
    (h : List.Forall₂ ReadsRow texts rows) (hne : texts ≠ []) (fuel : Nat)
    (rest : List Char)
    (hfuel : ((',' :: gap).intercalate texts).length < fuel) :
    entries fuel ((',' :: gap).intercalate texts ++ (last ++ '\x7d' :: rest)) =
      some (rows, rest) := by
  induction h generalizing fuel with
  | nil => exact absurd rfl hne
  | @cons _ row texts rows hread htail ih =>
      obtain ⟨key, colon, text, rfl, hkey, hcolon, hread⟩ := hread
      obtain ⟨name, d⟩ := row
      obtain rfl : name = some key := hkey
      have hpos := hread.length_pos
      obtain ⟨fuel, rfl⟩ : ∃ f, fuel = f + 1 := ⟨fuel - 1, by omega⟩
      cases htail with
      | nil =>
          rw [List.intercalate_singleton] at hfuel ⊢
          simp only [List.length_append, List.length_cons] at hfuel
          rw [List.append_assoc, List.cons_append, List.append_assoc]
          exact entries_close hlast ((value_gap hcolon fuel _).trans
            (hread.value_eq fuel _ (by omega) (delimited_gap hlast rfl rest)))
      | cons hread' htail =>
          rw [List.intercalate_cons_cons] at hfuel ⊢
          simp only [List.length_append, List.length_cons] at hfuel
          simp only [List.append_assoc, List.cons_append]
          refine entries_comma ((value_gap hcolon fuel _).trans
            (hread.value_eq fuel _ (by omega) (delimited_comma _))) ?_
          rw [entries_gap hgap]
          exact ih (List.cons_ne_nil _ _) fuel (by omega)

theorem value_brace {cs rest : List Char} {fuel : Nat}
    {rows : List (Option String × Document)} {gap : List Char} (hgap : Blanks gap)
    (h : entries fuel ('"' :: cs) = some (rows, rest)) :
    value (fuel + 1) ('\x7b' :: (gap ++ '"' :: cs)) =
      some (.table rows (unitName rows), rest) := by
  have hskip : skipBlanks (gap ++ '"' :: cs) = '"' :: cs := by
    rw [skipBlanks_append hgap, skipBlanks_cons rfl]
  rw [value, skipBlanks_cons (show isSpace '\x7b' = false from rfl)]
  simp only [hskip]
  show (entries fuel ('"' :: cs)).bind _ = _
  rw [h]
  rfl

/-- A table reads back, if each of its rows does. -/
theorem reads_table {gap last : List Char} (hgap : Blanks gap) (hlast : Blanks last)
    {texts : List (List Char)} {rows : List (Option String × Document)}
    (h : List.Forall₂ ReadsRow texts rows) (hne : texts ≠ []) :
    Reads ('\x7b' :: (gap ++ ((',' :: gap).intercalate texts ++ (last ++ ['\x7d']))))
      (.table rows (unitName rows)) where
  starts := ⟨_, _, rfl, rfl, by decide⟩
  value_eq fuel rest hfuel hrest := by
    simp only [List.length_append, List.length_cons] at hfuel
    obtain ⟨fuel, rfl⟩ : ∃ f, fuel = f + 1 := ⟨fuel - 1, by omega⟩
    have hentries := entries_intercalate hgap hlast h hne fuel rest (by omega)
    cases h with
    | nil => exact absurd rfl hne
    | cons hread htail =>
        obtain ⟨key, colon, text, rfl, -⟩ := hread
        have hquote : (Json.quote key).toList ++ ':' :: (colon ++ text) =
            '"' :: (escaped key ++ ['"'] ++ ':' :: (colon ++ text)) := by
          rw [toList_quote, List.cons_append]
        rw [hquote] at hentries ⊢
        obtain ⟨tail, htexts⟩ := intercalate_cons_cons_eq
        rw [htexts] at hentries ⊢
        simp only [List.cons_append, List.append_assoc, List.nil_append] at hentries ⊢
        exact value_brace hgap hentries

theorem reads_nil_table : Reads ['\x7b', '\x7d'] (.table [] none) where
  starts := ⟨_, _, rfl, rfl, by decide⟩
  value_eq fuel rest hfuel _ := by
    cases fuel with
    | zero => cases hfuel
    | succ fuel => rfl

/-! ## Scalars -/

theorem reads_quote (s : String) :
    Reads (Json.quote s).toList (.scalar { text := some s, name := some s }) where
  starts := ⟨_, _, toList_quote s, rfl, by decide⟩
  value_eq fuel rest hfuel _ := by
    rw [toList_quote] at hfuel ⊢
    cases fuel with
    | zero => cases hfuel
    | succ fuel =>
        rw [value, List.cons_append, skipBlanks_cons (show isSpace '"' = false from rfl)]
        simp only [List.append_assoc, List.cons_append, List.nil_append, string?_escaped,
          Option.bind_eq_bind, Option.bind_some]

theorem reads_null : Reads "null".toList (.scalar { isNull := true }) where
  starts := ⟨_, _, rfl, rfl, by decide⟩
  value_eq fuel rest hfuel _ := by
    cases fuel with
    | zero => cases hfuel
    | succ fuel => rfl

theorem reads_bool (b : Bool) :
    Reads (if b then "true" else "false").toList (.scalar { truth := some b }) where
  starts := by cases b <;> exact ⟨_, _, rfl, rfl, by decide⟩
  value_eq fuel rest hfuel _ := by
    cases fuel with
    | zero => cases b <;> cases hfuel
    | succ fuel => cases b <;> rfl

/-! ### Numbers -/

theorem head?_toDigits {n : Nat} (hn : n ≠ 0) : (Nat.toDigits 10 n).head? ≠ some '0' := by
  induction n using Nat.strongRecOn with
  | ind n ih =>
      rw [Nat.toDigits_eq_if (by decide)]
      split
      · next hlt =>
        have hdigit : ∀ d < 10, d ≠ 0 → Nat.digitChar d ≠ '0' := by decide
        intro h
        exact hdigit n hlt hn (Option.some.inj h)
      · next hge =>
        rw [List.head?_append_of_ne_nil _ Nat.toDigits_ne_nil]
        exact ih (n / 10) (by omega) (by omega)

/-- Digits that do not begin with a needless zero are a number, with or without
a sign. -/
theorem number?_toDigits (n : Nat) :
    number? (Nat.toDigits 10 n) =
        some (if UInt64.size ≤ n then {} else { count := some n }) ∧
      number? ('-' :: Nat.toDigits 10 n) = some {} := by
  have hall : ∀ c ∈ Nat.toDigits 10 n, isDigit c = true :=
    fun _ => Text.isDigit_of_mem_toDigits
  have hvalue : digitsValue (Nat.toDigits 10 n) = n := Nat.ofDigitChars_ten_toDigits
  have htake : (Nat.toDigits 10 n).takeWhile isDigit = Nat.toDigits 10 n :=
    List.takeWhile_eq_self_iff.2 hall
  have hdrop : (Nat.toDigits 10 n).dropWhile isDigit = [] :=
    List.dropWhile_eq_nil_iff.2 hall
  have hempty : (Nat.toDigits 10 n).isEmpty = false :=
    List.isEmpty_eq_false_iff.2 Nat.toDigits_ne_nil
  have hlead :
      ((Nat.toDigits 10 n).head? == some '0' && (Nat.toDigits 10 n).length != 1) =
        false := by
    by_cases hn : n = 0
    · subst hn
      rfl
    · rw [beq_eq_false_iff_ne.2 (head?_toDigits hn), Bool.false_and]
  have htail : isNumberTail [] = true := rfl
  refine ⟨?_, ?_⟩
  · unfold number?
    split
    next negative cs heq =>
    have hplain : (negative, cs) = (false, Nat.toDigits 10 n) := by
      rw [← heq]
      split
      · next hminus =>
        exact absurd (hall '-' (hminus ▸ List.mem_cons_self)) (by decide)
      · rfl
    obtain ⟨rfl, rfl⟩ := Prod.mk.inj hplain
    simp only [htake, hdrop, hempty, hlead, htail, hvalue, Bool.false_or, Bool.not_true,
      Bool.false_eq_true, if_false, List.isEmpty_nil, decide_eq_true_eq]
    split <;> rfl
  · simp only [number?, htake, hdrop, hempty, hlead, htail, Bool.false_or, Bool.not_true,
      Bool.false_eq_true, if_false, Bool.true_or, if_true]

theorem number?_decimal (n : Int) :
    number? (Text.decimal n).toList = some (Json.numeral n) := by
  rw [Text.toList_decimal, Json.numeral]
  split
  · rw [(number?_toDigits _).2, if_neg (by omega)]
  · rw [(number?_toDigits _).1]
    by_cases hfits : UInt64.size ≤ n.natAbs
    · rw [if_pos hfits, if_neg (by omega)]
    · rw [if_neg hfits, if_pos (by omega), show n.natAbs = n.toNat by omega]

theorem isNumberChar_of_mem_decimal {n : Int} {c : Char}
    (h : c ∈ (Text.decimal n).toList) :
    isNumberChar c = true := by
  rcases Text.mem_decimal h with rfl | hdigit
  · rfl
  · rw [isNumberChar, hdigit, Bool.true_or]

theorem isNumberChar_ne {c d : Char} (h : isNumberChar c = true)
    (hd : isNumberChar d = false) :
    c ≠ d := by
  rintro rfl
  rw [h] at hd
  cases hd

theorem isSpace_of_isNumberChar {c : Char} (h : isNumberChar c = true) :
    isSpace c = false := by
  have hblank := isNumberChar_ne (d := ' ') h rfl
  have hline := isNumberChar_ne (d := '\n') h rfl
  have htab := isNumberChar_ne (d := '\t') h rfl
  have hreturn := isNumberChar_ne (d := '\r') h rfl
  simp [isSpace, hblank, hline, htab, hreturn]

theorem value_number {c : Char} (hc : isNumberChar c = true) (fuel : Nat)
    (cs : List Char) :
    value (fuel + 1) (c :: cs) = (number? ((c :: cs).takeWhile isNumberChar)).map fun s =>
      (.scalar s, (c :: cs).dropWhile isNumberChar) := by
  rw [value, skipBlanks_cons (isSpace_of_isNumberChar hc)]
  have hletter : ∀ d : Char, isNumberChar d = false → c ≠ d := fun d => isNumberChar_ne hc
  split
  case h_7 =>
    change (number? ((c :: cs).takeWhile isNumberChar)).bind _ = _
    cases number? ((c :: cs).takeWhile isNumberChar) <;> rfl
  -- Every other case is for a character that no number has.
  all_goals
    next heq => exact absurd (List.cons.inj heq).1 (hletter _ rfl)

theorem reads_decimal (n : Int) :
    Reads (Text.decimal n).toList (.scalar (Json.numeral n)) := by
  have hchars : ∀ c ∈ (Text.decimal n).toList, isNumberChar c = true :=
    fun _ => isNumberChar_of_mem_decimal
  have hread := number?_decimal n
  cases htext : (Text.decimal n).toList with
  | nil =>
      rw [htext] at hread
      cases hread
  | cons c cs =>
      rw [htext] at hchars hread
      have hc : isNumberChar c = true := hchars c List.mem_cons_self
      refine ⟨⟨c, cs, rfl, isSpace_of_isNumberChar hc, isNumberChar_ne hc rfl⟩, ?_⟩
      intro fuel rest hfuel hrest
      rw [List.length_cons] at hfuel
      obtain ⟨fuel, rfl⟩ : ∃ f, fuel = f + 1 := ⟨fuel - 1, by omega⟩
      obtain ⟨htake, hdrop⟩ := Text.takeWhile_run hchars hrest
      rw [List.cons_append] at htake hdrop ⊢
      rw [value_number hc, htake, hdrop, hread]
      rfl

/-! ## Layouts -/

theorem blanks_inner {indent : String} (hindent : Blanks indent.toList) :
    Blanks ("\n" ++ indent ++ "  ").toList := by
  intro c hc
  simp only [String.toList_append, String.reduceToList, List.mem_append, List.mem_cons,
    List.not_mem_nil, or_false] at hc
  rcases hc with (rfl | hc) | rfl | rfl
  · rfl
  · exact hindent c hc
  · rfl
  · rfl

theorem blanks_line {indent : String} (hindent : Blanks indent.toList) :
    Blanks ('\n' :: indent.toList) := by
  intro c hc
  rcases List.mem_cons.1 hc with rfl | hc
  · rfl
  · exact hindent c hc

theorem toList_bracketed {opening closing indent : String} {lines : List String}
    (hlines : lines ≠ []) :
    (Json.bracketed opening closing indent lines).toList =
      opening.toList ++ (("\n" ++ indent ++ "  ").toList ++
        ((',' :: ("\n" ++ indent ++ "  ").toList).intercalate (lines.map String.toList) ++
          ('\n' :: indent.toList ++ closing.toList))) := by
  rw [Json.bracketed, if_neg (by rwa [List.isEmpty_iff])]
  simp only [String.toList_append, String.toList_intercalate, String.reduceToList,
    List.append_assoc, List.cons_append, List.nil_append]

theorem reads_bracketed_list {indent : String} (hindent : Blanks indent.toList)
    {lines : List String} {docs : List Document}
    (h : List.Forall₂ Reads (lines.map String.toList) docs) :
    Reads (Json.bracketed "[" "]" indent lines).toList (.list docs) := by
  cases lines with
  | nil =>
      cases h
      rw [Json.bracketed, if_pos List.isEmpty_nil, String.toList_append]
      exact reads_nil_list
  | cons line lines =>
      rw [toList_bracketed (List.cons_ne_nil _ _)]
      exact reads_list (blanks_inner hindent) (blanks_line hindent) h
        (List.cons_ne_nil _ _)

theorem reads_bracketed_table {indent : String} (hindent : Blanks indent.toList)
    {lines : List String} {rows : List (Option String × Document)}
    (h : List.Forall₂ ReadsRow (lines.map String.toList) rows) :
    Reads (Json.bracketed "\x7b" "\x7d" indent lines).toList
      (.table rows (unitName rows)) := by
  cases lines with
  | nil =>
      cases h
      rw [Json.bracketed, if_pos List.isEmpty_nil, String.toList_append]
      exact reads_nil_table
  | cons line lines =>
      rw [toList_bracketed (List.cons_ne_nil _ _)]
      exact reads_table (blanks_inner hindent) (blanks_line hindent) h
        (List.cons_ne_nil _ _)

theorem blanks_deeper {indent : String} (hindent : Blanks indent.toList) :
    Blanks (indent ++ "  ").toList := by
  intro c hc
  rw [String.toList_append] at hc
  rcases List.mem_append.1 hc with hc | hc
  · exact hindent c hc
  · have hspace : c = ' ' := by simpa using hc
    rw [hspace]
    rfl

theorem readsRow_member {key : String} {gap text cs : List Char} {d : Document}
    (hgap : Blanks gap) (hcs : cs = (Json.quote key).toList ++ ':' :: (gap ++ text))
    (h : Reads text d) : ReadsRow cs (some key, d) :=
  ⟨key, gap, text, hcs, rfl, hgap, h⟩

mutual

theorem reads_indented (indent : String) (hindent : Blanks indent.toList) :
    ∀ j : Json, Reads (j.indented indent).toList j.document
  | .null => reads_null
  | .bool b => reads_bool b
  | .num n => reads_decimal n
  | .str s => reads_quote s
  | .arr items =>
    reads_bracketed_list hindent (reads_indentedItems _ (blanks_deeper hindent) items)
  | .obj members =>
    reads_bracketed_table hindent
      (reads_indentedMembers _ (blanks_deeper hindent) members)

theorem reads_indentedItems (indent : String) (hindent : Blanks indent.toList) :
    ∀ items : List Json, List.Forall₂ Reads
      ((Json.indentedItems indent items).map String.toList) (Json.documents items)
  | [] => .nil
  | j :: rest =>
      .cons (reads_indented indent hindent j) (reads_indentedItems indent hindent rest)

theorem reads_indentedMembers (indent : String) (hindent : Blanks indent.toList) :
    ∀ members : List (String × Json), List.Forall₂ ReadsRow
      ((Json.indentedMembers indent members).map String.toList) (Json.rows members)
  | [] => .nil
  | (k, j) :: rest =>
    .cons (readsRow_member (show Blanks [' '] by simp [Blanks, isSpace])
        (by simp only [String.toList_append, String.reduceToList, List.append_assoc,
              List.cons_append, List.nil_append])
        (reads_indented indent hindent j))
      (reads_indentedMembers indent hindent rest)

end

theorem reads_bare_list {texts : List String} {docs : List Document}
    (h : List.Forall₂ Reads (texts.map String.toList) docs) :
    Reads ("[" ++ String.intercalate "," texts ++ "]").toList (.list docs) := by
  simp only [String.toList_append, String.toList_intercalate, String.reduceToList,
    List.cons_append, List.nil_append]
  cases texts with
  | nil =>
      cases h
      exact reads_nil_list
  | cons text texts =>
      exact reads_list blanks_nil blanks_nil h (List.cons_ne_nil _ _)

theorem reads_bare_table {texts : List String} {rows : List (Option String × Document)}
    (h : List.Forall₂ ReadsRow (texts.map String.toList) rows) :
    Reads ("\x7b" ++ String.intercalate "," texts ++ "\x7d").toList
      (.table rows (unitName rows)) := by
  simp only [String.toList_append, String.toList_intercalate, String.reduceToList,
    List.cons_append, List.nil_append]
  cases texts with
  | nil =>
      cases h
      exact reads_nil_table
  | cons text texts =>
      exact reads_table blanks_nil blanks_nil h (List.cons_ne_nil _ _)

mutual

theorem reads_compact : ∀ j : Json, Reads j.compact.toList j.document
  | .null => reads_null
  | .bool b => reads_bool b
  | .num n => reads_decimal n
  | .str s => reads_quote s
  | .arr items => reads_bare_list (reads_compactItems items)
  | .obj members => reads_bare_table (reads_compactMembers members)

theorem reads_compactItems : ∀ items : List Json, List.Forall₂ Reads
    ((Json.compactItems items).map String.toList) (Json.documents items)
  | [] => .nil
  | j :: rest => .cons (reads_compact j) (reads_compactItems rest)

theorem reads_compactMembers : ∀ members : List (String × Json), List.Forall₂ ReadsRow
    ((Json.compactMembers members).map String.toList) (Json.rows members)
  | [] => .nil
  | (k, j) :: rest =>
    .cons (readsRow_member blanks_nil
        (by simp only [String.toList_append, String.reduceToList, List.append_assoc,
              List.cons_append, List.nil_append])
        (reads_compact j))
      (reads_compactMembers rest)

end

end JsonText

/-! ## Whole texts -/

theorem ofJson?_of_reads {s : String} {d : Document} (h : JsonText.Reads s.toList d) :
    ofJson? s = some d := by
  have hread :=
    h.value_eq (2 * s.toList.length + 1) [] (by omega) (fun _ hc => by cases hc)
  rw [List.append_nil] at hread
  rw [ofJson?]
  simp only [hread, Option.bind_eq_bind, Option.bind_some]
  rfl

theorem ofJson?_pretty (j : Json) : ofJson? j.pretty = some j.document :=
  ofJson?_of_reads (JsonText.reads_indented "" JsonText.blanks_nil j)

theorem ofJson?_compact (j : Json) : ofJson? j.compact = some j.document :=
  ofJson?_of_reads (JsonText.reads_compact j)

end Document

end Clearance
