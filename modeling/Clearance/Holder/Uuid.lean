import Clearance.Sorted
import Clearance.Text.Front
import Clearance.Text.Numeral

/-!
# Universally unique identifiers

Users are told apart by numbers of 128 bits. Such a number is written as 32
hexadecimal digits in lower case, in groups of 8, 4, 4, 4 and 12 with hyphens
between them. It is read in either case, with its hyphens or without any; with
hyphens, it may also stand in braces or behind `urn:uuid:`.
-/

namespace Clearance

/-- A universally unique identifier. -/
structure Uuid where
  bits : BitVec 128
deriving DecidableEq, Repr, Inhabited

namespace Uuid

instance : LT Uuid := ⟨fun a b => a.bits < b.bits⟩

instance : DecidableLT Uuid := fun a b => inferInstanceAs (Decidable (a.bits < b.bits))

instance : StrictOrder Uuid where
  irrefl a := BitVec.lt_irrefl a.bits
  trans := BitVec.lt_trans
  connected {a b} h₁ h₂ := by
    have : a.bits = b.bits := BitVec.le_antisymm (BitVec.not_lt.1 h₂) (BitVec.not_lt.1 h₁)
    cases a
    cases b
    simp_all

/-- The last `count` hexadecimal digits of a number. -/
def hexDigits : Nat → Nat → List Char
  | 0, _ => []
  | count + 1, n => hexDigits count (n / 16) ++ [Nat.digitChar (n % 16)]

def text (u : Uuid) : String :=
  let ds := hexDigits 32 u.bits.toNat
  String.ofList (ds.take 8 ++ '-' :: (ds.drop 8).take 4 ++ '-' :: (ds.drop 12).take 4 ++
    '-' :: (ds.drop 16).take 4 ++ '-' :: ds.drop 20)

def ofDigits? (cs : List Char) : Option Uuid := do
  let ds ← cs.mapM Text.hexDigit?
  if ds.length = 32 then some ⟨BitVec.ofNat 128 (ds.foldl (fun n d => 16 * n + d) 0)⟩
  else none

/-- Reads digits with hyphens after the 8th, 12th, 16th and 20th. -/
def ofHyphenated? (cs : List Char) : Option Uuid :=
  if cs.length = 36 && [8, 13, 18, 23].all fun i => cs[i]? == some '-' then
    ofDigits? (cs.take 8 ++ (cs.drop 9).take 4 ++ (cs.drop 14).take 4 ++
      (cs.drop 19).take 4 ++ cs.drop 24)
  else none

def parse? (s : String) : Option Uuid :=
  let cs := s.toList
  if cs.length = 32 then ofDigits? cs
  else if cs.length = 36 then ofHyphenated? cs
  else if cs.length = 38 && cs.head? == some '\x7b' && cs.getLast? == some '\x7d' then
    ofHyphenated? (cs.drop 1).dropLast
  else Text.afterFront? "urn:uuid:" cs >>= ofHyphenated?

end Uuid

end Clearance
