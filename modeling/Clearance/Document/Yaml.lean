import Clearance.Document
import Clearance.Document.Yaml.Token

/-!
# Reading YAML documents

The tokens of a text make one document. A scalar without quotes is a text, and a
number, a truth value or nothing as well if it looks like one; a scalar in
quotes is a text only. A node can be given a name once and stand in other places
by that name, so the names given so far are carried along.

The recursion is bounded by the number of tokens: at most three steps lead from
the token of one collection to that of the next one inside it, so three times
that number, with three steps to spare, is never used up.
-/

namespace Clearance.Document

namespace Yaml

/-! ### Readings of scalars -/

/-- The digits of a numeral, in the base that its front tells. -/
def numeralBase : List Char → Nat × List Char
  | '0' :: 'x' :: ds => (16, ds)
  | '0' :: 'o' :: ds => (8, ds)
  | '0' :: 'b' :: ds => (2, ds)
  | ds => (10, ds)

def digitsInBase? (base : Nat) (ds : List Char) : Option Nat :=
  if ds.isEmpty then none
  else ds.foldlM (fun n c => (Text.hexDigit? c).bind fun d =>
    if d < base then some (base * n + d) else none) 0

/-- The natural number that a plain scalar writes: decimal digits without zeros
in front, or the digits of another base, with a plus sign or without, if the
number fits into 64 bits. -/
def natural? (cs : List Char) : Option Nat := do
  let cs := if cs.head? == some '+' then cs.drop 1 else cs
  if cs.head? == some '0' && 1 < cs.length && cs.all Text.isDigit then none
  else
    let (base, ds) := numeralBase cs
    let n ← digitsInBase? base ds
    if n < UInt64.size then some n else none

def truthWord? (word : String) : Option Bool :=
  if ["true", "True", "TRUE"].contains word then some true
  else if ["false", "False", "FALSE"].contains word then some false
  else none

/-- Whether a plain scalar writes that there is nothing. -/
def isNullWord (word : String) : Bool := ["", "~", "null", "Null", "NULL"].contains word

/-- The tags of the notation itself begin with this. -/
def standardTags : String := "tag:yaml.org,2002:"

/-- The name that a tag of the document's own gives. -/
def ownName? (tag : Option String) : Option String :=
  match tag.map String.toList with
  | some ('!' :: name) => some (String.ofList name)
  | _ => none

/-- The readings of a scalar. A tag of the document's own names what it is put
on, which then must say nothing else. -/
def scalarOf (tag : Option String) (style : ScalarStyle) (text : String) : Scalar :=
  let tag := tag.filter (· != "!")
  let isPlain := style == .plain
  let isNothing := isPlain && isNullWord text
  let isTagged (name : String) : Bool :=
    style == .literal && tag == some (standardTags ++ name)
  { text := some text
    count := if isPlain || isTagged "int" then natural? text.toList else none
    truth := if isPlain || isTagged "bool" then truthWord? text else none
    isNull := isNothing && tag.all (· == standardTags ++ "null")
    name := match ownName? tag with
      | some name => if isNothing then some name else none
      | none => some text
    isVoid := isPlain && text.isEmpty }

def missing : Document := .scalar (scalarOf none .plain "")

/-! ### Nodes -/

/-- The tokens ahead, and what is known from those behind. -/
structure Feed where
  tokens : List Token
  /-- The nodes that have names, the last one first. -/
  anchors : List (String × Document) := []
  /-- What the handles of tags stand for. -/
  handles : List (String × String) := []

def Feed.next (f : Feed) : Feed := { f with tokens := f.tokens.drop 1 }

/-- The feed in which a node has a name, if it is given one. -/
def Feed.naming (f : Feed) (name : Option String) (d : Document) : Feed :=
  match name with
  | some name => { f with anchors := (name, d) :: f.anchors }
  | none => f

def Feed.sees (f : Feed) (p : Token → Bool) : Bool := f.tokens.head?.any p

def Feed.tag? (f : Feed) (handle suffix : String) : Option String :=
  if handle.isEmpty then some suffix
  else (f.handles.lookup handle).map (· ++ suffix)

/-- The name and the tag before a node, in either order, and the feed after them. -/
def Feed.properties (f : Feed) : Option (Option String × Option String × Feed) :=
  match f.tokens with
  | .anchor name :: .tag handle suffix :: tokens
  | .tag handle suffix :: .anchor name :: tokens =>
    (f.tag? handle suffix).map fun tag => (some name, some tag, { f with tokens })
  | .anchor name :: tokens => some (some name, none, { f with tokens })
  | .tag handle suffix :: tokens =>
    (f.tag? handle suffix).map fun tag => (none, some tag, { f with tokens })
  | _ => some (none, none, f)

/-- Whether no node begins with the token, in a block list. -/
def endsItem (t : Token) : Bool := t == .item || t == .blockEnd

/-- Whether no node begins with the token, in a block table. -/
def endsField (t : Token) : Bool := t == .key || t == .value || t == .blockEnd

/-- Whether no node begins with the token, in a list in brackets. -/
def endsListField (t : Token) : Bool := t == .value || t == .comma || t == .closeList

/-- Whether no node begins with the token, in a table in brackets. -/
def endsTableField (t : Token) : Bool := t == .value || t == .comma || t == .closeTable

/-- Where a node stands. -/
inductive Surroundings where
  /-- Inside brackets, where only brackets make collections. -/
  | brackets
  /-- Where block collections may begin. -/
  | block
  /-- In a block table, where a list need not be indented. -/
  | field
deriving DecidableEq

def tableOf (entries : List (Document × Document)) : Document :=
  .table (entries.map fun (k, d) => (k.text?, d)) none

mutual

def node (around : Surroundings) : Nat → Feed → Option (Document × Feed)
  | 0, _ => none
  | fuel + 1, f =>
    match f.tokens with
    | .alias name :: _ => (f.anchors.lookup name).map (·, f.next)
    | _ => do
      let (name, tag, f) ← f.properties
      let (d, f) ← content around (name.isSome || tag.isSome) tag fuel f
      some (d, f.naming name d)

/-- What a node holds. It may be missing where the node has properties. -/
def content (around : Surroundings) (mayMiss : Bool) (tag : Option String) :
    Nat → Feed → Option (Document × Feed)
  | 0, _ => none
  | fuel + 1, f =>
    match f.tokens.head?, around with
    | some (.scalar text style), _ => some (.scalar (scalarOf tag style text), f.next)
    | some .openList, _ => (listItems true fuel f.next).map fun (ds, f) => (.list ds, f)
    | some .openTable, _ =>
      (tableEntries true fuel f.next).map fun (es, f) => (tableOf es, f)
    | some .item, .field => (looseItems fuel f).map fun (ds, f) => (.list ds, f)
    | some .blockList, .block | some .blockList, .field =>
      (blockItems fuel f.next).map fun (ds, f) => (.list ds, f)
    | some .blockTable, .block | some .blockTable, .field =>
      (blockEntries fuel f.next).map fun (es, f) => (tableOf es, f)
    | _, _ => if mayMiss then some (.scalar (scalarOf tag .plain ""), f) else none

/-- A node, unless the feed begins with a token before which there is none. -/
def nodeUnless (ends : Token → Bool) (around : Surroundings) :
    Nat → Feed → Option (Document × Feed)
  | 0, _ => none
  | fuel + 1, f => if f.sees ends then some (missing, f) else node around fuel f

/-- The value of a key, which may be missing with its colon. -/
def valueUnless (ends : Token → Bool) (around : Surroundings) :
    Nat → Feed → Option (Document × Feed)
  | 0, _ => none
  | fuel + 1, f =>
    if f.sees (· == .value) then nodeUnless ends around fuel f.next else some (missing, f)

def blockItems : Nat → Feed → Option (List Document × Feed)
  | 0, _ => none
  | fuel + 1, f =>
    match f.tokens.head? with
    | some .blockEnd => some ([], f.next)
    | some .item => do
      let (d, f) ← nodeUnless endsItem .block fuel f.next
      let (ds, f) ← blockItems fuel f
      some (d :: ds, f)
    | _ => none

/-- The items of a list that is not indented against the table around it. -/
def looseItems : Nat → Feed → Option (List Document × Feed)
  | 0, _ => none
  | fuel + 1, f =>
    if f.sees (· == .item) then do
      let (d, f) ← nodeUnless (fun t => endsItem t || endsField t) .block fuel f.next
      let (ds, f) ← looseItems fuel f
      some (d :: ds, f)
    else some ([], f)

def blockEntries : Nat → Feed → Option (List (Document × Document) × Feed)
  | 0, _ => none
  | fuel + 1, f =>
    match f.tokens.head? with
    | some .blockEnd => some ([], f.next)
    | some .key => do
      let (k, f) ← nodeUnless endsField .field fuel f.next
      let (d, f) ← valueUnless endsField .field fuel f
      let (es, f) ← blockEntries fuel f
      some ((k, d) :: es, f)
    | _ => none

/-- The items of a list in brackets and the closing one. A key makes a table of
one entry; if nothing is written for it, the token after it is passed in its
place. -/
def listItems (isFirst : Bool) : Nat → Feed → Option (List Document × Feed)
  | 0, _ => none
  | fuel + 1, f => do
    if f.sees (· == .closeList) then return ([], f.next)
    if !isFirst && !f.sees (· == .comma) then none
    let f := if isFirst then f else f.next
    if f.sees (· == .closeList) then return ([], f.next)
    let (d, f) ←
      if f.sees (· == .key) then do
        let f := f.next
        let (k, f) ← if f.sees endsListField then some (missing, f.next)
          else node .brackets fuel f
        let (d, f) ← valueUnless (fun t => t == .comma || t == .closeList)
          .brackets fuel f
        some (tableOf [(k, d)], f)
      else node .brackets fuel f
    let (ds, f) ← listItems false fuel f
    some (d :: ds, f)

/-- The entries of a table in brackets and the closing one. What is no key
stands for an entry without a value. -/
def tableEntries (isFirst : Bool) :
    Nat → Feed → Option (List (Document × Document) × Feed)
  | 0, _ => none
  | fuel + 1, f => do
    if f.sees (· == .closeTable) then return ([], f.next)
    if !isFirst && !f.sees (· == .comma) then none
    let f := if isFirst then f else f.next
    if f.sees (· == .closeTable) then return ([], f.next)
    let (k, d, f) ←
      if f.sees (· == .key) then do
        let (k, f) ← nodeUnless endsTableField .brackets fuel f.next
        let (d, f) ← valueUnless (fun t => t == .comma || t == .closeTable)
          .brackets fuel f
        some (k, d, f)
      else do
        let (k, f) ← node .brackets fuel f
        some (k, missing, f)
    let (es, f) ← tableEntries false fuel f
    some ((k, d) :: es, f)

end

/-! ### Documents -/

/-- Takes the directives at the front of a document. The version is given once
at most, and so is the meaning of each handle. -/
def directives (hasVersion : Bool) (handles : List (String × String)) :
    List Token → Option (List (String × String) × List Token)
  | .version major minor :: rest =>
    if hasVersion || major != 1 || !(minor == 1 || minor == 2) then none
    else directives true handles rest
  | .handle name meaning :: rest =>
    if handles.any (·.1 == name) then none
    else directives hasVersion ((name, meaning) :: handles) rest
  | rest => some (handles, rest)

def standardHandles : List (String × String) := [("!", "!"), ("!!", standardTags)]

/-- Whether no node begins with the token, at the start of a document. -/
def endsDocument : Token → Bool
  | .documentStart | .documentEnd | .version .. | .handle .. => true
  | _ => false

/-- The document of the tokens, which may stand between markers. -/
def documentOf (tokens : List Token) : Option Document := do
  let (handles, rest) ← directives false [] tokens
  let fuel := 3 * tokens.length + 3
  let feed (tokens : List Token) : Feed :=
    { tokens, handles := handles ++ standardHandles }
  let (d, f) ← match rest with
    | .documentStart :: rest =>
      if rest.head?.all endsDocument then some (missing, feed rest)
      else node .block fuel (feed rest)
    | rest => if rest.length = tokens.length then node .block fuel (feed rest) else none
  if f.tokens.all (· == .documentEnd) then some d else none

end Yaml

/-- Reads a text that is one YAML document. A text without a document has
nothing in it. -/
def ofYaml? (s : String) : Option Document := do
  let tokens ← Yaml.tokens? s
  if tokens.isEmpty then some (.scalar { isNull := true, isVoid := true })
  else Yaml.documentOf tokens

end Clearance.Document
