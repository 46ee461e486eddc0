import Clearance.Document.Yaml.Scalar

/-!
# The tokens of a YAML text

The text as a list of tokens, with the structure that is only a matter of
columns made explicit: a block collection has a token where it begins and one
where it ends. Whether a scalar is a key shows only at the colon after it, so
the place before it is remembered for as long as it can still be one: within its
line, and within 1024 signs. Then the tokens that a key needs are put in there.
-/

namespace Clearance.Document.Yaml

/-- A piece of a YAML text. -/
inductive Token where
  /-- The version of the notation that the text claims to be in. -/
  | version (major minor : Nat)
  /-- What the handle of a tag stands for. -/
  | handle (name meaning : String)
  | documentStart
  | documentEnd
  | blockList
  | blockTable
  /-- The end of a block collection. -/
  | blockEnd
  | openList
  | closeList
  | openTable
  | closeTable
  /-- The hyphen before an item. -/
  | item
  | comma
  | key
  | value
  | alias (name : String)
  | anchor (name : String)
  | tag (handle suffix : String)
  | scalar (text : String) (style : ScalarStyle)
deriving DecidableEq, Repr, Inhabited

/-- Where a key may have begun. -/
structure KeyStart where
  /-- The number of tokens before it. -/
  index : Nat
  /-- Whether it has to be a key, since nothing else can stand at its column. -/
  isRequired : Bool
  line : Nat
  column : Nat
  place : Nat

/-- What is known of the text so far. -/
structure Lexer where
  tokens : Array Token := #[]
  /-- The columns of the open block collections, the innermost first. -/
  columns : List Nat := []
  /-- Where a key may have begun, outside all brackets or inside the innermost ones. -/
  keyStart : Option KeyStart := none
  /-- Where keys may have begun outside each pair of open brackets, the
  innermost first. -/
  outerKeys : List (Option KeyStart) := []
  /-- Whether a key may begin here. -/
  allowsKey : Bool := true

namespace Lexer

def inBrackets (l : Lexer) : Bool := !l.outerKeys.isEmpty

def push (l : Lexer) (t : Token) : Lexer := { l with tokens := l.tokens.push t }

def insertAt (l : Lexer) (index : Nat) (t : Token) : Lexer :=
  { l with tokens := l.tokens.insertIdxIfInBounds index t }

def allowing (l : Lexer) (b : Bool) : Lexer := { l with allowsKey := b }

/-- Gives up the key that may have begun. One that is required cannot be given up. -/
def dropKey (l : Lexer) : Option Lexer :=
  if l.keyStart.any (·.isRequired) then none else some { l with keyStart := none }

/-- Whether a key that began there can no longer end before the sign. -/
def isTooFar (s : Sign) (k : KeyStart) : Bool :=
  k.line < s.line || k.place + 1024 < s.place

/-- Gives up all keys that can no longer end before the sign. -/
def dropFarKeys (l : Lexer) (s : Sign) : Option Lexer :=
  let isLost (k : Option KeyStart) : Bool := k.any fun k => isTooFar s k && k.isRequired
  if (l.keyStart :: l.outerKeys).any isLost then none
  else
    let keepNear := Option.filter fun k => !isTooFar s k
    some { l with keyStart := keepNear l.keyStart, outerKeys := l.outerKeys.map keepNear }

def markKey (l : Lexer) (s : Sign) : Option Lexer :=
  if !l.allowsKey then some l
  else do
    let l ← l.dropKey
    let isRequired := !l.inBrackets && l.columns.head? == some s.column
    some { l with
      keyStart := some ⟨l.tokens.size, isRequired, s.line, s.column, s.place⟩ }

/-- Begins a block collection at a column, unless one is open there or inside
brackets. -/
def beginBlock (l : Lexer) (column index : Nat) (t : Token) : Lexer :=
  if l.inBrackets || l.columns.head?.any (column ≤ ·) then l
  else { l.insertAt index t with columns := column :: l.columns }

/-- Ends the block collections whose columns fail the test. -/
def endBlocks (l : Lexer) (isOpen : Nat → Bool) : Lexer :=
  if l.inBrackets then l
  else
    let ended := l.columns.takeWhile (!isOpen ·)
    { l with
      columns := l.columns.drop ended.length
      tokens := l.tokens ++ (ended.map fun _ => Token.blockEnd) }

def openBracket (l : Lexer) (s : Sign) (t : Token) : Option Lexer := do
  let l ← l.markKey s
  some ({ l with keyStart := none, outerKeys := l.keyStart :: l.outerKeys }.allowing true
    |>.push t)

def closeBracket (l : Lexer) (t : Token) : Option Lexer := do
  let l ← l.dropKey
  let l := match l.outerKeys with
    | [] => l
    | k :: ks => { l with keyStart := k, outerKeys := ks }
  some ((l.allowing false).push t)

def passItem (l : Lexer) (s : Sign) : Option Lexer :=
  if !l.inBrackets && !l.allowsKey then none
  else do
    let l ← (l.beginBlock s.column l.tokens.size .blockList).dropKey
    some ((l.allowing true).push .item)

def passKey (l : Lexer) (s : Sign) : Option Lexer :=
  if !l.inBrackets && !l.allowsKey then none
  else do
    let l ← (l.beginBlock s.column l.tokens.size .blockTable).dropKey
    some ((l.allowing (!l.inBrackets)).push .key)

/-- Passes the colon of a value, which makes a key of what may have been one. -/
def passValue (l : Lexer) (s : Sign) : Option Lexer :=
  match l.keyStart with
  | some k =>
    let l := (l.insertAt k.index .key).beginBlock k.column k.index .blockTable
    some (({ l with keyStart := none }.allowing false).push .value)
  | none =>
    if !l.inBrackets && !l.allowsKey then none
    else
      let l := l.beginBlock s.column l.tokens.size .blockTable
      some ((l.allowing (!l.inBrackets)).push .value)

end Lexer

/-! ### Names, tags and directives -/

/-- Whether the character may stand in the name of an anchor or of a handle. -/
def isNameChar (c : Char) : Bool :=
  Text.isDigit c || ('a' ≤ c && c ≤ 'z') || ('A' ≤ c && c ≤ 'Z') || c == '_' || c == '-'

def anchorName (signs : List Sign) : Option (String × List Sign) :=
  let (name, rest) := spanChars isNameChar signs
  let isEnded :=
    endsWord rest || rest.head?.any fun s => "?:,]\x7d%@`".toList.contains s.char
  if name.isEmpty || !isEnded then none else some (String.ofList name, rest)

/-- Whether the character may stand in the body of a tag; a bracket or a comma
only if it is enclosed. -/
def isTagChar (isEnclosed : Bool) (c : Char) : Bool :=
  isNameChar c || ";/?:@&=+$.!~*'()".toList.contains c ||
    (isEnclosed && ",[]".toList.contains c)

/-- The handle of a tag and its suffix, after the exclamation mark. A tag
without a handle has its meaning in the suffix. -/
def tagParts (signs : List Sign) : Option (String × String × List Sign) :=
  if signs.head?.any (·.char == '<') then
    let (body, rest) := spanChars (isTagChar true) (signs.drop 1)
    match rest with
    | s :: rest =>
      if s.char == '>' && !body.isEmpty then some ("", String.ofList body, rest) else none
    | [] => none
  else
    let (name, rest) := spanChars isNameChar signs
    let (suffix, rest') := spanChars (isTagChar false) (rest.drop 1)
    if rest.head?.any (·.char == '!') then
      if suffix.isEmpty then none
      else some ("!" ++ String.ofList name ++ "!", String.ofList suffix, rest')
    else
      let (suffix, rest) := spanChars (isTagChar false) signs
      if suffix.isEmpty then some ("", "!", rest)
      else some ("!", String.ofList suffix, rest)

def tag (inBrackets : Bool) (signs : List Sign) : Option (Token × List Sign) := do
  let (handle, suffix, rest) ← tagParts signs
  if endsWord rest || (inBrackets && rest.head?.any (·.char == ',')) then
    some (.tag handle suffix, rest)
  else none

def number? (signs : List Sign) : Option (Nat × List Sign) :=
  let (digits, rest) := spanChars Text.isDigit signs
  if digits.length ≤ 9 then (Text.natOfDigits? digits).map (·, rest) else none

def skipBlanks (signs : List Sign) : List Sign := signs.dropWhile (isBlank ·.char)

def directiveBody (name : String) (signs : List Sign) : Option (Token × List Sign) :=
  let signs := skipBlanks signs
  match name with
  | "YAML" => do
    let (major, rest) ← number? signs
    if !rest.head?.any (·.char == '.') then none
    else
      let (minor, rest) ← number? (rest.drop 1)
      some (.version major minor, rest)
  | "TAG" => do
    let (handle, rest) := spanChars (!isGap ·) signs
    let isHandle := handle == ['!'] ||
      (2 ≤ handle.length && handle.head? == some '!' && handle.getLast? == some '!' &&
        ((handle.drop 1).dropLast).all isNameChar)
    let (meaning, rest) := spanChars (isTagChar true) (skipBlanks rest)
    if isHandle && !meaning.isEmpty && endsWord rest then
      some (.handle (String.ofList handle) (String.ofList meaning), rest)
    else none
  | _ => none

def directive (signs : List Sign) : Option (Token × List Sign) := do
  let (name, rest) := spanChars isNameChar signs
  if !endsWord rest then none
  else
    let (token, rest) ← directiveBody (String.ofList name) rest
    let rest := skipBlanks rest
    let rest :=
      if rest.head?.any (·.char == '#') then rest.dropWhile (!isBreak ·.char) else rest
    if rest.head?.all (isBreak ·.char) then some (token, rest) else none

/-! ### The text as a whole -/

/-- Passes blanks, comments and line breaks. A tab is a blank only where no key
may begin. -/
def Lexer.skipGap (l : Lexer) (inComment : Bool) : List Sign → Lexer × List Sign
  | [] => (l, [])
  | s :: rest =>
    if isBreak s.char then (l.allowing (!l.inBrackets || l.allowsKey)).skipGap false rest
    else if inComment || s.char == ' ' || s.char == '#' ||
        (s.char == '\t' && (l.inBrackets || !l.allowsKey)) ||
        (s.char == byteOrderMark && s.place == 0) then
      l.skipGap (inComment || s.char == '#') rest
    else (l, s :: rest)

def beginsPlain (inBrackets : Bool) : List Sign → Bool
  | [] => false
  | s :: rest =>
    (!isGap s.char && !"-?:,[]\x7b\x7d#&*!|>'\"%@`".toList.contains s.char) ||
      (s.char == '-' && !rest.head?.any (isBlank ·.char)) ||
      (!inBrackets && (s.char == '?' || s.char == ':') && !endsWord rest)

/-- Passes a scalar. Whether a key may follow is up to the caller. -/
def Lexer.passScalar (l : Lexer) (style : ScalarStyle)
    (x : Option (List Char × List Sign)) :
    Option (Lexer × List Sign) :=
  x.map fun (text, rest) => (l.push (.scalar (String.ofList text) style), rest)

/-- Passes the next token, which begins with the first of the signs. -/
def Lexer.pass (l : Lexer) (s : Sign) (rest : List Sign) :
    Option (Lexer × List Sign) := do
  let l ← l.dropFarKeys s
  let l := l.endBlocks (· ≤ s.column)
  let endsHere := l.inBrackets || endsWord rest
  if s.column == 0 && s.char == '%' then
    let l ← (l.endBlocks fun _ => false).dropKey
    let (token, rest) ← directive rest
    return ((l.allowing false).push token, rest)
  if isMarker (s :: rest) then
    let l ← (l.endBlocks fun _ => false).dropKey
    let token := if s.char == '-' then Token.documentStart else .documentEnd
    return ((l.allowing false).push token, rest.drop 2)
  match s.char with
  | '[' => return (← l.openBracket s .openList, rest)
  | '\x7b' => return (← l.openBracket s .openTable, rest)
  | ']' => return (← l.closeBracket .closeList, rest)
  | '\x7d' => return (← l.closeBracket .closeTable, rest)
  | ',' => return (((← l.dropKey).allowing true).push .comma, rest)
  | '*' =>
    let l ← l.markKey s
    let (name, rest) ← anchorName rest
    return ((l.allowing false).push (.alias name), rest)
  | '&' =>
    let l ← l.markKey s
    let (name, rest) ← anchorName rest
    return ((l.allowing false).push (.anchor name), rest)
  | '!' =>
    let l ← l.markKey s
    let (token, rest) ← tag l.inBrackets rest
    return ((l.allowing false).push token, rest)
  | '\'' => ((← l.markKey s).allowing false).passScalar .quoted (singleQuoted [] rest)
  | '"' =>
    ((← l.markKey s).allowing false).passScalar .quoted (doubleQuoted [] false rest)
  | c =>
    if c == '-' && endsWord rest then return (← l.passItem s, rest)
    else if c == '?' && endsHere then return (← l.passKey s, rest)
    else if c == ':' && endsHere then return (← l.passValue s, rest)
    else if c == '|' && !l.inBrackets then
      ((← l.dropKey).allowing true).passScalar .literal (block false l.columns.head? rest)
    else if c == '>' && !l.inBrackets then
      ((← l.dropKey).allowing true).passScalar .folded (block true l.columns.head? rest)
    else if beginsPlain l.inBrackets (s :: rest) then
      let l ← l.markKey s
      let column := (l.columns.head?.map (· + 1)).getD 0
      let (text, broken, rest) ← plain l.inBrackets column (rest.length + 2) (s :: rest)
      return ((l.allowing broken).push (.scalar (String.ofList text) .plain), rest)
    else none

/-- The tokens of the signs. Every token passes a sign, so more fuel than signs
is never used up. -/
def Lexer.run : Nat → Lexer → List Sign → Option (List Token)
  | 0, _, _ => none
  | fuel + 1, l, signs =>
    match l.skipGap false signs with
    | (l, []) => ((l.endBlocks fun _ => false).dropKey).map (·.tokens.toList)
    | (l, s :: rest) => do
      let (l, rest) ← l.pass s rest
      Lexer.run fuel l rest

def tokens? (text : String) : Option (List Token) := do
  let signs ← signs? text
  Lexer.run (signs.length + 1) {} signs

end Clearance.Document.Yaml
