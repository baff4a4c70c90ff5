import DocQuery.Regex.Syntax

/-!
# Reading regular expressions

`parse` reads the source of a regular expression. Flags in parentheses hold up to the end of the
group they stand in. Bracketed classes are read in two steps: first the extent of the class is found
and its escapes are read, then ranges and set operations are read from the pieces. Every step of the
reader takes a character or descends one level of the grammar, so a small multiple of the length of
the source bounds it.
-/

namespace DocQuery.Regex

/-- Why a source is no regular expression. -/
inductive SyntaxError where
  | unclosedGroup
  | unopenedGroup
  | unclosedClass
  | malformedClass
  | emptyRange (first last : Char)
  | nothingToRepeat
  | repeatsOutOfOrder (least most : Nat)
  | trailingBackslash
  | unknownEscape (letter : Char)
  | malformedCode
  | unknownFlag
  | malformedGroupName
  | unknownGroup
  | mixedReferences
  | unboundedLookBehind
  | exhausted
  deriving Repr, DecidableEq

/-- What the error says about the source. -/
def SyntaxError.message : SyntaxError → String
  | .unclosedGroup => "a group is not closed"
  | .unopenedGroup => "a group is closed that was not opened"
  | .unclosedClass => "a character class is not closed"
  | .malformedClass => "a character class is malformed"
  | .emptyRange first last => s!"the range from {first} to {last} is empty"
  | .nothingToRepeat => "there is nothing to repeat"
  | .repeatsOutOfOrder least most =>
    s!"at least {least} and at most {most} repetitions are out of order"
  | .trailingBackslash => "the last backslash escapes nothing"
  | .unknownEscape letter => s!"the escape of {letter} is unknown"
  | .malformedCode => "a character code is malformed"
  | .unknownFlag => "a flag is unknown"
  | .malformedGroupName => "the name of a group is malformed"
  | .unknownGroup => "a reference names no group"
  | .mixedReferences => "references by number do not go with named groups"
  | .unboundedLookBehind => "what came before has no fixed length"
  | .exhausted => "the expression is too deep"

/-- The flags in force. -/
structure Flags where
  ignoreCase : Bool := false
  multiLine : Bool := false
  dotAll : Bool := false
  extended : Bool := false
  swapGreed : Bool := false
  deriving Repr, DecidableEq

/-- The rest of the source, the flags in force and the groups opened so far. -/
structure Cursor where
  rest : List Char
  flags : Flags := {}
  groupCount : Nat := 0
  names : List (String × Nat) := []
  usesNumbers : Bool := false

/-- A step of the reader. -/
abbrev Reader := StateT Cursor (Except SyntaxError)

namespace Reader

/-- The rest of the source. -/
def rest : Reader (List Char) := do return (← get).rest

/-- Goes on behind the given rest. -/
def goTo (s : List Char) : Reader Unit := modify fun cursor => { cursor with rest := s }

/-- The flags in force. -/
def flags : Reader Flags := do return (← get).flags

/-- Puts flags in force. -/
def setFlags (flags : Flags) : Reader Unit := modify fun cursor => { cursor with flags }

/-- Opens a group and gives its number. -/
def openGroup : Reader Nat :=
  modifyGet fun cursor =>
    (cursor.groupCount + 1, { cursor with groupCount := cursor.groupCount + 1 })

/-- Gives a name to the group opened last. -/
def nameGroup (name : String) : Reader Unit :=
  modify fun cursor => { cursor with names := (name, cursor.groupCount) :: cursor.names }

end Reader

/-- Drops what separates the parts of an expression: comments in parentheses, and in an extended
expression blanks and comments up to the end of the line. -/
def skipIgnored (extended : Bool) : (fuel : Nat) → List Char → List Char
  | 0, s => s
  | fuel + 1, s =>
    match s with
    | '(' :: '?' :: '#' :: rest => skipIgnored extended fuel ((rest.dropWhile (· != ')')).drop 1)
    | '#' :: rest =>
      if extended then skipIgnored extended fuel ((rest.dropWhile (· != '\n')).drop 1) else s
    | c :: rest =>
      if extended ∧ (c = ' ' ∨ c = '\r' ∨ c = '\n' ∨ c = '\t') then
        skipIgnored extended fuel rest
      else s
    | [] => s

/-- Moves to the next part of the expression. -/
def Reader.skip : Reader Unit :=
  modify fun cursor =>
    { cursor with rest := skipIgnored cursor.flags.extended (cursor.rest.length + 1) cursor.rest }

/-- The value of a hexadecimal digit. -/
def hexDigit? (c : Char) : Option Nat :=
  if c.isDigit then some (c.toNat - '0'.toNat)
  else if 'a' ≤ c ∧ c ≤ 'f' then some (c.toNat - 'a'.toNat + 10)
  else if 'A' ≤ c ∧ c ≤ 'F' then some (c.toNat - 'A'.toNat + 10)
  else none

/-- The character whose code the hexadecimal digits write. -/
def charOfHex? (ds : List Char) : Option Char := do
  let code ← ds.foldlM (fun n d => (hexDigit? d).map (n * 16 + ·)) 0
  if code < 0xD800 ∨ (0xDFFF < code ∧ code < 0x110000) then some (Char.ofNat code) else none

/-- Reads the code of a character, in the given number of digits or in braces. -/
def readCode (count : Nat) (s : List Char) : Except SyntaxError (Char × List Char) :=
  let plain := s.take count
  if plain.length = count ∧ plain.all (fun c => (hexDigit? c).isSome) then
    match charOfHex? plain with
    | some c => .ok (c, s.drop count)
    | none => .error .malformedCode
  else
    match s with
    | '\x7b' :: s =>
      let ds := s.takeWhile fun c => (hexDigit? c).isSome
      match s.drop ds.length, charOfHex? ds with
      | '\x7d' :: rest, some c =>
        if ds.isEmpty ∨ ds.length > 8 then .error .malformedCode else .ok (c, rest)
      | _, _ => .error .malformedCode
    | _ => .error .malformedCode

/-- What an escape stands for, inside a class and outside. -/
inductive Escape where
  | char (c : Char)
  | cls (cls : CharClass)
  | anchor (kind : Anchor)
  | number (index : Nat)
  | name
  deriving Repr, DecidableEq

/-- The natural number that decimal digits write. -/
def decimalValue (ds : List Char) : Nat := ds.foldl (fun n d => n * 10 + (d.toNat - '0'.toNat)) 0

/-- The class of hexadecimal digits. -/
def hexClass : CharClass := .unions [.range '0' '9', .range 'a' 'f', .range 'A' 'F']

/-- Reads an escape behind its backslash. -/
def readEscape (inClass : Bool) : List Char → Except SyntaxError (Escape × List Char)
  | [] => .error .trailingBackslash
  | c :: s =>
    if c.isDigit then
      let ds := (c :: s).takeWhile Char.isDigit
      .ok (.number (decimalValue ds), (c :: s).drop ds.length)
    else
      match c, inClass with
      | 'k', false => .ok (.name, s)
      | 'A', false => .ok (.anchor .textStart, s)
      | 'z', false => .ok (.anchor .textEnd, s)
      | 'b', false => .ok (.anchor .wordBoundary, s)
      | 'B', false => .ok (.anchor .insideWord, s)
      | 'b', true => .ok (.char '\x08', s)
      | 'd', _ => .ok (.cls (.named .digit), s)
      | 'D', _ => .ok (.cls (.complement (.named .digit)), s)
      | 'w', _ => .ok (.cls (.named .word), s)
      | 'W', _ => .ok (.cls (.complement (.named .word)), s)
      | 's', _ => .ok (.cls (.named .space), s)
      | 'S', _ => .ok (.cls (.complement (.named .space)), s)
      | 'h', _ => .ok (.cls hexClass, s)
      | 'H', _ => .ok (.cls (.complement hexClass), s)
      | 'x', _ => do
        let (c, rest) ← readCode 2 s
        return (.char c, rest)
      | 'u', _ => do
        let (c, rest) ← readCode 4 s
        return (.char c, rest)
      | 'U', _ => do
        let (c, rest) ← readCode 8 s
        return (.char c, rest)
      | 'a', _ => .ok (.char '\x07', s)
      | 'e', _ => .ok (.char '\x1b', s)
      | 'f', _ => .ok (.char '\x0c', s)
      | 'n', _ => .ok (.char '\n', s)
      | 'r', _ => .ok (.char '\r', s)
      | 't', _ => .ok (.char '\t', s)
      | 'v', _ => .ok (.char '\x0b', s)
      | _, _ => if c.isAlpha then .error (.unknownEscape c) else .ok (.char c, s)

/-! ## Bracketed classes -/

/-- A piece of a class: a character that may be part of the notation, an escaped one, or a named
set. -/
inductive ClassPiece where
  | plain (c : Char)
  | escaped (c : Char)
  | set (cls : CharClass)
  deriving Repr, DecidableEq

/-- Cuts off the pieces of a class up to the bracket that closes it; `depth` more brackets are
open. -/
def classPieces : (fuel depth : Nat) → List Char → Except SyntaxError (List ClassPiece × List Char)
  | 0, _, _ => .error .exhausted
  | _, _, [] => .error .unclosedClass
  | fuel + 1, depth, '\\' :: s => do
    let (escape, s) ← readEscape true s
    let piece ← match escape with
      | .char c => .ok (ClassPiece.escaped c)
      | .cls cls => .ok (ClassPiece.set cls)
      | _ => .error .malformedClass
    let (pieces, rest) ← classPieces fuel depth s
    return (piece :: pieces, rest)
  | fuel + 1, depth, '[' :: s => do
    let (pieces, rest) ← classPieces fuel (depth + 1) s
    return (.plain '[' :: pieces, rest)
  | fuel + 1, depth, ']' :: s =>
    match depth with
    | 0 => .ok ([.plain ']'], s)
    | depth + 1 => do
      let (pieces, rest) ← classPieces fuel depth s
      return (.plain ']' :: pieces, rest)
  | fuel + 1, depth, c :: s => do
    let (pieces, rest) ← classPieces fuel depth s
    return (.plain c :: pieces, rest)

/-- Reads the name of a class in full, such as `:alpha:]`, behind its bracket. -/
def readPosixName (pieces : List ClassPiece) : Option (CharClass × List ClassPiece) :=
  let letters (pieces : List ClassPiece) : List Char × List ClassPiece :=
    let word := pieces.takeWhile fun piece => match piece with
      | .plain c => c.isAlpha
      | _ => false
    (word.filterMap fun piece => match piece with
      | .plain c => some c
      | _ => none, pieces.drop word.length)
  let named (pieces : List ClassPiece) : Option (CharClass × List ClassPiece) :=
    let (word, rest) := letters pieces
    match rest with
    | .plain ':' :: .plain ']' :: rest =>
      (CharClass.ofPosixName? (String.ofList word)).map (·, rest)
    | _ => none
  match pieces with
  | .plain ':' :: .plain '^' :: pieces =>
    (named pieces).map fun (cls, rest) => (.complement cls, rest)
  | .plain ':' :: pieces => named pieces
  | _ => none

/-- How two parts of a class are combined. -/
inductive SetOperation where
  | intersection
  | difference
  | symmetricDifference
  deriving Repr, DecidableEq

/-- The combination of two classes. -/
def SetOperation.apply : SetOperation → CharClass → CharClass → CharClass
  | .intersection, left, right => .intersection left right
  | .difference, left, right => CharClass.difference left right
  | .symmetricDifference, left, right => CharClass.symmetricDifference left right

/-- The character of a piece that can bound a range. -/
def ClassPiece.bound? : ClassPiece → Option Char
  | .plain c => some c
  | .escaped c => some c
  | .set _ => none

/-- The class of a single piece. -/
def ClassPiece.cls : ClassPiece → CharClass
  | .plain c => .single c
  | .escaped c => .single c
  | .set cls => cls

/-- What has been read of a class: the operand on the left, and the parts of the current operand,
last one first. -/
structure ClassContent where
  operand : Option (CharClass × SetOperation) := none
  parts : List CharClass := []

/-- Adds a part to the current operand. -/
def ClassContent.add (content : ClassContent) (part : CharClass) : ClassContent :=
  { content with parts := part :: content.parts }

/-- The class read so far. -/
def ClassContent.result (content : ClassContent) : CharClass :=
  let current := CharClass.unions content.parts.reverse
  match content.operand with
  | some (left, operation) => operation.apply left current
  | none => current

/-- Makes the class read so far the left operand. -/
def ClassContent.combine (content : ClassContent) (operation : SetOperation) : ClassContent :=
  { operand := some (content.result, operation), parts := [] }

mutual

/-- Reads a class behind its opening bracket. -/
def readClass : (fuel : Nat) → List ClassPiece → Except SyntaxError (CharClass × List ClassPiece)
  | 0, _ => .error .exhausted
  | fuel + 1, pieces => do
    let (negated, pieces) := match pieces with
      | .plain '^' :: rest => (true, rest)
      | pieces => (false, pieces)
    let dashes := pieces.takeWhile (· == .plain '-')
    let pieces := pieces.drop dashes.length
    let content : ClassContent := { parts := dashes.map ClassPiece.cls }
    let (content, pieces) := match dashes, pieces with
      | [], .plain ']' :: rest => (content.add (.single ']'), rest)
      | _, pieces => (content, pieces)
    let (cls, rest) ← readParts fuel content pieces
    return (if negated then .complement cls else cls, rest)

/-- Reads the parts of a class up to its closing bracket. -/
def readParts :
    (fuel : Nat) → ClassContent → List ClassPiece → Except SyntaxError (CharClass × List ClassPiece)
  | 0, _, _ => .error .exhausted
  | fuel + 1, content, pieces =>
    match pieces with
    | [] => .error .unclosedClass
    | .plain ']' :: rest => .ok (content.result, rest)
    | .plain '[' :: rest =>
      match readPosixName rest with
      | some (cls, rest) => readParts fuel (content.add cls) rest
      | none => do
        let (cls, rest) ← readClass fuel rest
        readParts fuel (content.add cls) rest
    | .plain '&' :: .plain '&' :: rest => readParts fuel (content.combine .intersection) rest
    | .plain '-' :: .plain '-' :: rest => readParts fuel (content.combine .difference) rest
    | .plain '~' :: .plain '~' :: rest => readParts fuel (content.combine .symmetricDifference) rest
    | piece :: .plain '-' :: .plain ']' :: rest =>
      readParts fuel (content.add piece.cls) (.plain '-' :: .plain ']' :: rest)
    | piece :: .plain '-' :: .plain '-' :: rest =>
      readParts fuel (content.add piece.cls) (.plain '-' :: .plain '-' :: rest)
    | first :: .plain '-' :: last :: rest =>
      match first.bound?, last.bound? with
      | some lo, some hi =>
        if lo ≤ hi then readParts fuel (content.add (.range lo hi)) rest
        else .error (.emptyRange lo hi)
      | _, _ => .error .malformedClass
    | piece :: rest => readParts fuel (content.add piece.cls) rest

end

/-- Reads a bracketed class behind its opening bracket. -/
def readBracketed (s : List Char) : Except SyntaxError (CharClass × List Char) := do
  let (opening, s) := match s with
    | '^' :: ']' :: s => ([ClassPiece.plain '^', .plain ']'], s)
    | '^' :: s => ([ClassPiece.plain '^'], s)
    | ']' :: s => ([ClassPiece.plain ']'], s)
    | s => ([], s)
  let (pieces, rest) ← classPieces (s.length + 1) 0 s
  let pieces := opening ++ pieces
  let (cls, left) ← readClass (2 * pieces.length + 2) pieces
  if left.isEmpty then .ok (cls, rest) else .error .malformedClass

/-! ## Expressions -/

/-- Reads the bounds of a counted repetition behind its opening brace; none if it is not one. -/
def readBounds (extended : Bool) (s : List Char) : Option (Nat × Option Nat × List Char) :=
  let skip (s : List Char) := skipIgnored extended (s.length + 1) s
  let digits (s : List Char) := s.takeWhile Char.isDigit
  let s := skip s
  let ds := digits s
  let rest := skip (s.drop ds.length)
  match rest with
  | '\x7d' :: rest =>
    if ds.isEmpty then none else some (decimalValue ds, some (decimalValue ds), rest)
  | ',' :: rest =>
    let rest := skip rest
    let es := digits rest
    match skip (rest.drop es.length) with
    | '\x7d' :: rest =>
      some (decimalValue ds, if es.isEmpty then none else some (decimalValue es), rest)
    | _ => none
  | _ => none

/-- Reads how often the part before is repeated; none if no repetition follows. -/
def readRepetition (extended : Bool) : List Char → Option (Nat × Option Nat × List Char)
  | '?' :: s => some (0, some 1, s)
  | '*' :: s => some (0, none, s)
  | '+' :: s => some (1, none, s)
  | '\x7b' :: s => readBounds extended s
  | _ => none

/-- Whether an expression may be repeated; anchors and conditions may not. -/
def Node.isRepeatable : Node → Bool
  | .empty => false
  | .anchor _ => false
  | .ahead _ _ => false
  | .behind _ _ _ => false
  | _ => true

/-- A condition on what came before. Each option of an alternation may have a length of its own. -/
def Node.lookBehind (negated : Bool) (body : Node) : Except SyntaxError Node :=
  match body.width? with
  | some width => .ok (.behind negated width body)
  | none => do
    let parts ← body.options.mapM fun option =>
      match option.width? with
      | some width => .ok (Node.behind negated width option)
      | none => .error .unboundedLookBehind
    return if negated then .seq .empty (.ofParts parts) else .seq .empty (.ofOptions parts)

/-- Reads a name between two delimiters. -/
def readName (opening closing : Char) : List Char → Except SyntaxError (String × List Char)
  | c :: s =>
    let name := s.takeWhile fun c => Text.isAlphanumeric c || c == '_'
    match s.drop name.length with
    | d :: rest =>
      if c = opening ∧ d = closing ∧ ¬name.isEmpty then .ok (String.ofList name, rest)
      else .error .malformedGroupName
    | [] => .error .malformedGroupName
  | [] => .error .malformedGroupName

/-- A reference to a group by number, which must have been opened before. -/
def referToNumber (index : Nat) : Reader Node := do
  let cursor ← get
  if index ≤ cursor.groupCount then
    set { cursor with usesNumbers := true }
    return .backReference index
  else throw .unknownGroup

/-- A reference to a group by name; a name that is a number refers to the group of that number. -/
def referToName (name : String) : Reader Node := do
  match (← get).names.lookup name with
  | some index => return .backReference index
  | none =>
    match name.toNat? with
    | some index => referToNumber index
    | none => throw .unknownGroup

/-- A character, compared as the flags say. -/
def literal (c : Char) : Reader Node := do return .oneOf (.single c) (← Reader.flags).ignoreCase

/-- Reads an escape behind its backslash. -/
def readEscapeNode : Reader Node := do
  let (escape, s) ← readEscape false (← Reader.rest)
  Reader.goTo s
  match escape with
  | .char c => literal c
  | .cls cls => return .oneOf cls (← Reader.flags).ignoreCase
  | .anchor kind => return .anchor kind
  | .number index => referToNumber index
  | .name =>
    let (name, s) ← readName '<' '>' s
    Reader.goTo s
    referToName name

/-- The flags after reading one flag letter. -/
def Flags.update (flags : Flags) (on : Bool) : Char → Option Flags
  | 'i' => some { flags with ignoreCase := on }
  | 'm' => some { flags with multiLine := on }
  | 's' => some { flags with dotAll := on }
  | 'x' => some { flags with extended := on }
  | 'U' => some { flags with swapGreed := on }
  | 'u' => if on then some flags else none
  | _ => none

/-- Reads flag letters up to the colon or the parenthesis behind them, and says which of the two it
was. -/
def readFlags (flags : Flags) (on afterMinus first : Bool) :
    List Char → Except SyntaxError (Flags × Bool × List Char)
  | [] => .error .unclosedGroup
  | ')' :: s => if first ∨ afterMinus then .error .unknownFlag else .ok (flags, false, s)
  | ':' :: s => if afterMinus then .error .unknownFlag else .ok (flags, true, s)
  | '-' :: s => if on then readFlags flags false true false s else .error .unknownFlag
  | c :: s =>
    match flags.update on c with
    | some flags => readFlags flags on false false s
    | none => .error .unknownFlag

/-- Requires the parenthesis that closes a group. -/
def closeGroup : Reader Unit := do
  match ← Reader.rest with
  | ')' :: s => Reader.goTo s
  | _ => throw .unclosedGroup

mutual

/-- Reads an alternation. -/
def readOptions : (fuel : Nat) → Reader Node
  | 0 => throw .exhausted
  | fuel + 1 => do
    let first ← readSequence fuel
    Reader.skip
    match ← Reader.rest with
    | '|' :: _ =>
      let others ← readFurtherOptions fuel
      return .ofOptions (first :: others)
    | _ =>
      let cursor ← get
      if cursor.usesNumbers ∧ ¬cursor.names.isEmpty then throw .mixedReferences
      return first

/-- Reads the options behind the first one. -/
def readFurtherOptions : (fuel : Nat) → Reader (List Node)
  | 0 => throw .exhausted
  | fuel + 1 => do
    match ← Reader.rest with
    | '|' :: s =>
      Reader.goTo s
      let option ← readSequence fuel
      Reader.skip
      let others ← readFurtherOptions fuel
      return option :: others
    | _ => return []

/-- Reads the parts of a sequence. -/
def readSequence : (fuel : Nat) → Reader Node
  | 0 => throw .exhausted
  | fuel + 1 => do
    let parts ← readSequenceParts fuel
    return .ofParts parts

/-- Reads parts until none follows; empty ones are left out. -/
def readSequenceParts : (fuel : Nat) → Reader (List Node)
  | 0 => throw .exhausted
  | fuel + 1 => do
    let before := (← Reader.rest).length
    let part ← readRepeated fuel
    let after := (← Reader.rest).length
    if after = before then return []
    let others ← readSequenceParts fuel
    return if part = .empty then others else part :: others

/-- Reads a part and how often it is repeated. -/
def readRepeated : (fuel : Nat) → Reader Node
  | 0 => throw .exhausted
  | fuel + 1 => do
    let part ← readPart fuel
    Reader.skip
    let flags ← Reader.flags
    match readRepetition flags.extended (← Reader.rest) with
    | none => return part
    | some (least, most, s) =>
      if ¬part.isRepeatable then throw .nothingToRepeat
      if let some most := most then
        if most < least then throw (.repeatsOutOfOrder least most)
      Reader.goTo s
      Reader.skip
      let (lazy, s) := match ← Reader.rest with
        | '?' :: s => (true, s)
        | s => (false, s)
      let node := Node.loop part least most (lazy == flags.swapGreed)
      match s with
      | '+' :: s =>
        Reader.goTo s
        return .atomic node
      | s =>
        Reader.goTo s
        return node

/-- Reads one part: a character, a class, an anchor or a group. Where no part starts, it is
empty. -/
def readPart : (fuel : Nat) → Reader Node
  | 0 => throw .exhausted
  | fuel + 1 => do
    Reader.skip
    let flags ← Reader.flags
    match ← Reader.rest with
    | [] => return .empty
    | '.' :: s =>
      Reader.goTo s
      return .anyChar flags.dotAll
    | '^' :: s =>
      Reader.goTo s
      return .anchor (if flags.multiLine then .lineStart else .textStart)
    | '$' :: s =>
      Reader.goTo s
      return .anchor (if flags.multiLine then .lineEnd else .textEnd)
    | '(' :: s =>
      Reader.goTo s
      readGroup fuel
    | '\\' :: s =>
      Reader.goTo s
      readEscapeNode
    | '[' :: s =>
      let (cls, s) ← readBracketed s
      Reader.goTo s
      return .oneOf cls flags.ignoreCase
    | c :: s =>
      if c = '+' ∨ c = '*' ∨ c = '?' ∨ c = '|' ∨ c = ')' then return .empty
      Reader.goTo s
      literal c

/-- Reads a group behind its opening parenthesis. -/
def readGroup : (fuel : Nat) → Reader Node
  | 0 => throw .exhausted
  | fuel + 1 => do
    Reader.skip
    let outer ← Reader.flags
    match ← Reader.rest with
    | '?' :: '=' :: s => (.ahead false ·) <$> readBody fuel outer s
    | '?' :: '!' :: s => (.ahead true ·) <$> readBody fuel outer s
    | '?' :: '<' :: '=' :: s =>
      let body ← readBody fuel outer s
      body.lookBehind false
    | '?' :: '<' :: '!' :: s =>
      let body ← readBody fuel outer s
      body.lookBehind true
    | '?' :: '>' :: s => .atomic <$> readBody fuel outer s
    | '?' :: 'P' :: '=' :: s =>
      let (name, s) ← readName '=' ')' ('=' :: s)
      Reader.goTo s
      referToName name
    | '?' :: 'P' :: '<' :: s => readNamedGroup fuel outer ('<' :: s)
    | '?' :: '<' :: s => readNamedGroup fuel outer ('<' :: s)
    | '?' :: s =>
      let (flags, hasBody, s) ← readFlags outer true false true s
      Reader.setFlags flags
      if hasBody then readBody fuel outer s
      else
        Reader.goTo s
        return .empty
    | s =>
      let index ← Reader.openGroup
      .group index <$> readBody fuel outer s

/-- Reads a group with a name in angle brackets. -/
def readNamedGroup : (fuel : Nat) → (outer : Flags) → List Char → Reader Node
  | 0, _, _ => throw .exhausted
  | fuel + 1, outer, s => do
    let index ← Reader.openGroup
    let (name, s) ← readName '<' '>' s
    Reader.nameGroup name
    .group index <$> readBody fuel outer s

/-- Reads the body of a group and its closing parenthesis, and puts the outer flags in force
again. -/
def readBody : (fuel : Nat) → (outer : Flags) → List Char → Reader Node
  | 0, _, _ => throw .exhausted
  | fuel + 1, outer, s => do
    Reader.goTo s
    let body ← readOptions fuel
    closeGroup
    Reader.setFlags outer
    return body

end

/-- Reads a regular expression. -/
def parse (source : String) : Except SyntaxError Node := do
  let s := source.toList
  let (node, cursor) ← (readOptions (8 * s.length + 16)).run { rest := s }
  if cursor.rest.isEmpty then
    return node.forgetGroups fun index => node.refersTo index
  else throw .unopenedGroup

end DocQuery.Regex
