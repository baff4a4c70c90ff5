import DocQuery.Regex.CharClass

/-!
# Regular expressions

The tree of a regular expression: characters and classes, anchors, sequence and alternation,
repetition, groups with back-references to them, atomic groups, and conditions on what comes next or
what came before.
-/

namespace DocQuery.Regex

/-- A condition on a place between two characters. -/
inductive Anchor where
  | textStart
  | textEnd
  | lineStart
  | lineEnd
  | wordBoundary
  | insideWord
  deriving Repr, DecidableEq

/-- A regular expression. -/
inductive Node where
  /-- Matches the empty text. -/
  | empty
  /-- Matches one character of a class. -/
  | oneOf (cls : CharClass) (ignoreCase : Bool)
  /-- Matches any character, a line feed only if `lineFeed` is set. -/
  | anyChar (lineFeed : Bool)
  | anchor (kind : Anchor)
  | seq (first second : Node)
  /-- Matches either side, the left one by preference. -/
  | alt (left right : Node)
  /-- Matches the body `least` times and then up to `most` times, as often as possible if
  `greedy`. -/
  | loop (body : Node) (least : Nat) (most : Option Nat) (greedy : Bool)
  /-- Remembers what the body matched. -/
  | group (index : Nat) (body : Node)
  /-- Matches the text that the group matched last. -/
  | backReference (index : Nat)
  /-- Keeps the first way in which the body matches. -/
  | atomic (body : Node)
  /-- Holds where the body matches next, or does not match. -/
  | ahead (negated : Bool) (body : Node)
  /-- Holds where the body matches the `width` characters before, or does not match. -/
  | behind (negated : Bool) (width : Nat) (body : Node)
  deriving Repr, DecidableEq

namespace Node

/-- The sequence of a list of parts. -/
def ofParts : List Node → Node
  | [] => .empty
  | [part] => part
  | part :: rest => .seq part (ofParts rest)

/-- The alternation of a list of options. An option that is an alternation itself is set apart, so
that `options` gives back the list. -/
def ofOptions : List Node → Node
  | [] => .empty
  | [option] => option
  | option :: rest =>
    let kept := match option with
      | .alt left right => .seq .empty (.alt left right)
      | other => other
    .alt kept (ofOptions rest)

/-- The options of an alternation. -/
def options : Node → List Node
  | .alt left right => left :: options right
  | node => [node]

/-- The number of characters of every match, if it is always the same. -/
def width? : Node → Option Nat
  | .empty => some 0
  | .oneOf _ _ => some 1
  | .anyChar _ => some 1
  | .anchor _ => some 0
  | .seq first second =>
    match first.width?, second.width? with
    | some m, some n => some (m + n)
    | _, _ => none
  | .alt left right =>
    match left.width?, right.width? with
    | some m, some n => if m = n then some m else none
    | _, _ => none
  | .loop body least most _ =>
    match body.width? with
    | some n => if most = some least then some (least * n) else none
    | none => none
  | .group _ body => body.width?
  | .backReference _ => none
  | .atomic body => body.width?
  | .ahead _ _ => some 0
  | .behind _ _ _ => some 0

/-- Whether a back-reference names the group. -/
def refersTo (index : Nat) : Node → Bool
  | .seq first second => first.refersTo index || second.refersTo index
  | .alt left right => left.refersTo index || right.refersTo index
  | .loop body _ _ _ => body.refersTo index
  | .group _ body => body.refersTo index
  | .backReference i => i == index
  | .atomic body => body.refersTo index
  | .ahead _ body => body.refersTo index
  | .behind _ _ body => body.refersTo index
  | _ => false

/-- Forgets the groups that `keep` does not hold of; a group that nothing refers to need not be
remembered. -/
def forgetGroups (keep : Nat → Bool) : Node → Node
  | .seq first second => .seq (first.forgetGroups keep) (second.forgetGroups keep)
  | .alt left right => .alt (left.forgetGroups keep) (right.forgetGroups keep)
  | .loop body least most greedy => .loop (body.forgetGroups keep) least most greedy
  | .group index body =>
    if keep index then .group index (body.forgetGroups keep) else body.forgetGroups keep
  | .atomic body => .atomic (body.forgetGroups keep)
  | .ahead negated body => .ahead negated (body.forgetGroups keep)
  | .behind negated width body => .behind negated width (body.forgetGroups keep)
  | node => node

end Node

end DocQuery.Regex
