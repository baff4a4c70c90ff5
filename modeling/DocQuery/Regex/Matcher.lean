import DocQuery.Regex.Syntax

/-!
# Matching

`Node.outcomes` lists the states in which a match of an expression can end, in order of preference
and each of them once. Two attempts that reach one state go on alike, so the second is dropped:
nothing is tried twice, and repetitions of repetitions stay cheap. A repetition goes on only after a
pass that has consumed something, so the rest of the text bounds it.
-/

namespace DocQuery.Regex

/-- A place in the text, and for each group that has matched the first and the last place of its
match. -/
structure State where
  place : Nat
  groups : List (Nat × Nat × Nat)
  deriving Repr, DecidableEq

namespace State

/-- Where the group matched. -/
def groupSpan? (s : State) (index : Nat) : Option (Nat × Nat) := s.groups.lookup index

/-- Remembers where a group has matched. -/
def remember (s : State) (index first last : Nat) : State :=
  { s with groups := (index, first, last) :: s.groups.filter fun entry => entry.1 != index }

end State

/-- Keeps the first occurrence of every state. -/
def distinct (states : List State) : List State :=
  (states.foldl (fun kept s => if kept.contains s then kept else s :: kept) []).reverse

/-- What a repetition has tried so far, and the outcomes found, last one first. -/
structure Exploration where
  tried : List (Option Nat × State)
  found : List State
  deriving Repr

/-- Adds an outcome. -/
def Exploration.add (e : Exploration) (s : State) : Exploration := { e with found := s :: e.found }

/-- Explores the further passes of a repetition from a state, at most `left` of them. -/
def Exploration.run (step : State → List State) (greedy : Bool) :
    (fuel : Nat) → (left : Option Nat) → State → Exploration → Exploration
  | 0, _, s, e => e.add s
  | fuel + 1, left, s, e =>
    if e.tried.contains (left, s) then e
    else
      let e := { e with tried := (left, s) :: e.tried }
      match left with
      | some 0 => e.add s
      | _ =>
        let e := if greedy then e else e.add s
        let e := (step s).foldl (fun e t =>
          if t.place = s.place then e
          else Exploration.run step greedy fuel (left.map (· - 1)) t e) e
        if greedy then e.add s else e

/-- The outcomes of exactly `count` passes. -/
def passes (step : State → List State) : (count : Nat) → List State → List State
  | 0, states => states
  | count + 1, states => passes step count (distinct (states.flatMap step))

/-- Whether the character before and the one after a place are of different sorts, word characters
or not. -/
def isWordBoundary (text : Array Char) (place : Nat) : Bool :=
  let before := if place = 0 then false else (text[place - 1]?).any Text.isWordChar
  let after := (text[place]?).any Text.isWordChar
  before != after

/-- Whether the anchor holds at a place. -/
def Anchor.holds (text : Array Char) (place : Nat) : Anchor → Bool
  | .textStart => place == 0
  | .textEnd => place == text.size
  | .lineStart => place == 0 || text[place - 1]? == some '\n'
  | .lineEnd => place == text.size || text[place]? == some '\n'
  | .wordBoundary => isWordBoundary text place
  | .insideWord => !isWordBoundary text place

/-- Moves over one character if it satisfies the test. -/
def stepOver (text : Array Char) (test : Char → Bool) (s : State) : List State :=
  match text[s.place]? with
  | some c => if test c then [{ s with place := s.place + 1 }] else []
  | none => []

/-- Moves over a repetition of the text between two places. -/
def stepOverCopy (text : Array Char) (span : Nat × Nat) (s : State) : List State :=
  let length := span.2 - span.1
  if text.extract span.1 span.2 = text.extract s.place (s.place + length) then
    [{ s with place := s.place + length }]
  else []

/-- The states in which a match that starts in the given state can end, by preference. -/
def Node.outcomes (text : Array Char) : Node → State → List State
  | .empty, s => [s]
  | .oneOf cls ignoreCase, s => stepOver text (cls.contains ignoreCase) s
  | .anyChar lineFeed, s => stepOver text (fun c => lineFeed || c != '\n') s
  | .anchor kind, s => if kind.holds text s.place then [s] else []
  | .seq first second, s => distinct ((first.outcomes text s).flatMap (second.outcomes text))
  | .alt left right, s => distinct (left.outcomes text s ++ right.outcomes text s)
  | .loop body least most greedy, s =>
    let starts := passes (body.outcomes text) least [s]
    distinct (starts.flatMap fun start =>
      let fuel := text.size - start.place + 1
      (Exploration.run (body.outcomes text) greedy fuel (most.map (· - least)) start
        ⟨[], []⟩).found.reverse)
  | .group index body, s => (body.outcomes text s).map fun t => t.remember index s.place t.place
  | .backReference index, s =>
    match s.groupSpan? index with
    | some span => stepOverCopy text span s
    | none => []
  | .atomic body, s => (body.outcomes text s).take 1
  | .ahead negated body, s =>
    match body.outcomes text s with
    | t :: _ => if negated then [] else [{ t with place := s.place }]
    | [] => if negated then [s] else []
  | .behind negated width body, s =>
    let found :=
      if width ≤ s.place then body.outcomes text { s with place := s.place - width } else []
    match found with
    | t :: _ => if negated then [] else [{ t with place := s.place }]
    | [] => if negated then [s] else []

/-- Whether the expression matches somewhere in the text. -/
def Node.matchesIn (node : Node) (text : String) : Bool :=
  let chars := text.toList.toArray
  (List.range (chars.size + 1)).any fun place => !(node.outcomes chars ⟨place, []⟩).isEmpty

end DocQuery.Regex
