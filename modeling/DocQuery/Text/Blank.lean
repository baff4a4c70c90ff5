/-!
# Blanks and words

A blank is a character with the White_Space property. `words` cuts a text at its blanks: the words
hold no blank and are never empty.
-/

namespace DocQuery.Text

/-- White space: tabs and line ends, the spaces of every width, and the line and paragraph
separators. -/
def isBlank (c : Char) : Bool :=
  let code := c.toNat
  (0x09 ≤ code && code ≤ 0x0D) || code == 0x20 || code == 0x85 || code == 0xA0 || code == 0x1680
    || (0x2000 ≤ code && code ≤ 0x200A) || code == 0x2028 || code == 0x2029 || code == 0x202F
    || code == 0x205F || code == 0x3000

/-- The words of a text, in order. -/
def wordsOf : List Char → List (List Char)
  | [] => []
  | c :: cs =>
    if isBlank c then wordsOf cs
    else
      match cs with
      | [] => [[c]]
      | d :: ds =>
        if isBlank d then [c] :: wordsOf (d :: ds)
        else
          match wordsOf (d :: ds) with
          | [] => [[c]]
          | word :: rest => (c :: word) :: rest

/-- The words of a string, in order. -/
def words (text : String) : List String :=
  (wordsOf text.toList).map String.ofList

end DocQuery.Text
