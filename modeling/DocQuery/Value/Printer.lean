import DocQuery.Value.Basic

/-!
# Text of values

Values are written as JSON without blanks, fields in their order. Quotes, backslashes and control
characters are escaped. `text` writes every other character as it is; `asciiText` writes those
beyond ASCII as escaped units of 16 bits.
-/

namespace DocQuery

/-- Which characters a string keeps as they are. -/
inductive Quoting where
  | raw
  | ascii
  deriving Repr, DecidableEq

namespace Quoting

/-- A hexadecimal digit in lower case. -/
def hexDigit (n : Nat) : Char := Nat.digitChar (n % 16)

/-- The escape of a unit of 16 bits. -/
def escapeUnit (unit : Nat) : List Char :=
  ['\\', 'u', hexDigit (unit / 4096), hexDigit (unit / 256), hexDigit (unit / 16), hexDigit unit]

/-- The escape of a character, as a surrogate pair beyond the first plane. -/
def escapeChar (c : Char) : List Char :=
  let code := c.toNat
  if code < 0x10000 then escapeUnit code
  else
    escapeUnit (0xD800 + (code - 0x10000) / 0x400) ++ escapeUnit (0xDC00 + (code - 0x10000) % 0x400)

/-- A character inside quotes. -/
def charText (quoting : Quoting) (c : Char) : List Char :=
  if c = '"' then ['\\', '"']
  else if c = '\\' then ['\\', '\\']
  else if c = '\n' then ['\\', 'n']
  else if c = '\r' then ['\\', 'r']
  else if c = '\t' then ['\\', 't']
  else if c = '\x08' then ['\\', 'b']
  else if c = '\x0c' then ['\\', 'f']
  else if c.toNat < 0x20 then escapeUnit c.toNat
  else if quoting = .ascii ∧ 128 ≤ c.toNat then escapeChar c
  else [c]

/-- A string in quotes. -/
def quote (quoting : Quoting) (s : String) : String :=
  String.ofList ('"' :: s.toList.flatMap quoting.charText ++ ['"'])

end Quoting

namespace Value

mutual

/-- The text of a value. -/
def textWith (quoting : Quoting) : Value → String
  | .null => "null"
  | .bool true => "true"
  | .bool false => "false"
  | .number n => n.text
  | .string s => quoting.quote s
  | .array items => "[" ++ ",".intercalate (itemTexts quoting items) ++ "]"
  | .object fields => "\x7b" ++ ",".intercalate (fieldTexts quoting fields) ++ "\x7d"
termination_by structural v => v

/-- The texts of the items of an array. -/
def itemTexts (quoting : Quoting) : List Value → List String
  | [] => []
  | item :: rest => textWith quoting item :: itemTexts quoting rest
termination_by structural items => items

/-- The texts of the fields of an object. -/
def fieldTexts (quoting : Quoting) : List (String × Value) → List String
  | [] => []
  | (key, value) :: rest =>
    (quoting.quote key ++ ":" ++ textWith quoting value) :: fieldTexts quoting rest
termination_by structural fields => fields

end

/-- The text of a value with every printable character as it is. -/
def text (v : Value) : String := v.textWith .raw

/-- The text of a value in ASCII. -/
def asciiText (v : Value) : String := v.textWith .ascii

end Value

end DocQuery
