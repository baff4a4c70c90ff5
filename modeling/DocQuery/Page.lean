import DocQuery.Value.Basic

/-!
# Pages

A page of a result: its rows, its number, how many rows a page has, how many rows there are in all,
and the number of pages, which is at least one.
-/

namespace DocQuery

/-- The largest unsigned integer of 64 bits. -/
def maxUnsigned : Nat := 0xFFFFFFFFFFFFFFFF

/-- The window of rows that a page asks for; both numbers are at least one. -/
structure PageWindow where
  page : Nat
  perPage : Nat
  deriving Repr, DecidableEq

namespace PageWindow

/-- The window of a request; numbers below one count as one. -/
def ofRequest (page perPage : Int) : PageWindow := ⟨(max page 1).toNat, (max perPage 1).toNat⟩

/-- How many rows come before the page, at most the largest unsigned integer of 64 bits. -/
def skip (w : PageWindow) : Nat := min ((w.page - 1) * w.perPage) maxUnsigned

end PageWindow

/-- A page of a result. -/
structure Page where
  data : List Document
  page : Nat
  perPage : Nat
  total : Nat
  totalPages : Nat
  deriving Repr, BEq

namespace Page

/-- The number of pages that hold `total` rows, at least one. -/
def pagesFor (total perPage : Nat) : Nat := max ((total + (perPage - 1)) / perPage) 1

/-- The page with its number of pages. -/
def make (data : List Document) (page perPage total : Nat) : Page :=
  let perPage := max perPage 1
  ⟨data, page, perPage, total, pagesFor total perPage⟩

/-- Whether a page follows. -/
def hasNext (p : Page) : Bool := decide (p.page < p.totalPages)

/-- Whether a page comes before. -/
def hasPrevious (p : Page) : Bool := decide (1 < p.page)

/-- The page as a value. -/
def toValue (p : Page) : Value :=
  .object [("data", .array (p.data.map .object)), ("page", .ofNat p.page),
    ("perPage", .ofNat p.perPage), ("total", .ofNat p.total), ("totalPages", .ofNat p.totalPages)]

/-- Reads a list of documents. -/
def documents? : Value → Option (List Document)
  | .array items => items.mapM Value.fields?
  | _ => none

/-- Reads an unsigned integer. -/
def unsigned? : Value → Option Nat
  | .number n => n.natural?
  | _ => none

/-- Reads the parts of a page. -/
def ofParts? (data page perPage total totalPages : Value) : Option Page := do
  return ⟨← documents? data, ← unsigned? page, ← unsigned? perPage, ← unsigned? total,
    ← unsigned? totalPages⟩

/-- Reads a page: an object with all parts, in which other keys are ignored, or an array of the
parts in order. -/
def ofValue? : Value → Option Page
  | .object fields => do
    ofParts? (← FieldMap.get? fields "data") (← FieldMap.get? fields "page")
      (← FieldMap.get? fields "perPage") (← FieldMap.get? fields "total")
      (← FieldMap.get? fields "totalPages")
  | .array [data, page, perPage, total, totalPages] => ofParts? data page perPage total totalPages
  | _ => none

end Page

/-- The count that a value of a result stands for: fractions are cut off, and a number that is too
large counts as the largest unsigned integer of 64 bits. Negative numbers and other values are no
count. -/
def countOf? : Value → Option Nat
  | .number n =>
    match n.natural? with
    | some count => some count
    | none =>
      if 0 ≤ n.orderKey then some (min (n.orderKey.toNat >>> Number.unitBits) maxUnsigned) else none
  | _ => none

end DocQuery
