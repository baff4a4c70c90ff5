import DocQuery.Path.Basic

/-!
# Writing along a path

`set` writes a value and makes an object of every parent that is none. `remove` takes a field away,
also from the objects of an array on the way. `copy` carries one path of a document over to another,
keeping the nesting.
-/

namespace DocQuery.Path

/-- The fields of the object under a key; none if there is no object. -/
def fieldsUnder (doc : Document) (key : String) : Document :=
  ((doc.get? key).bind Value.fields?).getD []

/-- Writes a value at a path. -/
def set : Path → Value → Document → Document
  | [], _, doc => doc
  | [key], value, doc => doc.insert key value
  | key :: next :: rest, value, doc =>
    doc.insert key (.object (set (next :: rest) value (fieldsUnder doc key)))

/-- Removes what is at a path; behind an array, from each of its objects. -/
def remove : Path → Document → Document
  | [], doc => doc
  | [key], doc => doc.erase key
  | key :: next :: rest, doc =>
    match doc.get? key with
    | some (.object fields) => doc.insert key (.object (remove (next :: rest) fields))
    | some (.array items) =>
      doc.insert key (.array (items.map (Value.mapFields (remove (next :: rest)))))
    | _ => doc

/-- The items of an array that is to receive one object for each of `count` objects: the array
itself if it has that length, and otherwise as many empty objects. -/
def receivers (out : List Value) (count : Nat) : List Value :=
  if out.length = count then out else List.replicate count (.object [])

/-- Copies what is at a path of `src` into `dst`. An object is copied into the object that is there,
the objects of an array one by one into the items that are there; where `dst` holds something else,
nothing is copied. -/
def copy : Path → (src dst : Document) → Document
  | [], _, dst => dst
  | [key], src, dst =>
    match src.get? key with
    | some value => dst.insert key value
    | none => dst
  | key :: next :: rest, src, dst =>
    match src.get? key, (dst.get? key) with
    | some (.object inner), none => dst.insert key (.object (copy (next :: rest) inner []))
    | some (.object inner), some (.object out) =>
      dst.insert key (.object (copy (next :: rest) inner out))
    | some (.array items), none =>
      dst.insert key (.array (copyItems (copy (next :: rest)) items []))
    | some (.array items), some (.array out) =>
      dst.insert key (.array (copyItems (copy (next :: rest)) items out))
    | _, _ => dst
where
  /-- Copies the objects among `items` into the items of `out`, one by one. -/
  copyItems (copyFields : Document → Document → Document) (items out : List Value) : List Value :=
    let objects := items.filterMap Value.fields?
    List.zipWith (fun fields => Value.mapFields (copyFields fields)) objects
      (receivers out objects.length)

end DocQuery.Path
