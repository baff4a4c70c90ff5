import DocQuery.Proofs.Path.Copying
import DocQuery.Proofs.Path.Writing

/-!
# Removing and copying again

A list of removals carried out twice is carried out once (`removeAll_removeAll`), since a removal
leaves nothing that the same removal, or one further down, would find, and no other removal brings
it back.

Copying a list of paths is a question about each field apart: what the target holds there in the end
depends on what the source holds there and on the rests of the paths that start with the field
(`get?_copyAll`). A copy of the copy reads other fields than the first one did. An array has lost
the items that are no objects, and so a path that began anew in the first copy finds its items in
the second. The second copy may therefore start from more than the first: `Settles` says that it
makes nothing of that, for one value, and `copyAll_copyAll` for a whole document. Both go together,
down the paths.
-/

namespace DocQuery.Path

/-! ## Removing again -/

theorem remove_of_missing {key : String} {doc : Document} (h : doc.get? key = none) (rest : Path) :
    remove (key :: rest) doc = doc := by
  cases rest with
  | nil => exact FieldMap.erase_of_get?_eq_none h
  | cons next more =>
      rw [remove_cons key (List.cons_ne_nil _ _), FieldMap.modify_of_get?_eq_none h]

theorem removeWithin_removeWithin {p q : Path}
    (h : ∀ {fields}, (Value.object fields).WellFormed →
      remove q (remove p fields) = remove p fields)
    {v : Value} (hv : v.WellFormed) : removeWithin q (removeWithin p v) = removeWithin p v := by
  cases v with
  | object fields => exact congrArg Value.object (h hv)
  | array items =>
      rw [removeWithin, removeWithin, List.map_map]
      refine congrArg Value.array (List.map_congr_left fun item hitem => ?_)
      cases item with
      | object fields => exact congrArg Value.object (h (Value.wellFormed_array.mp hv _ hitem))
      | _ => rfl
  | _ => rfl

/-- At a removed path, and below it, nothing is left to remove. -/
theorem remove_remove_below {p q : Path} (hp : p ≠ []) (hpq : p <+: q) {doc : Document}
    (hdoc : (Value.object doc).WellFormed) : remove q (remove p doc) = remove p doc := by
  obtain ⟨rest, rfl⟩ := hpq
  induction p generalizing doc with
  | nil => exact absurd rfl hp
  | cons key tail ih =>
      rw [List.cons_append]
      by_cases htail : tail = []
      · subst htail
        exact remove_of_missing (get?_remove_last hdoc key) rest
      · have hne : tail ++ rest ≠ [] := List.append_ne_nil_of_left_ne_nil htail rest
        rw [remove_cons key htail, remove_cons key hne, FieldMap.modify_modify]
        refine FieldMap.modify_congr fun held hget => ?_
        exact removeWithin_removeWithin (fun hfields => ih htail hfields) (hdoc.held hget)

/-- Where there is nothing to remove, no other removal brings it back. -/
theorem remove_remove_of_eq {p q : Path} (hp : p ≠ []) (hq : q ≠ []) {doc : Document}
    (hdoc : (Value.object doc).WellFormed) (h : remove p doc = doc) :
    remove p (remove q doc) = remove q doc := by
  by_cases hoverlap : Overlap p q
  · rcases hoverlap with hpq | hqp
    · have hnone : remove q doc = doc := by
        rw [← h, remove_remove_below hp hpq hdoc]
      rw [hnone, h]
    · exact remove_remove_below hq hqp hdoc
  · rw [remove_comm hoverlap, h]

theorem remove_removeAll_of_eq {paths : List Path} (hpaths : ∀ q ∈ paths, q ≠ []) {p : Path}
    (hp : p ≠ []) {doc : Document} (hdoc : (Value.object doc).WellFormed) (h : remove p doc = doc) :
    remove p (removeAll paths doc) = removeAll paths doc := by
  induction paths generalizing doc with
  | nil => exact h
  | cons q others ih =>
      obtain ⟨hq, hothers⟩ := List.forall_mem_cons.mp hpaths
      exact ih hothers (wellFormed_remove hdoc) (remove_remove_of_eq hp hq hdoc h)

theorem remove_removeAll_of_mem {paths : List Path} (hpaths : ∀ q ∈ paths, q ≠ []) {p : Path}
    (hp : p ∈ paths) {doc : Document} (hdoc : (Value.object doc).WellFormed) :
    remove p (removeAll paths doc) = removeAll paths doc := by
  induction paths generalizing doc with
  | nil => cases hp
  | cons q others ih =>
      obtain ⟨hq, hothers⟩ := List.forall_mem_cons.mp hpaths
      rcases List.mem_cons.mp hp with rfl | hp
      · exact remove_removeAll_of_eq hothers hq (wellFormed_remove hdoc)
          (remove_remove_below hq List.prefix_rfl hdoc)
      · exact ih hothers hp (wellFormed_remove hdoc)

theorem removeAll_of_forall {paths : List Path} {doc : Document}
    (h : ∀ p ∈ paths, remove p doc = doc) : removeAll paths doc = doc := by
  induction paths with
  | nil => rfl
  | cons p others ih =>
      obtain ⟨hp, hothers⟩ := List.forall_mem_cons.mp h
      show removeAll others (remove p doc) = doc
      rw [hp, ih hothers]

/-- **Removing again.** Whatever the paths, and however they overlap, removing them a second time
changes nothing. -/
theorem removeAll_removeAll {paths : List Path} (hpaths : ∀ p ∈ paths, p ≠ []) {doc : Document}
    (hdoc : (Value.object doc).WellFormed) :
    removeAll paths (removeAll paths doc) = removeAll paths doc :=
  removeAll_of_forall fun _ hp => remove_removeAll_of_mem hpaths hp hdoc

/-! ## What a field receives -/

/-- What a field of the target holds once a path that starts with it, followed by the given rest,
has been copied from the value in the source. -/
def receive : Path → (held : Value) → (out : Option Value) → Option Value
  | [], held, _ => some held
  | next :: more, held, out => copiedHeld (next :: more) held out

/-- What a field of the target holds after several copies. -/
def receiveAll (tails : List Path) (held : Value) (out : Option Value) : Option Value :=
  tails.foldl (fun out tail => receive tail held out) out

/-- Copies paths one after the other. -/
def copyAll (paths : List Path) (src dst : Document) : Document :=
  paths.foldl (fun kept p => copy p src kept) dst

/-- The rests of the paths that start with a name. -/
def tailsAt (key : String) (paths : List Path) : List Path :=
  paths.filterMap fun
    | [] => none
    | name :: tail => if name = key then some tail else none

/-- Whether the value is an object or an array. -/
def isContainer : Value → Bool
  | .object _ => true
  | .array _ => true
  | _ => false

/-- Whether a copy makes the field if the target does not have it. -/
def makes (tail : Path) (held : Value) : Bool := tail.isEmpty || isContainer held

section Fields

variable {src dst : Document} {key : String} {held : Value} {out : Option Value}
  {tails paths : List Path}

theorem receive_of_ne_nil {tail : Path} (h : tail ≠ []) :
    receive tail held out = copiedHeld tail held out := by
  obtain ⟨next, more, rfl⟩ := List.exists_cons_of_ne_nil h
  rfl

theorem isSome_receive (tail : Path) (held : Value) (out : Option Value) :
    (receive tail held out).isSome = (makes tail held || out.isSome) := by
  cases tail with
  | nil => rfl
  | cons next more =>
      cases held <;> cases out with
      | none => rfl
      | some w => cases w <;> rfl

theorem copy_of_get? (h : src.get? key = some held) (tail : Path) :
    copy (key :: tail) src dst = dst.put key (receive tail held (dst.get? key)) := by
  cases tail with
  | nil =>
      rw [copy, h]
      rfl
  | cons next more =>
      rw [copy, h]
      cases hget : dst.get? key with
      | none => cases held <;> first | rfl | exact (FieldMap.erase_of_get?_eq_none hget).symm
      | some w =>
          cases held <;> cases w <;> first | rfl | exact (FieldMap.insert_of_get? hget).symm

theorem get?_copy_of_get? (h : src.get? key = some held) (tail : Path) :
    (copy (key :: tail) src dst).get? key = receive tail held (dst.get? key) := by
  cases tail with
  | nil =>
      rw [copy, h]
      exact FieldMap.get?_insert_self dst key held
  | cons next more => exact get?_copy_self h (List.cons_ne_nil _ _)

/-- What is copied to a field, and how, is decided by the rests of the paths that start with it. -/
theorem get?_copyAll (paths : List Path) (src dst : Document) (key : String) :
    (copyAll paths src dst).get? key
      = (src.get? key).elim (dst.get? key) fun held =>
          receiveAll (tailsAt key paths) held (dst.get? key) := by
  induction paths generalizing dst with
  | nil => cases src.get? key <;> rfl
  | cons p others ih =>
      show (copyAll others src (copy p src dst)).get? key = _
      rw [ih]
      match p with
      | [] => rfl
      | name :: tail =>
          by_cases hname : name = key
          · subst hname
            have htails : tailsAt name ((name :: tail) :: others)
                = tail :: tailsAt name others := by
              simp [tailsAt]
            rw [htails]
            cases hget : src.get? name with
            | none =>
                rw [copy_of_missing hget]
                rfl
            | some held =>
                rw [get?_copy_of_get? hget]
                rfl
          · have htails : tailsAt key ((name :: tail) :: others) = tailsAt key others := by
              simp [tailsAt, hname]
            rw [htails, get?_copy_of_ne hname]

/-! ## The keys of a copy -/

theorem keys_copy (key : String) (tail : Path) (src dst : Document) :
    (copy (key :: tail) src dst).keys
      = if (src.get? key).any (makes tail) ∧ key ∉ dst.keys then dst.keys ++ [key]
        else dst.keys := by
  cases hget : src.get? key with
  | none => simp [copy_of_missing hget]
  | some held =>
      have hsome := isSome_receive tail held (dst.get? key)
      rw [copy_of_get? hget, Option.any_some]
      cases hreceive : receive tail held (dst.get? key) with
      | none =>
          rw [hreceive] at hsome
          obtain ⟨hmakes, hout⟩ : makes tail held = false ∧ (dst.get? key).isSome = false := by
            simpa using hsome.symm
          rw [FieldMap.put, FieldMap.erase_of_get?_eq_none (by simpa using hout),
            if_neg (by simp [hmakes])]
      | some w =>
          rw [FieldMap.put, FieldMap.keys_insert]
          by_cases hkey : key ∈ dst.keys
          · simp [hkey]
          · have hnone : dst.get? key = none := FieldMap.get?_eq_none_iff.mpr hkey
            rw [hreceive, hnone] at hsome
            have hmakes : makes tail held = true := by simpa using hsome.symm
            simp [hkey, hmakes]

theorem distinctKeys_copy (p : Path) (src : Document) (h : dst.DistinctKeys) :
    (copy p src dst).DistinctKeys := by
  match p with
  | [] => exact h
  | key :: tail =>
      cases hget : src.get? key with
      | none =>
          rw [copy_of_missing hget]
          exact h
      | some held =>
          rw [copy_of_get? hget]
          exact h.put key _

theorem distinctKeys_copyAll (h : dst.DistinctKeys) : (copyAll paths src dst).DistinctKeys := by
  induction paths generalizing dst with
  | nil => exact h
  | cons p others ih => exact ih (distinctKeys_copy p src h)

/-- A target with all the fields of the source gets no new ones. -/
theorem keys_copyAll_of_subset (h : src.keys ⊆ dst.keys) :
    (copyAll paths src dst).keys = dst.keys := by
  induction paths generalizing dst with
  | nil => rfl
  | cons p others ih =>
      have hkeys : (copy p src dst).keys = dst.keys := by
        match p with
        | [] => rfl
        | key :: tail =>
            rw [keys_copy, if_neg]
            rintro ⟨hmakes, hkey⟩
            rw [FieldMap.get?_eq_none_iff.mpr fun hmem => hkey (h hmem)] at hmakes
            cases hmakes
      show (copyAll others src (copy p src dst)).keys = _
      rw [ih (hkeys ▸ h), hkeys]

theorem copyAll_of_missing (h : src.get? key = none) (hpaths : ∀ p ∈ paths, p.head? = some key)
    (dst : Document) : copyAll paths src dst = dst := by
  induction paths with
  | nil => rfl
  | cons p others ih =>
      obtain ⟨hp, hothers⟩ := List.forall_mem_cons.mp hpaths
      obtain ⟨tail, rfl⟩ := List.head?_eq_some_iff.mp hp
      show copyAll others src (copy (key :: tail) src dst) = dst
      rw [copy_of_missing h, ih hothers]

/-- Two sources give a target the same keys, in the same order, if the paths make the same fields
from both. -/
theorem keys_copyAll_congr {src' dst' : Document} (hdst : dst.keys = dst'.keys)
    (h : ∀ key tail, key :: tail ∈ paths →
      (src.get? key).any (makes tail) = (src'.get? key).any (makes tail)) :
    (copyAll paths src dst).keys = (copyAll paths src' dst').keys := by
  induction paths generalizing dst dst' with
  | nil => exact hdst
  | cons p others ih =>
      refine ih ?_ fun key tail hmem => h key tail (List.mem_cons_of_mem _ hmem)
      match p, h with
      | [], _ => exact hdst
      | key :: tail, h => rw [keys_copy, keys_copy, hdst, h key tail (List.mem_cons_self ..)]

/-- Paths that start with one name make that field at most, behind the others. -/
theorem keys_copyAll_at (hpaths : ∀ p ∈ paths, p.head? = some key) :
    (copyAll paths src dst).keys = dst.keys
      ∨ key ∉ dst.keys ∧ (copyAll paths src dst).keys = dst.keys ++ [key] := by
  induction paths generalizing dst with
  | nil => exact .inl rfl
  | cons p others ih =>
      obtain ⟨hp, hothers⟩ := List.forall_mem_cons.mp hpaths
      obtain ⟨tail, rfl⟩ := List.head?_eq_some_iff.mp hp
      show (copyAll others src (copy (key :: tail) src dst)).keys = dst.keys
        ∨ key ∉ dst.keys ∧
          (copyAll others src (copy (key :: tail) src dst)).keys = dst.keys ++ [key]
      rcases ih hothers with hsame | ⟨hnew, hone⟩
      · rw [hsame, keys_copy]
        split
        · rename_i hmakes
          exact .inr ⟨hmakes.2, rfl⟩
        · exact .inl rfl
      · rw [keys_copy] at hnew
        split at hnew
        · exact absurd (List.mem_append_right _ (List.mem_singleton_self key)) hnew
        · rename_i hmakes
          rw [hone, keys_copy, if_neg hmakes]
          exact .inr ⟨hnew, rfl⟩

/-! ## The kinds of received values -/

theorem isSome_receiveAll (tails : List Path) (held : Value) (out : Option Value) :
    (receiveAll tails held out).isSome = (tails.any (makes · held) || out.isSome) := by
  induction tails generalizing out with
  | nil => rfl
  | cons tail others ih =>
      show (receiveAll others held (receive tail held out)).isSome = _
      rw [ih, isSome_receive, List.any_cons]
      simp only [Bool.or_left_comm, Bool.or_assoc]

theorem isContainer_receive {tail : Path}
    (h : ∀ w, out = some w → isContainer w = isContainer held) :
    ∀ w, receive tail held out = some w → isContainer w = isContainer held := by
  intro w hw
  cases tail with
  | nil =>
      obtain rfl := Option.some.inj hw
      rfl
  | cons next more =>
      rw [receive_of_ne_nil (List.cons_ne_nil _ _)] at hw
      unfold copiedHeld at hw
      split at hw
      case h_5 => exact h w hw
      all_goals
        obtain rfl := Option.some.inj hw
        rfl

theorem isContainer_receiveAll (h : ∀ w, out = some w → isContainer w = isContainer held) :
    ∀ w, receiveAll tails held out = some w → isContainer w = isContainer held := by
  induction tails generalizing out with
  | nil => exact h
  | cons tail others ih => exact ih (isContainer_receive h)

/-- What a copy makes, a copy of the copy makes. -/
theorem any_makes_copyAll {tail : Path} (hmem : key :: tail ∈ paths) :
    ((copyAll paths src []).get? key).any (makes tail) = (src.get? key).any (makes tail) := by
  rw [get?_copyAll]
  cases src.get? key with
  | none => rfl
  | some held =>
      have htail : tail ∈ tailsAt key paths := List.mem_filterMap.mpr ⟨_, hmem, by simp⟩
      show (receiveAll (tailsAt key paths) held none).any (makes tail) = makes tail held
      cases hreceive : receiveAll (tailsAt key paths) held none with
      | some w =>
          have hempty : ∀ w, (none : Option Value) = some w →
              isContainer w = isContainer held := nofun
          have hkind := isContainer_receiveAll hempty w hreceive
          rw [Option.any_some, makes, hkind, makes]
      | none =>
          have hnone : (tailsAt key paths).any (makes · held) = false := by
            simpa [hreceive] using isSome_receiveAll (tailsAt key paths) held none
          rw [Option.any_none]
          exact (Bool.eq_false_iff.mpr (List.any_eq_false.mp hnone tail htail)).symm

end Fields

/-! ## One copy, kind by kind -/

section Kinds

variable {tails : List Path} {held : Value}

/-- What a copy starts from: nothing, or the value itself. -/
def start (whole : Bool) (held : Value) : Option Value := if whole then some held else none

/-- What the copy of a document starts from. -/
def begun (whole : Bool) (doc : Document) : Document := if whole then doc else []

theorem get?_begun (whole : Bool) (doc : Document) (key : String) :
    (begun whole doc).get? key = (doc.get? key).bind (start whole) := by
  cases whole with
  | false => cases doc.get? key <;> rfl
  | true => cases h : doc.get? key <;> exact h

theorem receive_of_not_container (hheld : isContainer held = false) {tail : Path}
    (htail : tail ≠ []) (out : Option Value) : receive tail held out = out := by
  rw [receive_of_ne_nil htail]
  cases held with
  | object fields => cases hheld
  | array items => cases hheld
  | _ => rfl

theorem receiveAll_of_not_container (hheld : isContainer held = false) (htails : [] ∉ tails)
    (out : Option Value) : receiveAll tails held out = out := by
  induction tails generalizing out with
  | nil => rfl
  | cons tail others ih =>
      obtain ⟨htail, hothers⟩ := not_or.mp (mt List.mem_cons.mpr htails)
      exact (ih hothers _).trans (receive_of_not_container hheld (Ne.symm htail) out)

theorem receiveAll_object (htails : [] ∉ tails) (src dst : Document) :
    receiveAll tails (.object src) (some (.object dst))
      = some (.object (copyAll tails src dst)) := by
  induction tails generalizing dst with
  | nil => rfl
  | cons tail others ih =>
      obtain ⟨htail, hothers⟩ := not_or.mp (mt List.mem_cons.mpr htails)
      show receiveAll others (.object src) (receive tail (.object src) (some (.object dst))) = _
      rw [receive_of_ne_nil (Ne.symm htail)]
      exact ih hothers (copy tail src dst)

theorem receiveAll_object_start (hne : tails ≠ []) (htails : [] ∉ tails) (whole : Bool)
    (src : Document) :
    receiveAll tails (.object src) (start whole (.object src))
      = some (.object (copyAll tails src (begun whole src))) := by
  obtain ⟨tail, others, rfl⟩ := List.exists_cons_of_ne_nil hne
  obtain ⟨htail, hothers⟩ := not_or.mp (mt List.mem_cons.mpr htails)
  have hfirst : receive tail (.object src) (start whole (.object src))
      = some (.object (copy tail src (begun whole src))) := by
    rw [receive_of_ne_nil (Ne.symm htail)]
    cases whole <;> rfl
  show receiveAll others _ (receive tail _ _) = _
  rw [hfirst]
  exact receiveAll_object hothers src _

/-- Objects are copied one by one into as many receivers. -/
theorem copyItems_eq_map {items others : List Value} {sources : List Document}
    (hitems : items.filterMap Value.fields? = sources) {g : Document → Document}
    (hothers : receivers others sources.length = (sources.map g).map .object)
    (f : Document → Document → Document) :
    copy.copyItems f items others = (sources.map fun src => f src (g src)).map .object := by
  rw [copy.copyItems, hitems, hothers, List.map_map, List.map_map, List.zipWith_map_right,
    List.zipWith_self]
  rfl

theorem receiveAll_array (htails : [] ∉ tails) {items : List Value} {sources : List Document}
    (hitems : items.filterMap Value.fields? = sources) (g : Document → Document) :
    receiveAll tails (.array items) (some (.array ((sources.map g).map .object)))
      = some (.array ((sources.map fun src => copyAll tails src (g src)).map .object)) := by
  induction tails generalizing g with
  | nil => rfl
  | cons tail others ih =>
      obtain ⟨htail, hothers⟩ := not_or.mp (mt List.mem_cons.mpr htails)
      have hreceivers : receivers ((sources.map g).map .object) sources.length
          = (sources.map g).map .object := if_pos (by simp)
      have hfirst : receive tail (.array items) (some (.array ((sources.map g).map .object)))
          = some (.array ((sources.map fun src => copy tail src (g src)).map .object)) := by
        rw [receive_of_ne_nil (Ne.symm htail), ← copyItems_eq_map hitems hreceivers]
        rfl
      show receiveAll others _ (receive tail _ _) = _
      rw [hfirst]
      exact ih hothers fun src => copy tail src (g src)

theorem receivers_nil (count : Nat) : receivers [] count = List.replicate count (.object []) := by
  cases count <;> rfl

/-- An array is copied into its own items only if all of them are objects. -/
theorem receivers_start {items : List Value} {sources : List Document}
    (hitems : items.filterMap Value.fields? = sources) (whole : Bool) :
    receivers (if whole then items else []) sources.length
      = (sources.map (begun (whole && items.all Value.isObject))).map .object := by
  have hempty : List.replicate sources.length (Value.object [])
      = (sources.map (begun false)).map .object := by
    rw [List.map_map]
    exact (List.map_const' ..).symm
  cases whole with
  | false => exact (receivers_nil _).trans hempty
  | true =>
      rw [if_pos rfl, Bool.true_and, receivers]
      by_cases hall : ∀ item ∈ items, item.isObject = true
      · have hsame := Value.eq_map_object hall
        rw [hitems] at hsame
        rw [List.all_eq_true.mpr hall, if_pos (by rw [hsame, List.length_map])]
        exact hsame.trans (congrArg _ (List.map_id sources).symm)
      · have hfewer : sources.length < items.length := by
          rw [← hitems, List.length_filterMap_lt_length_iff_exists]
          push Not at hall
          obtain ⟨item, hitem, hobject⟩ := hall
          refine ⟨item, hitem, ?_⟩
          cases item with
          | object fields => exact absurd rfl hobject
          | _ => rfl
        rw [Bool.eq_false_iff.mpr (mt List.all_eq_true.mp hall), if_neg (Nat.ne_of_gt hfewer)]
        exact hempty

theorem receiveAll_array_start (hne : tails ≠ []) (htails : [] ∉ tails) (whole : Bool)
    {items : List Value} {sources : List Document}
    (hitems : items.filterMap Value.fields? = sources) :
    receiveAll tails (.array items) (start whole (.array items))
      = some (.array ((sources.map fun src =>
          copyAll tails src (begun (whole && items.all Value.isObject) src)).map .object)) := by
  obtain ⟨tail, others, rfl⟩ := List.exists_cons_of_ne_nil hne
  obtain ⟨htail, hothers⟩ := not_or.mp (mt List.mem_cons.mpr htails)
  have hfirst : receive tail (.array items) (start whole (.array items))
      = some (.array ((sources.map fun src =>
          copy tail src (begun (whole && items.all Value.isObject) src)).map .object)) := by
    rw [receive_of_ne_nil (Ne.symm htail), ← copyItems_eq_map hitems (receivers_start hitems whole)]
    cases whole <;> rfl
  show receiveAll others _ (receive tail _ _) = _
  rw [hfirst]
  exact receiveAll_array hothers hitems _

end Kinds

/-! ## Copying again -/

/-- What a first copy leaves of a value, a second one leaves alone, even if it starts from more. -/
def Settles (tails : List Path) : Prop :=
  ∀ (held out : Value) (whole again : Bool), held.WellFormed → (whole = true → again = true) →
    receiveAll tails held (start whole held) = some out →
    receiveAll tails out (start again out) = some out

theorem distinctKeys_begun {doc : Document} (h : doc.DistinctKeys) (whole : Bool) :
    (begun whole doc).DistinctKeys := by
  cases whole with
  | false => exact List.nodup_nil
  | true => exact h

section Documents

variable {paths : List Path} {doc row : Document} {whole again : Bool}

theorem get?_copyAll_begun (paths : List Path) (doc : Document) (whole : Bool) (key : String) :
    (copyAll paths doc (begun whole doc)).get? key
      = (doc.get? key).bind fun held => receiveAll (tailsAt key paths) held (start whole held) := by
  rw [get?_copyAll, get?_begun]
  cases doc.get? key <;> rfl

/-- The copy of a copy has the keys of the copy: those it began with, or those it makes in turn. -/
theorem keys_copyAll_begun_again (hagain : whole = true → again = true)
    (hrow : copyAll paths doc (begun whole doc) = row) :
    (copyAll paths row (begun again row)).keys = row.keys := by
  cases again with
  | true => exact keys_copyAll_of_subset (List.Subset.refl _)
  | false =>
      obtain rfl : whole = false :=
        Bool.eq_false_iff.mpr fun h => absurd (hagain h) Bool.false_ne_true
      have hsame : (copyAll paths row []).keys = (copyAll paths doc []).keys := by
        refine keys_copyAll_congr rfl fun key tail hmem => ?_
        rw [← hrow]
        exact any_makes_copyAll hmem
      exact hsame.trans (congrArg FieldMap.keys hrow)

/-- A document settles when its fields do. -/
theorem copyAll_begun_again (hpaths : ∀ key, Settles (tailsAt key paths))
    (hdoc : (Value.object doc).WellFormed) (hagain : whole = true → again = true)
    (hrow : copyAll paths doc (begun whole doc) = row) :
    copyAll paths row (begun again row) = row := by
  have hdistinct : row.DistinctKeys := by
    rw [← hrow]
    exact distinctKeys_copyAll (distinctKeys_begun (Value.wellFormed_object.mp hdoc).1 whole)
  have hkeys := (keys_copyAll_begun_again hagain hrow).symm
  refine (FieldMap.eq_of_keys_of_get? hdistinct hkeys fun key => ?_).symm
  have hget := get?_copyAll_begun paths doc whole key
  rw [hrow] at hget
  rw [get?_copyAll_begun]
  cases hout : row.get? key with
  | none => rfl
  | some out =>
      rw [hout] at hget
      obtain ⟨held, hheld, hreceive⟩ := Option.bind_eq_some_iff.mp hget.symm
      exact (hpaths key held out whole again (hdoc.held hheld) hagain hreceive).symm

end Documents

theorem receiveAll_rows {tails : List Path} (hne : tails ≠ []) (htails : [] ∉ tails) (again : Bool)
    (rows : List Document) :
    receiveAll tails (.array (rows.map .object)) (start again (.array (rows.map .object)))
      = some (.array ((rows.map fun row => copyAll tails row (begun again row)).map .object)) := by
  have hobjects : (rows.map Value.object).all Value.isObject = true :=
    List.all_eq_true.mpr (List.forall_mem_map.mpr fun _ _ => rfl)
  rw [receiveAll_array_start hne htails again (Value.filterMap_fields?_map_object rows), hobjects,
    Bool.and_true]

theorem settles_of_same {tails : List Path} {held out : Value} {whole again : Bool}
    (hsame : ∀ w, receiveAll tails held w = w) (hagain : whole = true → again = true)
    (h : receiveAll tails held (start whole held) = some out) :
    receiveAll tails out (start again out) = some out := by
  rw [hsame] at h
  cases whole with
  | false => cases h
  | true =>
      obtain rfl := Option.some.inj h
      rw [hsame, hagain rfl]
      rfl

/-- An object settles as a document, and so does each object of an array. -/
theorem settles_of_not_mem {tails : List Path} (htails : [] ∉ tails)
    (hbelow : ∀ key, Settles (tailsAt key tails)) : Settles tails := by
  intro held out whole again hheld hagain hout
  by_cases hne : tails = []
  · subst hne
    exact settles_of_same (fun _ => rfl) hagain hout
  · cases held with
    | object src =>
        rw [receiveAll_object_start hne htails] at hout
        obtain rfl := Option.some.inj hout
        rw [receiveAll_object_start hne htails, copyAll_begun_again hbelow hheld hagain rfl]
    | array items =>
        -- the items that are no objects are gone, so the second copy may begin with whole items
        have hwhole : (whole && items.all Value.isObject) = true → again = true := fun h =>
          hagain (Bool.and_eq_true_iff.mp h).1
        rw [receiveAll_array_start hne htails whole rfl] at hout
        obtain rfl := Option.some.inj hout
        rw [receiveAll_rows hne htails, List.map_congr_left (g := id), List.map_id]
        refine List.forall_mem_map.mpr fun src hsrc => ?_
        obtain ⟨item, hitem, hfields⟩ := List.mem_filterMap.mp hsrc
        obtain rfl := Value.fields?_eq_some.mp hfields
        exact copyAll_begun_again hbelow (Value.wellFormed_array.mp hheld _ hitem) hwhole rfl
    | _ => exact settles_of_same (receiveAll_of_not_container rfl htails) hagain hout

/-- A whole value replaces what was copied before it. -/
theorem Settles.behind {tails : List Path} (h : Settles tails) (front : List Path) :
    Settles (front ++ [] :: tails) := by
  have hlast (held : Value) (out : Option Value) :
      receiveAll (front ++ [] :: tails) held out = receiveAll tails held (start true held) := by
    rw [receiveAll, List.foldl_append]
    rfl
  intro held out whole again hheld _ hout
  rw [hlast] at hout ⊢
  exact h held out true true hheld id hout

/-- The last of the whole values in a list of copies, and what comes behind it. -/
theorem exists_last_nil {tails : List Path} (h : [] ∈ tails) :
    ∃ front rest, tails = front ++ [] :: rest ∧ [] ∉ rest := by
  induction tails with
  | nil => cases h
  | cons tail others ih =>
      by_cases hothers : [] ∈ others
      · obtain ⟨front, rest, rfl, hrest⟩ := ih hothers
        exact ⟨tail :: front, rest, rfl, hrest⟩
      · obtain rfl := (List.mem_cons.mp h).resolve_right hothers
        exact ⟨[], others, rfl, hothers⟩

theorem mem_of_mem_tailsAt {key : String} {paths : List Path} {tail : Path}
    (h : tail ∈ tailsAt key paths) : key :: tail ∈ paths := by
  obtain ⟨p, hp, htail⟩ := List.mem_filterMap.mp h
  match p with
  | [] => cases htail
  | name :: rest =>
      obtain ⟨rfl, heq⟩ := Option.ite_none_right_eq_some.mp htail
      obtain rfl := Option.some.inj heq
      exact hp

theorem settles_of_length (n : Nat) {tails : List Path} (h : ∀ tail ∈ tails, tail.length < n) :
    Settles tails := by
  induction n generalizing tails with
  | zero =>
      obtain rfl : tails = [] :=
        List.eq_nil_iff_forall_not_mem.mpr fun tail hmem => Nat.not_lt_zero _ (h tail hmem)
      intro held out whole again _ hagain hout
      exact settles_of_same (fun _ => rfl) hagain hout
  | succ n ih =>
      have hplain {rest : List Path} (hrest : ∀ tail ∈ rest, tail.length < n + 1)
          (hnil : [] ∉ rest) : Settles rest :=
        settles_of_not_mem hnil fun key => ih fun tail htail =>
          Nat.lt_of_succ_lt_succ (hrest _ (mem_of_mem_tailsAt htail))
      by_cases hnil : [] ∈ tails
      · obtain ⟨front, rest, rfl, hrest⟩ := exists_last_nil hnil
        refine (hplain (fun tail htail => h tail ?_) hrest).behind front
        exact List.mem_append_right _ (List.mem_cons_of_mem _ htail)
      · exact hplain h hnil

/-- Every list of paths settles, by induction on their lengths. -/
theorem settles (tails : List Path) : Settles tails := by
  refine settles_of_length (tails.flatten.length + 1) fun tail htail => ?_
  exact Nat.lt_succ_of_le (List.sublist_flatten_of_mem htail).length_le

/-- **Copying again.** Whatever the paths, and however they overlap, copying them from a copy gives
the copy. -/
theorem copyAll_copyAll (paths : List Path) {doc : Document}
    (hdoc : (Value.object doc).WellFormed) :
    copyAll paths (copyAll paths doc []) [] = copyAll paths doc [] := by
  have hnothing : false = true → false = true := id
  exact copyAll_begun_again (fun _ => settles _) hdoc hnothing rfl

end DocQuery.Path
