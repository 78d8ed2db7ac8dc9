import Ripple.Code.TypeDecl

/-!
# Inheritance

From declarations to types that know everything they inherit.

* `ancestors` lists the names that a type derives from, directly or through the types those
  names declare first: nearest names first, no name twice, never the type's own.
* `complete` copies the members that those ancestors declare, unless the type has one of that
  name (for methods: of that name and those parameter types) already. Members of interfaces
  are not copied. Copies are made from what ancestors declare, not from what they inherit, so
  the order in which types are completed does not matter.
-/

namespace Ripple

namespace TypeDecl

/-- The first declaration of a full name. -/
def first? (declared : List TypeDecl) (fullName : String) : Option TypeDecl :=
  declared.find? (·.fullName == fullName)

/-- The declarations whose full name is not among `seen`. -/
def unseen (declared : List TypeDecl) (seen : List String) : List TypeDecl :=
  declared.filter (!seen.contains ·.fullName)

theorem unseen_cons (declared : List TypeDecl) (name : String) (seen : List String) :
    unseen declared (name :: seen) = (unseen declared seen).filter (·.fullName != name) := by
  rw [unseen, unseen, List.filter_filter]
  exact List.filter_congr fun d _ => by rw [List.contains_cons, Bool.not_or, bne]

theorem length_unseen_cons_le (declared : List TypeDecl) (name : String) (seen : List String) :
    (unseen declared (name :: seen)).length ≤ (unseen declared seen).length := by
  rw [unseen_cons]
  exact List.length_filter_le ..

theorem length_unseen_cons_lt {declared : List TypeDecl} {name : String} {seen : List String}
    {d : TypeDecl} (hd : first? declared name = some d) (hs : seen.contains name = false) :
    (unseen declared (name :: seen)).length < (unseen declared seen).length := by
  have hname : d.fullName = name := by simpa using List.find?_some hd
  have hmem : d ∈ unseen declared seen :=
    List.mem_filter.2 ⟨List.mem_of_find?_eq_some hd, by rw [hname, hs, Bool.not_false]⟩
  rw [unseen_cons]
  exact List.length_filter_lt_length_iff_exists.2 ⟨d, hmem, by simp [hname]⟩

/-- Walks the names in `queue` breadth first. A name that was `seen`, or that is the type's
own, is skipped; any other is listed, and the bases its first declaration names join the end
of the queue. -/
def ancestorsFrom (declared : List TypeDecl) (own : String) :
    List String → List String → List String
  | [], _ => []
  | name :: queue, seen =>
    if _hs : seen.contains name || name == own then
      ancestorsFrom declared own queue seen
    else
      name ::
        match _hd : first? declared name with
        | some base => ancestorsFrom declared own (queue ++ base.baseTypes) (name :: seen)
        | none => ancestorsFrom declared own queue (name :: seen)
termination_by queue seen => ((unseen declared seen).length, queue.length)
decreasing_by
  · exact Prod.Lex.right _ (by simp)
  · exact Prod.Lex.left _ _ (length_unseen_cons_lt _hd (by simp_all))
  · have := length_unseen_cons_le declared name seen
    rcases Nat.lt_or_eq_of_le this with h | h
    · exact Prod.Lex.left _ _ h
    · rw [h]; exact Prod.Lex.right _ (by simp)

/-- Every name the type derives from, nearest first. -/
def ancestors (declared : List TypeDecl) (t : TypeDecl) : List String :=
  ancestorsFrom declared t.fullName t.baseTypes []

/-- Adds at the end each of `more` that is not the same as one already there. -/
def addMissing {α : Type} (same : α → α → Bool) (members more : List α) : List α :=
  more.foldl (fun known m => if known.any (same · m) then known else known ++ [m]) members

/-- Adds the members that `base` declares and `t` lacks, unless `base` is an interface. -/
def inheritFrom (t base : TypeDecl) : TypeDecl :=
  if base.isInterface then t
  else
    { t with
      fields := addMissing (fun a b => a.name == b.name) t.fields base.fields
      properties := addMissing (fun a b => a.name == b.name) t.properties base.properties
      methods := addMissing Method.sameSignature t.methods base.methods }

/-- The type with all its ancestors named and their declared members copied in that order. -/
def complete (declared : List TypeDecl) (t : TypeDecl) : TypeDecl :=
  let names := ancestors declared t
  (names.filterMap (first? declared)).foldl inheritFrom { t with baseTypes := names }

end TypeDecl

end Ripple
