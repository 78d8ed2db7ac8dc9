import Mathlib.Data.List.Forall2
import Ripple.Proofs.Codebase.Overriding

/-!
# Populating in place, in any order

Types can be populated in place, one after the other: first each gets the names of all its
ancestors, then each inherits the members of its bases. Both times what other types have is read in
a copy that was made before, so it makes no difference in what order the types are gone through, and
what comes out is what completing each type gives.
-/

namespace Ripple

namespace TypeDecl

/-! ## One type after the other -/

section modify

variable {α : Type} {f : α → α}

theorem getElem?_foldl_modify {order : List Nat} (hnodup : order.Nodup) (xs : List α) (j : Nat) :
    (order.foldl (fun xs i => xs.modify i f) xs)[j]? =
      if j ∈ order then xs[j]?.map f else xs[j]? := by
  induction order generalizing xs with
  | nil => rfl
  | cons i order ih =>
    obtain ⟨hi, hnodup⟩ := List.nodup_cons.1 hnodup
    rw [List.foldl_cons, ih hnodup, List.getElem?_modify]
    by_cases hij : i = j
    · subst hij
      simp [hi]
    · simp [hij, Ne.symm hij]

/-- Where each element has its turn once, all of them are changed. -/
theorem foldl_modify_of_perm {order : List Nat} {xs : List α}
    (h : order.Perm (List.range xs.length)) :
    order.foldl (fun xs i => xs.modify i f) xs = xs.map f := by
  refine List.ext_getElem? fun j => ?_
  rw [getElem?_foldl_modify (h.nodup_iff.2 List.nodup_range), List.getElem?_map]
  split
  next => rfl
  next hj =>
    rw [h.mem_iff, List.mem_range, Nat.not_lt] at hj
    rw [List.getElem?_eq_none hj]
    rfl

end modify

/-! ## The two phases -/

/-- A type with the names of all its ancestors as its base types. -/
def withAncestors (declared : List TypeDecl) (t : TypeDecl) : TypeDecl :=
  { t with baseTypes := ancestors declared t }

/-- Gives the types at some positions, one after the other, the names of all their ancestors. -/
def resolveBases (declared : List TypeDecl) (order : List Nat) : List TypeDecl :=
  order.foldl (fun types i => types.modify i (withAncestors declared)) declared

/-- Lets the types at some positions, one after the other, inherit the members of their bases. -/
def inheritMembers (resolved : List TypeDecl) (order : List Nat) : List TypeDecl :=
  order.foldl (fun types i =>
    types.modify i fun t => (t.baseTypes.filterMap (first? resolved)).foldl inheritFrom t) resolved

/-- However the types are gone through in either phase, completing each of them comes out. -/
theorem inheritMembers_resolveBases {declared : List TypeDecl} {order order' : List Nat}
    (h : order.Perm (List.range declared.length)) (h' : order'.Perm (List.range declared.length)) :
    inheritMembers (resolveBases declared order) order' = (Codebase.ofDeclared declared).types := by
  have hresolved : resolveBases declared order = declared.map (withAncestors declared) :=
    foldl_modify_of_perm h
  have hlength : (resolveBases declared order).length = declared.length := by
    rw [hresolved, List.length_map]
  rw [inheritMembers, foldl_modify_of_perm (by rwa [hlength]), hresolved, List.map_map,
    Codebase.ofDeclared]
  refine List.map_congr_left fun t _ => ?_
  have hbases : (ancestors declared t).filterMap (first? (declared.map (withAncestors declared))) =
      ((ancestors declared t).filterMap (first? declared)).map (withAncestors declared) := by
    have hname (t : TypeDecl) : (withAncestors declared t).fullName = t.fullName := rfl
    rw [List.map_filterMap]
    exact List.filterMap_congr fun name _ => first?_map hname declared name
  -- what a type inherits from a base does not depend on the base types of that
  calc ((ancestors declared t).filterMap (first? (declared.map (withAncestors declared)))).foldl
        inheritFrom (withAncestors declared t)
      = (((ancestors declared t).filterMap (first? declared)).map (withAncestors declared)).foldl
          inheritFrom (withAncestors declared t) := by rw [hbases]
    _ = complete declared t := List.foldl_map

end TypeDecl

open TypeDecl

/-- Populating types keeps how many there are, their order, their names and their kinds, and lets
each inherit as it should fields, properties and methods from the bases that its base types stand
for. Nothing else comes out when the types are gone through one by one, in whatever order. -/
theorem members_are_inherited_in_order (declared : List TypeDecl) :
    List.Forall₂ (fun t populated : TypeDecl =>
        populated.fullName = t.fullName ∧ populated.kind = t.kind ∧
        lenders declared t =
          (populated.baseTypes.filterMap (first? declared)).filter (!·.isInterface) ∧
        MemberKind.fieldKind.Inherits declared t populated ∧
        MemberKind.propertyKind.Inherits declared t populated ∧
        MemberKind.methodKind.Inherits declared t populated)
      declared (Codebase.ofDeclared declared).types ∧
    ∀ order order' : List Nat, order.Perm (List.range declared.length) →
      order'.Perm (List.range declared.length) →
        inheritMembers (resolveBases declared order) order' =
          (Codebase.ofDeclared declared).types := by
  refine ⟨?_, fun order order' => inheritMembers_resolveBases⟩
  rw [Codebase.ofDeclared, List.forall₂_map_right_iff, List.forall₂_same]
  intro t _
  exact ⟨fullName_complete declared t, kind_complete declared t, by rw [baseTypes_complete]; rfl,
    MemberKind.inherits_complete _ MemberKind.lawful_fieldKind declared t,
    MemberKind.inherits_complete _ MemberKind.lawful_propertyKind declared t,
    MemberKind.inherits_complete _ MemberKind.lawful_methodKind declared t⟩

namespace Relay

/-- Orders and orders in a rush, each a base of the other, inherit the same in another order. -/
theorem orders_inherit_in_any_order :
    [2, 0, 1].Perm (List.range orders.length) ∧ [1, 2, 0].Perm (List.range orders.length) ∧
    inheritMembers (resolveBases orders [2, 0, 1]) [1, 2, 0] =
      (Codebase.ofDeclared orders).types := by
  have h : [2, 0, 1].Perm (List.range orders.length) := by decide
  have h' : [1, 2, 0].Perm (List.range orders.length) := by decide
  exact ⟨h, h', (members_are_inherited_in_order orders).2 _ _ h h'⟩

end Relay

end Ripple
