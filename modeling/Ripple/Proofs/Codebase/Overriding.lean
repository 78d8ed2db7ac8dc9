import Ripple.Proofs.Codebase.Members

/-!
# Which member is inherited

The members of a completed type are its own and, behind them, the first of each that its bases
declare and that it does not have the same of already. A search that cannot tell apart members that
are the same thus finds in the completed type what it would find in the declarations: in its own
members, or else in those of the bases in order.
-/

namespace Ripple

namespace TypeDecl

/-! ## Searching where what is missing was added -/

section addMissing

variable {α : Type} {same : α → α → Bool} {members more : List α} {q : α → Bool}

theorem addMissing_append (members more others : List α) :
    addMissing same members (more ++ others) =
      addMissing same (addMissing same members more) others :=
  List.foldl_append

/-- What is added comes in order, is not the same as what was there, and none of it is the same as
an earlier one. -/
theorem exists_addMissing_eq_append (members more : List α) :
    ∃ added, addMissing same members more = members ++ added ∧ added.Sublist more ∧
      (∀ m ∈ members, ∀ a ∈ added, same m a = false) ∧
      added.Pairwise fun a b => same a b = false := by
  induction more generalizing members with
  | nil =>
    exact ⟨[], (List.append_nil members).symm, List.Sublist.slnil, by simp, List.Pairwise.nil⟩
  | cons first rest ih =>
    rw [addMissing_cons]
    split
    next hknown =>
      obtain ⟨added, hadded, horder, hnew, hdistinct⟩ := ih members
      exact ⟨added, hadded, horder.cons first, hnew, hdistinct⟩
    next hnew =>
      obtain ⟨added, hadded, horder, hothers, hdistinct⟩ := ih (members ++ [first])
      have hfirst : ∀ m ∈ members, same m first = false := by simpa using hnew
      refine ⟨first :: added, by rw [hadded, List.append_assoc]; rfl, horder.cons_cons first,
        fun m hm => List.forall_mem_cons.2 ⟨hfirst m hm, ?_⟩, List.pairwise_cons.2 ⟨?_, hdistinct⟩⟩
      · exact hothers m (List.mem_append_left _ hm)
      · exact hothers first (List.mem_append_right _ List.mem_cons_self)

/-- A search that cannot tell apart what is the same does not miss what was left out. -/
theorem find?_addMissing (hq : ∀ a b, same a b = true → q a = q b) (members more : List α) :
    (addMissing same members more).find? q = (members ++ more).find? q := by
  induction more generalizing members with
  | nil => rw [List.append_nil]; rfl
  | cons first rest ih =>
    rw [addMissing_cons]
    split
    next hknown =>
      -- one of the members that are there is found in place of what is left out
      obtain ⟨known, hmem, hsame⟩ := List.any_eq_true.1 hknown
      rw [ih, List.find?_append, List.find?_append, List.find?_cons]
      cases hfirst : q first with
      | false => rfl
      | true =>
        have hfound : (members.find? q).isSome = true :=
          List.find?_isSome.2 ⟨known, hmem, (hq known first hsame).trans hfirst⟩
        obtain ⟨found, hfound⟩ := Option.isSome_iff_exists.1 hfound
        rw [hfound, Option.some_or, Option.some_or]
    next => rw [ih, List.append_assoc]; rfl

end addMissing

/-! ## What a type inherits from -/

/-- The bases that a type inherits members from: what its ancestors' names stand for, interfaces
apart, in order. -/
def lenders (declared : List TypeDecl) (t : TypeDecl) : List TypeDecl :=
  ((ancestors declared t).filterMap (first? declared)).filter (!·.isInterface)

namespace MemberKind

variable {α : Type} (k : MemberKind α)

theorem of_foldl_inheritFrom (bases : List TypeDecl) (t : TypeDecl) :
    k.of (bases.foldl inheritFrom t) =
      addMissing k.same (k.of t) ((bases.filter (!·.isInterface)).flatMap k.of) := by
  induction bases generalizing t with
  | nil => rfl
  | cons base rest ih =>
    rw [List.foldl_cons, ih, k.of_inheritFrom, List.filter_cons]
    cases base.isInterface with
    | true => rfl
    | false => exact (addMissing_append _ _ _).symm

/-- The members of a completed type are its own and those missing of its lenders'. -/
theorem of_complete (declared : List TypeDecl) (t : TypeDecl) :
    k.of (complete declared t) =
      addMissing k.same (k.of t) ((lenders declared t).flatMap k.of) := by
  rw [complete, of_foldl_inheritFrom, k.of_withBases]
  rfl

/-- A search among the members of a completed type is one among the declared ones, its own first and
then those of its lenders in order. -/
theorem find?_complete {q : α → Bool} (hq : ∀ a b, k.same a b = true → q a = q b)
    (declared : List TypeDecl) (t : TypeDecl) :
    (k.of (complete declared t)).find? q =
      (k.of t ++ (lenders declared t).flatMap k.of).find? q := by
  rw [of_complete, find?_addMissing hq]

/-- Whether members that are the same make up classes. -/
def Lawful : Prop := Equivalence fun a b => k.same a b = true

theorem lawful_of_key {β : Type} (key : α → β) (h : ∀ a b, k.same a b = true ↔ key a = key b) :
    k.Lawful where
  refl a := (h a a).2 rfl
  symm hab := (h _ _).2 ((h _ _).1 hab).symm
  trans hab hbc := (h _ _).2 (((h _ _).1 hab).trans ((h _ _).1 hbc))

theorem lawful_fieldKind : fieldKind.Lawful :=
  fieldKind.lawful_of_key Member.name fun _ _ => beq_iff_eq

theorem lawful_propertyKind : propertyKind.Lawful :=
  propertyKind.lawful_of_key Member.name fun _ _ => beq_iff_eq

theorem lawful_methodKind : methodKind.Lawful :=
  methodKind.lawful_of_key (fun m => (m.name, m.parameters.map (·.typeName))) fun a b => by
    simp [methodKind, Method.sameSignature]

/-- Whether members were inherited as they should: what a type has of its own comes first and is not
changed; what was added comes from the lenders in order, none of it the same as an earlier member;
and of each member there is in a lender the type has the same, its own one first, else the one of
the first lender that has it. -/
structure Inherits (declared : List TypeDecl) (t populated : TypeDecl) : Prop where
  added : ∃ added, k.of populated = k.of t ++ added ∧
    added.Sublist ((lenders declared t).flatMap k.of) ∧
    (∀ m ∈ k.of t, ∀ a ∈ added, k.same m a = false) ∧ added.Pairwise fun a b => k.same a b = false
  found : ∀ m, (k.of populated).find? (k.same · m) =
    ((k.of t).find? (k.same · m)).or
      ((lenders declared t).findSome? fun base => (k.of base).find? (k.same · m))
  complete : ∀ base ∈ lenders declared t, ∀ m ∈ k.of base,
    ∃ m' ∈ k.of populated, k.same m' m = true

theorem inherits_complete (hk : k.Lawful) (declared : List TypeDecl) (t : TypeDecl) :
    k.Inherits declared t (TypeDecl.complete declared t) where
  added := by
    rw [of_complete]
    exact exists_addMissing_eq_append _ _
  found m := by
    have hq : ∀ a b, k.same a b = true → k.same a m = k.same b m := fun a b hab =>
      Bool.eq_iff_iff.2 ⟨hk.trans (hk.symm hab), hk.trans hab⟩
    rw [k.find?_complete hq, List.find?_append, List.find?_flatMap]
  complete base hbase m hm := by
    rw [of_complete]
    exact List.any_eq_true.1 (any_addMissing k.same_refl (List.mem_flatMap.2 ⟨base, hbase, hm⟩))

end MemberKind

end TypeDecl

end Ripple
