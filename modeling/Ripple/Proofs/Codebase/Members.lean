import Ripple.Proofs.Codebase.Ancestry

/-!
# Inherited members

Fields, properties and methods are inherited alike: what a base declares is added unless the type
has the same already, where methods are the same by name and parameter types and the others by
name. `MemberKind` is what the three have in common. A completed type has its own members first;
each further one is declared by a base that is no interface, and of each member that such a base
declares it has the same.
-/

namespace Ripple

namespace TypeDecl

/-! ## Adding what is missing -/

section addMissing

variable {α : Type} {same : α → α → Bool} {members more : List α} {m : α}

theorem addMissing_cons (first : α) (rest : List α) :
    addMissing same members (first :: rest) =
      addMissing same (if members.any (same · first) then members else members ++ [first]) rest :=
  rfl

theorem prefix_addMissing (members more : List α) : members <+: addMissing same members more := by
  induction more generalizing members with
  | nil => exact List.prefix_refl members
  | cons first rest ih =>
    rw [addMissing_cons]
    refine List.IsPrefix.trans ?_ (ih _)
    split
    · exact List.prefix_refl members
    · exact List.prefix_append members [first]

theorem mem_or_mem_of_mem_addMissing (h : m ∈ addMissing same members more) :
    m ∈ members ∨ m ∈ more := by
  induction more generalizing members with
  | nil => exact .inl h
  | cons first rest ih =>
    rw [addMissing_cons] at h
    obtain h | h := ih h
    · split at h
      · exact .inl h
      · simpa [or_assoc] using Or.inl (b := m ∈ rest) h
    · exact .inr (List.mem_cons_of_mem first h)

/-- Of each member that is added there is then the same. -/
theorem any_addMissing (hsame : ∀ m, same m m = true) (hm : m ∈ more) :
    (addMissing same members more).any (same · m) = true := by
  have hkeep {known : List α} (h : known.any (same · m) = true) (rest : List α) :
      (addMissing same known rest).any (same · m) = true := by
    obtain ⟨k, hk, hkm⟩ := List.any_eq_true.1 h
    exact List.any_eq_true.2 ⟨k, (prefix_addMissing known rest).subset hk, hkm⟩
  induction more generalizing members with
  | nil => cases hm
  | cons first rest ih =>
    rw [addMissing_cons]
    obtain rfl | hm := List.mem_cons.1 hm
    · refine hkeep ?_ rest
      split
      next hknown => exact hknown
      next => simp [hsame]
    · exact ih hm

theorem addMissing_eq_self (h : ∀ m ∈ more, members.any (same · m) = true) :
    addMissing same members more = members := by
  induction more with
  | nil => rfl
  | cons first rest ih =>
    rw [addMissing_cons, if_pos (h first List.mem_cons_self)]
    exact ih fun m hm => h m (List.mem_cons_of_mem first hm)

end addMissing

/-! ## Kinds of members -/

/-- A kind of members: which of a type they are, when two are the same, and that they are
inherited by adding what is missing. -/
structure MemberKind (α : Type) where
  of : TypeDecl → List α
  same : α → α → Bool
  same_refl : ∀ m, same m m = true
  of_inheritFrom : ∀ t base : TypeDecl,
    of (t.inheritFrom base) = if base.isInterface then of t else addMissing same (of t) (of base)
  of_withBases : ∀ (t : TypeDecl) (names : List String), of { t with baseTypes := names } = of t

namespace MemberKind

/-- Fields are the same by name. -/
def fieldKind : MemberKind Member where
  of := fields
  same a b := a.name == b.name
  same_refl _ := beq_self_eq_true _
  of_inheritFrom _ _ := by
    unfold inheritFrom
    split <;> rfl
  of_withBases _ _ := rfl

/-- Properties are the same by name. -/
def propertyKind : MemberKind Member where
  of := properties
  same a b := a.name == b.name
  same_refl _ := beq_self_eq_true _
  of_inheritFrom _ _ := by
    unfold inheritFrom
    split <;> rfl
  of_withBases _ _ := rfl

/-- Methods are the same by name and parameter types. -/
def methodKind : MemberKind Method where
  of := methods
  same := Method.sameSignature
  same_refl _ := by simp [Method.sameSignature]
  of_inheritFrom _ _ := by
    unfold inheritFrom
    split <;> rfl
  of_withBases _ _ := rfl

variable {α : Type} (k : MemberKind α) {declared bases : List TypeDecl} {t base : TypeDecl} {m : α}

theorem prefix_inheritFrom (t base : TypeDecl) : k.of t <+: k.of (t.inheritFrom base) := by
  rw [k.of_inheritFrom]
  split
  · exact List.prefix_refl _
  · exact prefix_addMissing _ _

theorem prefix_foldl_inheritFrom (bases : List TypeDecl) (t : TypeDecl) :
    k.of t <+: k.of (bases.foldl inheritFrom t) := by
  induction bases generalizing t with
  | nil => exact List.prefix_refl _
  | cons base rest ih => exact (k.prefix_inheritFrom t base).trans (ih _)

theorem mem_of_mem_foldl_inheritFrom (h : m ∈ k.of (bases.foldl inheritFrom t)) :
    m ∈ k.of t ∨ ∃ base ∈ bases, base.isInterface = false ∧ m ∈ k.of base := by
  induction bases generalizing t with
  | nil => exact .inl h
  | cons base rest ih =>
    obtain h | ⟨other, hother, h⟩ := ih h
    · rw [k.of_inheritFrom] at h
      split at h
      next => exact .inl h
      next hinterface =>
        refine (mem_or_mem_of_mem_addMissing h).imp_right fun h => ?_
        exact ⟨base, List.mem_cons_self, Bool.eq_false_iff.2 hinterface, h⟩
    · exact .inr ⟨other, List.mem_cons_of_mem base hother, h⟩

theorem any_foldl_inheritFrom (hbase : base ∈ bases) (hinterface : base.isInterface = false)
    (hm : m ∈ k.of base) : (k.of (bases.foldl inheritFrom t)).any (k.same · m) = true := by
  induction bases generalizing t with
  | nil => cases hbase
  | cons first rest ih =>
    obtain rfl | hbase := List.mem_cons.1 hbase
    · have hadded : (k.of (t.inheritFrom base)).any (k.same · m) = true := by
        rw [k.of_inheritFrom, if_neg (by rw [hinterface]; exact Bool.false_ne_true)]
        exact any_addMissing k.same_refl hm
      obtain ⟨known, hknown, hsame⟩ := List.any_eq_true.1 hadded
      exact List.any_eq_true.2
        ⟨known, (k.prefix_foldl_inheritFrom rest _).subset hknown, hsame⟩
    · exact ih hbase

/-! ## Members of a completed type -/

/-- A completed type has its own members first. -/
theorem prefix_complete (declared : List TypeDecl) (t : TypeDecl) :
    k.of t <+: k.of (complete declared t) := by
  have h := k.prefix_foldl_inheritFrom ((ancestors declared t).filterMap (first? declared))
    { t with baseTypes := ancestors declared t }
  rwa [k.of_withBases] at h

/-- A member of a completed type is its own, or a base that is no interface declares it. -/
theorem mem_of_mem_complete (h : m ∈ k.of (complete declared t)) :
    m ∈ k.of t ∨ ∃ base, base.fullName ∈ ancestors declared t ∧
      first? declared base.fullName = some base ∧ base.isInterface = false ∧ m ∈ k.of base := by
  have hm := k.mem_of_mem_foldl_inheritFrom h
  rw [k.of_withBases] at hm
  refine hm.imp_right ?_
  rintro ⟨base, hbase, hinterface, hm⟩
  obtain ⟨name, hname, hfirst⟩ := List.mem_filterMap.1 hbase
  obtain rfl : base.fullName = name := by simpa using List.find?_some hfirst
  exact ⟨base, hname, hfirst, hinterface, hm⟩

/-- Of each member that a base declares, unless it is an interface, a completed type has the
same. -/
theorem any_complete (hbase : base.fullName ∈ ancestors declared t)
    (hfirst : first? declared base.fullName = some base) (hinterface : base.isInterface = false)
    (hm : m ∈ k.of base) : (k.of (complete declared t)).any (k.same · m) = true :=
  k.any_foldl_inheritFrom (List.mem_filterMap.2 ⟨_, hbase, hfirst⟩) hinterface hm

end MemberKind

theorem kind_inheritFrom (t base : TypeDecl) : (t.inheritFrom base).kind = t.kind := by
  unfold inheritFrom
  split <;> rfl

theorem kind_complete (declared : List TypeDecl) (t : TypeDecl) :
    (complete declared t).kind = t.kind :=
  foldl_inheritFrom_eq kind kind_inheritFrom _ _

end TypeDecl

end Ripple
