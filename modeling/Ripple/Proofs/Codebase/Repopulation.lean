import Ripple.Proofs.Codebase.Members

/-!
# Populating once more

Where names are distinct, a populated codebase can be populated again and nothing changes. What
the types then declare are all their ancestors and all their members. The ancestors of an
ancestor are ancestors already, or the type itself (`implements_trans`), so the walk finds no
further one and keeps their order. And what a base has inherited in turn, the type has inherited
from the same base or has itself, so nothing is missing from it.
-/

namespace Ripple

theorem eraseDups_of_nodup {names : List String} (h : names.Nodup) : names.eraseDups = names := by
  induction names with
  | nil => rfl
  | cons name rest ih =>
    obtain ⟨hname, hrest⟩ := List.nodup_cons.1 h
    have hothers : rest.filter (fun other => !other == name) = rest :=
      List.filter_eq_self.2 fun other hother => by
        have hne : other ≠ name := fun hsame => hname (hsame ▸ hother)
        simp [hne]
    rw [List.eraseDups_cons, hothers, ih hrest]

namespace TypeDecl

variable {declared : List TypeDecl} {t base : TypeDecl}

theorem first?_map_complete (declared : List TypeDecl) (name : String) :
    first? (declared.map (complete declared)) name =
      (first? declared name).map (complete declared) :=
  first?_map (fullName_complete declared) declared name

section distinct

variable (hnames : (declared.map fullName).Nodup)
include hnames

theorem first?_fullName (ht : t ∈ declared) : first? declared t.fullName = some t :=
  (find?_key_eq_some_iff hnames).2 ⟨ht, rfl⟩

/-! ## Ancestors -/

/-- A chain over completed declarations stands for one over the declarations themselves. -/
theorem DerivesIn.of_complete (ht : t ∈ declared) {n : Nat} {name : String}
    (h : DerivesIn (declared.map (complete declared)) (complete declared t) n name) :
    ∃ m, DerivesIn declared t m name := by
  induction h with
  | direct hdirect =>
    rw [baseTypes_complete] at hdirect
    exact (((ancestry_ancestors declared t).mem_iff _).1 hdirect).2
  | @through _ mid name _ _ hown hfirst hname ih =>
    rw [first?_map_complete] at hfirst
    obtain ⟨base, hbase, rfl⟩ := Option.map_eq_some_iff.1 hfirst
    obtain rfl : base.fullName = mid := by simpa using List.find?_some hbase
    rw [fullName_complete] at hown
    rw [baseTypes_complete] at hname
    obtain ⟨m, hm⟩ := (((ancestry_ancestors declared base).mem_iff _).1 hname).2
    obtain ⟨n, hn⟩ := ih
    exact hn.trans (first?_fullName hnames ht) hbase hown hm

/-- The ancestors of a completed type are those of the type, in the same order. -/
theorem ancestors_complete (ht : t ∈ declared) :
    ancestors (declared.map (complete declared)) (complete declared t) = ancestors declared t := by
  have hold := ancestry_ancestors declared t
  have hnew := ancestry_ancestors (declared.map (complete declared)) (complete declared t)
  have hfirst : ancestors declared t <+:
      ancestors (declared.map (complete declared)) (complete declared t) := by
    -- all of them are declared now, once each and without the type itself
    have hothers : (ancestors declared t).filter (· != t.fullName) = ancestors declared t :=
      List.filter_eq_self.2 fun name hname => bne_iff_ne.2 ((hold.mem_iff name).1 hname).1
    have hdeclared := hnew.declared_first
    rwa [baseTypes_complete, fullName_complete, hothers,
      eraseDups_of_nodup hold.nodup] at hdeclared
  have hsubset : ancestors (declared.map (complete declared)) (complete declared t) ⊆
      ancestors declared t := by
    intro name hname
    obtain ⟨hown, n, hn⟩ := (hnew.mem_iff name).1 hname
    rw [fullName_complete] at hown
    exact (hold.mem_iff name).2 ⟨hown, hn.of_complete hnames ht⟩
  exact (hfirst.eq_of_length_le (hnew.nodup.length_le_of_subset hsubset)).symm

/-! ## Members -/

/-- Of each member of a completed base, unless it is an interface, a completed type has the
same. -/
theorem MemberKind.any_complete_of_complete {α : Type} (k : MemberKind α) {m : α}
    (ht : t ∈ declared) (hbase : base ∈ declared) (hancestor : base.fullName ∈ ancestors declared t)
    (hinterface : base.isInterface = false) (hm : m ∈ k.of (complete declared base)) :
    (k.of (complete declared t)).any (k.same · m) = true := by
  have hfirst := first?_fullName hnames hbase
  obtain hm | ⟨other, hother, hfirstOther, hotherInterface, hm⟩ := k.mem_of_mem_complete hm
  · exact k.any_complete hancestor hfirst hinterface hm
  · by_cases hown : other.fullName = t.fullName
    · -- the base has inherited the member from the type itself
      rw [hown, first?_fullName hnames ht] at hfirstOther
      obtain rfl := Option.some.inj hfirstOther
      exact List.any_eq_true.2 ⟨m, (k.prefix_complete declared t).subset hm, k.same_refl m⟩
    · have hderives : other.fullName ∈ ancestors declared t := by
        obtain ⟨hbaseOwn, n, hn⟩ := ((ancestry_ancestors declared t).mem_iff _).1 hancestor
        obtain ⟨m, hm⟩ := (((ancestry_ancestors declared base).mem_iff _).1 hother).2
        exact ((ancestry_ancestors declared t).mem_iff _).2
          ⟨hown, hn.trans (first?_fullName hnames ht) hfirst hbaseOwn hm⟩
      exact k.any_complete hderives hfirstOther hotherInterface hm

/-- A completed type has nothing to inherit from a completed base. -/
theorem inheritFrom_complete (ht : t ∈ declared) (hbase : base ∈ declared)
    (hancestor : base.fullName ∈ ancestors declared t) :
    (complete declared t).inheritFrom (complete declared base) = complete declared t := by
  have hkind : (complete declared base).isInterface = base.isInterface := by
    rw [isInterface, kind_complete, isInterface]
  have hsame {α : Type} (k : MemberKind α) (hinterface : base.isInterface = false) :
      addMissing k.same (k.of (complete declared t)) (k.of (complete declared base)) =
        k.of (complete declared t) :=
    addMissing_eq_self fun _ hm =>
      k.any_complete_of_complete hnames ht hbase hancestor hinterface hm
  unfold inheritFrom
  split
  next => rfl
  next hinterface =>
    rw [hkind] at hinterface
    have hclass : base.isInterface = false := Bool.eq_false_iff.2 hinterface
    have hfields : addMissing _ (complete declared t).fields _ = _ := hsame .fieldKind hclass
    have hproperties : addMissing _ (complete declared t).properties _ = _ :=
      hsame .propertyKind hclass
    have hmethods : addMissing _ (complete declared t).methods _ = _ := hsame .methodKind hclass
    exact congr (congr (congrArg (TypeDecl.mk _ _ _) hfields) hproperties) hmethods

theorem complete_complete (ht : t ∈ declared) :
    complete (declared.map (complete declared)) (complete declared t) = complete declared t := by
  have hfold {bases : List TypeDecl} {u : TypeDecl} (h : ∀ base ∈ bases, u.inheritFrom base = u) :
      bases.foldl inheritFrom u = u := by
    induction bases with
    | nil => rfl
    | cons base rest ih =>
      rw [List.foldl_cons, h base List.mem_cons_self]
      exact ih fun other hother => h other (List.mem_cons_of_mem base hother)
  have hbases : complete declared t =
      { complete declared t with baseTypes := ancestors declared t } := by
    rw [← baseTypes_complete]
  rw [complete, ancestors_complete hnames ht, ← hbases]
  refine hfold fun populated hmem => ?_
  obtain ⟨name, hname, hfirst⟩ := List.mem_filterMap.1 hmem
  rw [first?_map_complete] at hfirst
  obtain ⟨base, hbase, rfl⟩ := Option.map_eq_some_iff.1 hfirst
  obtain rfl : base.fullName = name := by simpa using List.find?_some hbase
  exact inheritFrom_complete hnames ht (List.mem_of_find?_eq_some hbase) hname

end distinct

end TypeDecl

open TypeDecl

/-- Where names are distinct, populating the types of a populated codebase gives the same
codebase. -/
theorem ofDeclared_ofDeclared {declared : List TypeDecl}
    (hnames : (declared.map fullName).Nodup) :
    Codebase.ofDeclared (Codebase.ofDeclared declared).types = Codebase.ofDeclared declared := by
  rw [Codebase.ofDeclared, Codebase.ofDeclared, List.map_map]
  congr 1
  exact List.map_congr_left fun t ht => complete_complete hnames ht

namespace Relay

/-- Orders and orders in a rush inherit from each other, and do so only once. -/
theorem orders_inherit_once :
    (orders.map fullName).Nodup ∧
    (Codebase.ofDeclared orders).types.map (·.fields.map (·.name)) =
      [["hour", "item"], ["item", "hour"], []] ∧
    Codebase.ofDeclared (Codebase.ofDeclared orders).types = Codebase.ofDeclared orders := by
  have hnames : (orders.map fullName).Nodup := by decide
  refine ⟨hnames, ?_, ofDeclared_ofDeclared hnames⟩
  rw [Codebase.ofDeclared_eq_inRounds]
  rfl

end Relay

end Ripple
