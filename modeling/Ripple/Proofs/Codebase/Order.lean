import Ripple.Proofs.Codebase.Ancestry
import Ripple.Proofs.Flow.Chain
import Ripple.Proofs.Flow.Transport

/-!
# The order of declarations

The order in which types are declared decides between types of one name, between the
implementers of an interface, between the command handlers of a message, and the sequence of
its event handlers. Where names are distinct and no interface or message leaves such a choice,
it decides nothing: the same types are populated and the same flows extracted
(`extract_of_perm`).
-/

namespace Ripple

theorem eq_of_perm_of_length_le_one {α : Type} {l l' : List α} (hperm : l.Perm l')
    (hlength : l'.length ≤ 1) : l = l' := by
  match l', hlength with
  | [], _ => exact hperm.eq_nil
  | [a], _ => exact List.perm_singleton.1 hperm

namespace Codebase

/-- Whether the order of types is no matter to dispatch: no message of the codebase has two event
handlers or two types that can be its command handler, and no interface two implementers. -/
structure Unambiguous (c : Codebase) (p : Profile) : Prop where
  eventHandlers : ∀ message : c.Ref, (c.eventHandlers p (c.decl message)).length ≤ 1
  commandHandlers : ∀ message : c.Ref,
    (c.refs.filter fun r => p.isCommandHandler (c.decl r) (c.decl message)).length ≤ 1
  implementers : ∀ r : c.Ref, (c.decl r).isInterface = true →
    (c.implementers (c.fullName r)).length ≤ 1

/-! ## Distinct types of a list -/

section addDistinct

variable {c : Codebase}

theorem nodup_foldl_addDistinct {known : List c.Ref} (l : List c.Ref) (hknown : known.Nodup) :
    (l.foldl c.addDistinct known).Nodup := by
  induction l generalizing known with
  | nil => exact hknown
  | cons r rest ih =>
    refine ih ?_
    unfold addDistinct
    split
    next => exact hknown
    next hnew =>
      have hfresh : r ∉ known := fun hr =>
        hnew (List.any_eq_true.2 ⟨r, hr, beq_self_eq_true _⟩)
      exact hknown.append (List.nodup_singleton r) (List.disjoint_singleton.2 hfresh)

theorem mem_foldl_addDistinct (hnames : (c.types.map TypeDecl.fullName).Nodup)
    {known l : List c.Ref} {r : c.Ref} :
    r ∈ l.foldl c.addDistinct known ↔ r ∈ known ∨ r ∈ l := by
  induction l generalizing known with
  | nil => simp
  | cons r' rest ih =>
    have hstep : r ∈ c.addDistinct known r' ↔ r ∈ known ∨ r = r' := by
      unfold addDistinct
      split
      next hknown =>
        obtain ⟨k, hk, hsame⟩ := List.any_eq_true.1 hknown
        obtain rfl : k = r' := fullName_injective hnames (beq_iff_eq.1 hsame)
        exact ⟨.inl, fun h => h.elim id fun h => h ▸ hk⟩
      next => simp
    rw [List.foldl_cons, ih, hstep, List.mem_cons, or_assoc]

end addDistinct

end Codebase

namespace Embedding

variable {c d : Codebase} {f : Embedding c d} {p : Profile}

/-! ## The same types in another order -/

/-- Codebases of the same types have corresponding types. -/
theorem exists_of_perm (hperm : c.types.Perm d.types) :
    ∃ f : Embedding c d, d.refs.Perm (c.refs.map f.ref) := by
  -- the types of `c` are those of `d` at positions picked in another order
  rw [← d.map_decl_refs] at hperm
  have hpicked : Relation.Comp (· = List.map d.decl ·) List.Perm c.types d.refs := by
    rw [List.eq_map_comp_perm]
    exact hperm
  obtain ⟨picked, htypes, hpicked⟩ := hpicked
  have hnodup : picked.Nodup := hpicked.nodup_iff.2 (List.nodup_finRange _)
  obtain ⟨f, hf⟩ := exists_map_refs_eq hnodup htypes.symm
  rw [← hf] at hpicked
  exact ⟨f, hpicked.symm⟩

section refs

variable (hrefs : d.refs.Perm (c.refs.map f.ref))
include hrefs

theorem types_perm : d.types.Perm c.types := by
  rw [← d.map_decl_refs, ← c.map_decl_refs]
  refine (hrefs.map d.decl).trans (.of_eq ?_)
  rw [List.map_map, f.decl_comp_ref]

theorem filter_refs_perm (q : TypeDecl → Bool) :
    (d.refs.filter fun r => q (d.decl r)).Perm
      ((c.refs.filter fun r => q (c.decl r)).map f.ref) := by
  refine (hrefs.filter _).trans (.of_eq ?_)
  rw [List.filter_map, ← f.decl_comp_ref]
  rfl

/-- A choice among at most one type is the same in any order. -/
theorem filter_refs_eq (q : TypeDecl → Bool)
    (hlength : (c.refs.filter fun r => q (c.decl r)).length ≤ 1) :
    (d.refs.filter fun r => q (d.decl r)) =
      (c.refs.filter fun r => q (c.decl r)).map f.ref :=
  eq_of_perm_of_length_le_one (filter_refs_perm hrefs q) (by rwa [List.length_map])

section names

variable (hnames : (c.types.map TypeDecl.fullName).Nodup)
include hnames

theorem find?_of_perm (fullName : String) :
    d.find? fullName = (c.find? fullName).map f.ref := by
  have hnames' : (d.types.map TypeDecl.fullName).Nodup :=
    ((types_perm hrefs).map _).nodup_iff.2 hnames
  ext r'
  obtain ⟨r, -, rfl⟩ := List.mem_map.1 (hrefs.subset (Codebase.mem_refs r'))
  rw [Codebase.find?_eq_some_iff hnames', f.fullName_ref, ← Codebase.find?_eq_some_iff hnames,
    Option.map_eq_some_iff]
  constructor
  · intro hr
    exact ⟨r, hr, rfl⟩
  · rintro ⟨r', hr', h⟩
    rwa [← f.injective h]

/-- The same types construct a message, met in an order of their own. -/
theorem origins_perm (message : c.Ref) :
    (d.origins (f.ref message)).Perm ((c.origins message).map f.ref) := by
  have hnames' : (d.types.map TypeDecl.fullName).Nodup :=
    ((types_perm hrefs).map _).nodup_iff.2 hnames
  have hcalls : d.calls.Perm c.calls := (types_perm hrefs).flatMap_right _
  refine (List.perm_ext_iff_of_nodup (Codebase.nodup_foldl_addDistinct _ List.nodup_nil)
    ((Codebase.nodup_foldl_addDistinct _ List.nodup_nil).map f.injective)).2 fun r' => ?_
  obtain ⟨r, -, rfl⟩ := List.mem_map.1 (hrefs.subset (Codebase.mem_refs r'))
  rw [List.mem_map_of_injective f.injective, Codebase.mem_foldl_addDistinct hnames',
    Codebase.mem_foldl_addDistinct hnames, f.decl_ref]
  simp only [List.not_mem_nil, false_or, List.mem_filterMap, List.mem_filter, hcalls.mem_iff,
    find?_of_perm hrefs hnames, Option.map_eq_some_iff, f.injective.eq_iff, exists_eq_right]

/-- Where the order leaves no choice, the embedding is faithful. -/
theorem faithful_of_perm (hsole : c.Unambiguous p) : f.Faithful p := by
  refine faithful_of_choices (find?_of_perm hrefs hnames) ?_ ?_ ?_
  · intro r hinterface
    exact filter_refs_eq hrefs (fun t => t.fullName != c.fullName r && t.implements (c.fullName r))
      (hsole.implementers r hinterface)
  · intro message
    exact filter_refs_eq hrefs (p.isEventHandler · (c.decl message)) (hsole.eventHandlers message)
  · intro message
    exact filter_refs_eq hrefs (p.isCommandHandler · (c.decl message))
      (hsole.commandHandlers message)

end names

end refs

end Embedding

/-- Where no two types share a name, and no interface or message leaves a choice between types,
the order of the declarations is no matter: every name stands for the same populated type, and
every message starts the same flow. -/
theorem extract_of_perm {declared declared' : List TypeDecl} (p : Profile)
    (hperm : declared.Perm declared') (hnames : (declared.map TypeDecl.fullName).Nodup)
    (hsole : (Codebase.ofDeclared declared).Unambiguous p) (fullName : String) :
    ((Codebase.ofDeclared declared').find? fullName).map (Codebase.ofDeclared declared').decl =
        ((Codebase.ofDeclared declared).find? fullName).map (Codebase.ofDeclared declared).decl ∧
      (Codebase.ofDeclared declared').extract p fullName =
        (Codebase.ofDeclared declared).extract p fullName := by
  have hnames' : ((Codebase.ofDeclared declared).types.map TypeDecl.fullName).Nodup := by
    rwa [Codebase.map_fullName_ofDeclared]
  -- each name keeps its first declaration, so every type is completed the same
  have htypes :
      (Codebase.ofDeclared declared).types.Perm (Codebase.ofDeclared declared').types := by
    rw [Codebase.ofDeclared_congr (TypeDecl.first?_perm hperm hnames)]
    exact hperm.map _
  obtain ⟨f, hrefs⟩ := Embedding.exists_of_perm htypes
  constructor
  · rw [Codebase.map_decl_find?, Codebase.map_decl_find?]
    exact TypeDecl.first?_perm htypes hnames' fullName
  · exact (Embedding.faithful_of_perm hrefs hnames' hsole).extract
      (fun message => Embedding.caller?_eq (Embedding.origins_perm hrefs hnames' message)) fullName

namespace Relay

/-- The market, and a counter with one clerk behind it. -/
def quarter : Codebase where
  types := market.types ++
    [TypeDecl.empty .interfaceType "Store.Counter",
      ((TypeDecl.empty .classType "Store.Clerk").withBase "Store.Counter").withMethod
        ⟨"Serve", [], [.call relayed]⟩]

/-- An order starts the same flow, from the page that constructs it, when everything is declared
the other way round. -/
theorem quarter_in_any_order :
    quarter.types.Perm quarter.types.reverse ∧ (quarter.types.map TypeDecl.fullName).Nodup ∧
    (Codebase.ofDeclared quarter.types).Unambiguous .sample ∧
    ((Codebase.ofDeclared quarter.types).extract .sample "Shop.Placed").isSome = true ∧
    (Codebase.ofDeclared quarter.types.reverse).extract .sample "Shop.Placed" =
      (Codebase.ofDeclared quarter.types).extract .sample "Shop.Placed" := by
  have hperm : quarter.types.Perm quarter.types.reverse := (List.reverse_perm _).symm
  have hnames : (quarter.types.map TypeDecl.fullName).Nodup := by decide
  have hpopulated : Codebase.ofDeclared quarter.types = quarter :=
    (Codebase.ofDeclared_eq_inRounds _).trans rfl
  have hsole : (Codebase.ofDeclared quarter.types).Unambiguous .sample := by
    rw [hpopulated]
    exact ⟨by decide, by decide, by decide⟩
  have hsome : ((Codebase.ofDeclared quarter.types).extract .sample "Shop.Placed").isSome =
      true := by
    rw [hpopulated]
    decide
  exact ⟨hperm, hnames, hsole, hsome,
    (extract_of_perm .sample hperm hnames hsole "Shop.Placed").2⟩

end Relay

end Ripple
