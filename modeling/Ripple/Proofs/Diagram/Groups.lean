import Ripple.Proofs.Diagram.Drawing

/-!
# Groups in a diagram

`groupsOf` lists the groups of a diagram at every depth, outer ones first. `IsGroup` says what
sections must be like to stand together as a group, and `isGroup_of_group_eq` that those
which `Fragment.group` puts together are so, provided that what goes into them has an arrow
in each fragment. Such fragments are called solid; emptiness then passes outward: a list of
solid fragments without an arrow is empty.
-/

namespace Ripple

/-- What a section shows, under its label. -/
def Section.part {φ : Type} (s : Section φ) : String × List φ := (s.label, s.fragments)

namespace Fragment

mutual

/-- The groups of a fragment, itself included, each as the list of its sections. -/
def groups : Fragment → List (List (Section Fragment))
  | .arrow _ => []
  | .alt sections => sections :: groupsOfSections sections

/-- The groups at any depth of a list of fragments. -/
def groupsOf : List Fragment → List (List (Section Fragment))
  | [] => []
  | fragment :: rest => fragment.groups ++ groupsOf rest

/-- The groups within the sections of a group. -/
def groupsOfSections : List (Section Fragment) → List (List (Section Fragment))
  | [] => []
  | ⟨_, _, fragments⟩ :: rest => groupsOf fragments ++ groupsOfSections rest

end

/-- Whether sections stand together as a group of that kind does: each holds an arrow, at some
depth; the first names the kind and no other names any; and a loop has one section. -/
structure IsGroup (kind : GroupKind) (sections : List (Section Fragment)) : Prop where
  filled : ∀ s ∈ sections, s.fragments ≠ [] ∧ arrowsOf s.fragments ≠ []
  named : ∃ first rest, sections = first :: rest ∧ first.group = some kind ∧
    ∀ s ∈ rest, s.group = none
  loop : kind = .forEach → sections.length = 1

/-- Whether every fragment has an arrow in it. -/
def Solid (fragments : List Fragment) : Prop := ∀ f ∈ fragments, f.arrows ≠ []

/-! ## Groups of lists -/

@[simp] theorem groupsOf_nil : groupsOf [] = [] := rfl

@[simp] theorem groupsOf_arrow_cons (a : Arrow) (rest : List Fragment) :
    groupsOf (.arrow a :: rest) = groupsOf rest := rfl

@[simp] theorem groupsOf_append (xs ys : List Fragment) :
    groupsOf (xs ++ ys) = groupsOf xs ++ groupsOf ys := by
  induction xs with
  | nil => rfl
  | cons x rest ih => rw [List.cons_append, groupsOf, ih, groupsOf, List.append_assoc]

theorem groupsOfSections_eq_flatMap (sections : List (Section Fragment)) :
    groupsOfSections sections = sections.flatMap fun s => groupsOf s.fragments := by
  induction sections with
  | nil => rfl
  | cons s rest ih => rw [groupsOfSections, ih, List.flatMap_cons]

/-! ## Solid fragments -/

theorem Solid.nil : Solid [] := by
  intro f hf
  cases hf

theorem Solid.cons {f : Fragment} {rest : List Fragment} (hf : f.arrows ≠ [])
    (hrest : Solid rest) : Solid (f :: rest) :=
  List.forall_mem_cons.2 ⟨hf, hrest⟩

theorem Solid.flatMap {α : Type} {xs : List α} {f : α → List Fragment}
    (h : ∀ x ∈ xs, Solid (f x)) : Solid (xs.flatMap f) := by
  intro fragment hmem
  obtain ⟨x, hx, hfragment⟩ := List.mem_flatMap.1 hmem
  exact h x hx fragment hfragment

/-- Solid fragments have an arrow, unless there are none. -/
theorem Solid.arrowsOf_ne_nil {fragments : List Fragment} (h : Solid fragments)
    (hne : fragments ≠ []) : arrowsOf fragments ≠ [] := by
  cases fragments with
  | nil => exact absurd rfl hne
  | cons f rest =>
    have hf : f.arrows ≠ [] := h f List.mem_cons_self
    intro hnone
    rw [arrowsOf, List.append_eq_nil_iff] at hnone
    exact hf hnone.1

/-! ## Putting a group together -/

section group

variable {kind : GroupKind} {parts : List (String × List Fragment)}

/-- No part that shows something, no group; else one group, of exactly those parts in their
order, the first of which names the kind. -/
theorem group_eq_nil_or (kind : GroupKind) (parts : List (String × List Fragment)) :
    group kind parts = [] ∨ ∃ first rest, group kind parts = [.alt (first :: rest)] ∧
      (first :: rest).map Section.part = parts.filter (!·.2.isEmpty) ∧
      first.group = some kind ∧ ∀ s ∈ rest, s.group = none := by
  unfold group
  split
  next h => exact .inl rfl
  next label fragments rest h =>
    refine .inr ⟨_, _, rfl, ?_, rfl, ?_⟩
    · rw [h, List.map_cons, List.map_map]
      congr 1
      exact List.map_id' rest
    · intro s hs
      obtain ⟨part, -, rfl⟩ := List.mem_map.1 hs
      rfl

/-- The groups within a group that is put together are the group itself and those within its
parts. -/
theorem mem_groupsOf_group {sections : List (Section Fragment)}
    (h : sections ∈ groupsOf (group kind parts)) :
    group kind parts = [.alt sections] ∨ ∃ part ∈ parts, sections ∈ groupsOf part.2 := by
  obtain hnil | ⟨first, rest, halt, hparts, -, -⟩ := group_eq_nil_or kind parts
  · rw [hnil] at h
    cases h
  · rw [halt, groupsOf, groups, groupsOf_nil, List.append_nil, List.mem_cons] at h
    obtain rfl | h := h
    · exact .inl halt
    · rw [groupsOfSections_eq_flatMap, List.mem_flatMap] at h
      obtain ⟨s, hs, hsections⟩ := h
      have hpart : s.part ∈ parts.filter (!·.2.isEmpty) := hparts ▸ List.mem_map_of_mem hs
      exact .inr ⟨s.part, List.mem_of_mem_filter hpart, hsections⟩

/-- A group that is put together holds the parts that show something, in their order. -/
theorem map_part_of_group_eq {sections : List (Section Fragment)}
    (h : group kind parts = [.alt sections]) :
    sections.map Section.part = parts.filter (!·.2.isEmpty) := by
  obtain hnil | ⟨first, rest, halt, hparts, -, -⟩ := group_eq_nil_or kind parts
  · rw [hnil] at h
    cases h
  · rw [halt] at h
    cases h
    exact hparts

/-- What is put together of solid parts, and of one part for a loop, is a group. -/
theorem isGroup_of_group_eq {sections : List (Section Fragment)}
    (h : group kind parts = [.alt sections]) (hsolid : ∀ part ∈ parts, Solid part.2)
    (hloop : kind = .forEach → parts.length = 1) : IsGroup kind sections := by
  have hparts := map_part_of_group_eq h
  obtain hnil | ⟨first, rest, halt, -, hfirst, hrest⟩ := group_eq_nil_or kind parts
  · rw [hnil] at h
    cases h
  · rw [halt] at h
    cases h
    refine ⟨?_, ⟨first, rest, rfl, hfirst, hrest⟩, ?_⟩
    · intro s hs
      have hmem : s.part ∈ parts.filter (!·.2.isEmpty) := hparts ▸ List.mem_map_of_mem hs
      obtain ⟨hpart, hshows⟩ := List.mem_filter.1 hmem
      have hne : s.fragments ≠ [] := by simpa [Section.part] using hshows
      exact ⟨hne, (hsolid s.part hpart).arrowsOf_ne_nil hne⟩
    · intro hkind
      have hle := List.length_filter_le (!·.2.isEmpty) parts
      have hlen := congrArg List.length hparts
      rw [hloop hkind] at hle
      rw [List.length_map] at hlen
      rw [List.length_cons] at hlen ⊢
      omega

/-- A group put together of solid parts is solid. -/
theorem Solid.group (hsolid : ∀ part ∈ parts, Solid part.2) : Solid (group kind parts) := by
  obtain hnil | ⟨first, rest, halt, hparts, -, -⟩ := group_eq_nil_or kind parts
  · rw [hnil]
    exact Solid.nil
  · have hmem : first.part ∈ parts.filter (!·.2.isEmpty) := by
      rw [← hparts]
      exact List.mem_cons_self
    obtain ⟨hpart, hshows⟩ := List.mem_filter.1 hmem
    have harrows := (hsolid first.part hpart).arrowsOf_ne_nil (by simpa using hshows)
    rw [halt]
    refine Solid.cons ?_ Solid.nil
    intro hnone
    rw [arrows, arrowsOfSections_eq_flatMap, List.flatMap_cons, List.append_eq_nil_iff] at hnone
    exact harrows hnone.1

end group

end Fragment

namespace Statement

variable {α : Type}

/-- A statement shows solid fragments if its calls do. -/
theorem solid_draw {send : α → List Fragment} (h : ∀ target, Fragment.Solid (send target))
    (s : Statement α) : Fragment.Solid (s.draw send) := by
  induction s using Statement.induction with
  | call target => exact h target
  | conditional arms ih | switch subject arms ih =>
    refine Fragment.Solid.group fun part hpart => ?_
    simp only [drawArms_eq_map, drawCases_eq_map, List.mem_map] at hpart
    obtain ⟨arm, harm, rfl⟩ := hpart
    simp only [drawBody_eq_flatMap]
    exact Fragment.Solid.flatMap (ih arm harm)
  | forEach items body ih =>
    refine Fragment.Solid.group fun part hpart => ?_
    obtain rfl := List.mem_singleton.1 hpart
    simp only [drawBody_eq_flatMap]
    exact Fragment.Solid.flatMap ih
  | block body ih => exact Fragment.Solid.nil

theorem solid_drawBody {send : α → List Fragment} (h : ∀ target, Fragment.Solid (send target))
    (body : List (Statement α)) : Fragment.Solid (drawBody send body) := by
  rw [drawBody_eq_flatMap]
  exact Fragment.Solid.flatMap fun s _ => solid_draw h s

/-- The kind of group that a branch or loop shows, and the labelled bodies it is made of. -/
def shape? : Statement α → Option (GroupKind × List (String × List (Statement α)))
  | .conditional arms => some (.conditional, labelArms arms)
  | .switch _ arms => some (.case, labelCases arms)
  | .forEach items body => some (.forEach, [(items, body)])
  | .call _ | .block _ => none

theorem length_eq_one_of_shape? {s : Statement α} {parts : List (String × List (Statement α))}
    (h : s.shape? = some (.forEach, parts)) : parts.length = 1 := by
  cases s with
  | forEach items body => cases h; rfl
  | _ => cases h

end Statement

end Ripple
