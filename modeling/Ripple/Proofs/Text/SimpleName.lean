import Ripple.Name
import Mathlib.Data.List.TakeWhile

/-!
# Simple names

A full name is cut at the last dot in front of its generic arguments, if there is one. So its simple
name is the one end of it that has no such dot and stands behind one, or else all of it
(`simple_eq_iff`).
-/

namespace Ripple.Name

/-! ## The last dot -/

theorem cutLast_eq_none_iff {cs : List Char} : cutLast cs = none ↔ '.' ∉ cs := by
  induction cs with
  | nil => simp [cutLast]
  | cons c rest ih =>
    rw [cutLast, List.mem_cons, not_or, ← ih]
    cases cutLast rest with
    | some halves => simp
    | none => simp [eq_comm]

theorem cutLast_eq_some_iff {cs before after : List Char} :
    cutLast cs = some (before, after) ↔ cs = before ++ '.' :: after ∧ '.' ∉ after := by
  induction cs generalizing before with
  | nil => simp [cutLast]
  | cons c rest ih =>
    -- the last dot is the first character just if there is none behind it
    rw [cutLast]
    cases before with
    | nil =>
      rw [List.nil_append, List.cons.injEq]
      cases hrest : cutLast rest with
      | none =>
        have hdot := cutLast_eq_none_iff.1 hrest
        by_cases hc : c = '.'
        · simp only [hc, if_true, Option.some.injEq, Prod.mk.injEq, true_and]
          exact ⟨fun h => ⟨h, h ▸ hdot⟩, fun h => h.1⟩
        · simp [hc]
      | some halves =>
        have hdot : '.' ∈ rest := by
          by_contra hdot
          rw [cutLast_eq_none_iff.2 hdot] at hrest
          cases hrest
        simp only [Option.some.injEq, Prod.mk.injEq, reduceCtorEq, false_and, false_iff]
        rintro ⟨⟨-, rfl⟩, hafter⟩
        exact hafter hdot
    | cons d front =>
      rw [List.cons_append, List.cons.injEq, and_assoc, ← ih]
      cases hrest : cutLast rest with
      | none => by_cases hc : c = '.' <;> simp [hc]
      | some halves => simp [Prod.ext_iff, and_assoc]

/-! ## Scope and simple name -/

/-- Whether a name has no dot in front of its generic arguments. -/
def IsUnscoped (name : List Char) : Prop := '.' ∉ name.takeWhile (· != '<')

theorem cut_eq_none_iff {name : String} : cut name = none ↔ IsUnscoped name.toList := by
  rw [cut, Option.map_eq_none_iff, cutLast_eq_none_iff, IsUnscoped]

/-- The part in front of the generic arguments, over text that begins none. -/
theorem takeWhile_append_of_notMem {front : List Char} (h : '<' ∉ front) (rest : List Char) :
    (front ++ rest).takeWhile (· != '<') = front ++ rest.takeWhile (· != '<') := by
  refine List.takeWhile_append_of_pos fun x hx => ?_
  rw [bne_iff_ne]
  rintro rfl
  exact h hx

theorem notMem_takeWhile (cs : List Char) : '<' ∉ cs.takeWhile (· != '<') := by
  intro h
  simpa using List.mem_takeWhile_imp h

theorem takeWhile_dropWhile (cs : List Char) :
    (cs.dropWhile (· != '<')).takeWhile (· != '<') = [] := by
  have h := takeWhile_append_of_notMem (notMem_takeWhile cs) (cs.dropWhile (· != '<'))
  rwa [List.takeWhile_append_dropWhile, List.self_eq_append_right] at h

theorem cut_eq_some_iff {name : String} {before after : List Char} :
    cut name = some (before, after) ↔
      name.toList = before ++ '.' :: after ∧ '<' ∉ before ∧ IsUnscoped after := by
  rw [cut, Option.map_eq_some_iff, IsUnscoped]
  constructor
  · rintro ⟨⟨scope, last⟩, hcut, hhalves⟩
    obtain ⟨rfl, rfl⟩ := Prod.mk.inj hhalves
    obtain ⟨hhead, hlast⟩ := cutLast_eq_some_iff.1 hcut
    have hclean := notMem_takeWhile name.toList
    rw [hhead, List.mem_append, List.mem_cons, not_or, not_or] at hclean
    refine ⟨?_, hclean.1, ?_⟩
    · rw [← List.cons_append, ← List.append_assoc, ← hhead, List.takeWhile_append_dropWhile]
    · rwa [takeWhile_append_of_notMem hclean.2.2, takeWhile_dropWhile, List.append_nil]
  · rintro ⟨hname, hbefore, hafter⟩
    have hdot : '<' ∉ before ++ ['.'] := by simp [hbefore]
    have hhead : name.toList.takeWhile (· != '<') =
        before ++ '.' :: after.takeWhile (· != '<') := by
      rw [hname, List.append_cons, takeWhile_append_of_notMem hdot, List.append_assoc]
      rfl
    have htail : after.takeWhile (· != '<') ++ name.toList.dropWhile (· != '<') = after := by
      have hsplit := List.takeWhile_append_dropWhile (p := (· != '<')) (l := name.toList)
      rw [hhead, hname, List.append_assoc, List.cons_append] at hsplit
      rw [hname]
      exact (List.cons.inj (List.append_cancel_left hsplit)).2
    exact ⟨(before, after.takeWhile (· != '<')), cutLast_eq_some_iff.2 ⟨hhead, hafter⟩,
      congrArg (Prod.mk before) htail⟩

/-- The simple name is the end of the full name that has no dot in front of its generic arguments
but stands behind one, or all of the full name. -/
theorem simple_eq_iff {name last : String} (hlast : IsUnscoped last.toList) :
    simple name = last ↔
      name = last ∨ ∃ scope, '<' ∉ scope ∧ name.toList = scope ++ '.' :: last.toList := by
  unfold simple
  constructor
  · split
    next scope end' hcut =>
      rintro rfl
      obtain ⟨hname, hscope, -⟩ := cut_eq_some_iff.1 hcut
      exact .inr ⟨scope, hscope, by rw [hname, String.toList_ofList]⟩
    next => exact .inl
  · rintro (rfl | ⟨scope, hscope, hname⟩)
    · rw [cut_eq_none_iff.2 hlast]
    · rw [cut_eq_some_iff.2 ⟨hname, hscope, hlast⟩]
      exact String.ofList_toList

/-- A name stands inside some scope if that scope and a dot are in front of it. -/
theorem isScoped_iff {name last : String} :
    isScoped name last = true ↔ ∃ scope, name.toList = scope ++ '.' :: last.toList := by
  rw [isScoped, List.isSuffixOf_iff_suffix]
  exact exists_congr fun scope => eq_comm

/-- A full name is its own simple name inside some scope just if it has a dot in front of its
generic arguments: without one, the simple name is all of it. -/
theorem isScoped_simple_iff {name : String} :
    isScoped name (simple name) = true ↔ ¬ IsUnscoped name.toList := by
  rw [isScoped_iff]
  cases hcut : cut name with
  | some halves =>
    obtain ⟨before, after⟩ := halves
    have hsimple : simple name = String.ofList after := by rw [simple, hcut]
    have hscoped : ¬ IsUnscoped name.toList := by rw [← cut_eq_none_iff, hcut]; simp
    refine iff_of_true ⟨before, ?_⟩ hscoped
    rw [hsimple, String.toList_ofList, (cut_eq_some_iff.1 hcut).1]
  | none =>
    have hsimple : simple name = name := by rw [simple, hcut]
    refine iff_of_false ?_ (not_not_intro (cut_eq_none_iff.1 hcut))
    rintro ⟨scope, hname⟩
    have hlength := congrArg List.length hname
    rw [hsimple, List.length_append, List.length_cons] at hlength
    omega

theorem isUnscoped_simple (name : String) : IsUnscoped (simple name).toList := by
  unfold simple
  split
  next hcut =>
    rw [String.toList_ofList]
    exact (cut_eq_some_iff.1 hcut).2.2
  next hcut => exact cut_eq_none_iff.1 hcut

end Ripple.Name
