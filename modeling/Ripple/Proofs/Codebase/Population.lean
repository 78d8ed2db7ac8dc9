import Ripple.Codebase
import Mathlib.Data.List.Nodup
import Mathlib.Data.List.FinRange

/-!
# Populating a codebase

A type is completed from what it declares and from what each name stands for. So the order in
which other types are declared, and any later declaration of a name, count only through the
first declaration of each name. Completing a type leaves its name and its kind alone.
-/

namespace Ripple

/-- Where keys are distinct, a search by key finds the element that has it. -/
theorem find?_key_eq_some_iff {α : Type} {key : α → String} {l : List α}
    (hnodup : (l.map key).Nodup) {k : String} {a : α} :
    l.find? (key · == k) = some a ↔ a ∈ l ∧ key a = k := by
  constructor
  · intro ha
    exact ⟨List.mem_of_find?_eq_some ha, by simpa using List.find?_some ha⟩
  · rintro ⟨hmem, rfl⟩
    obtain ⟨b, hb⟩ : ∃ b, l.find? (key · == key a) = some b :=
      Option.isSome_iff_exists.1 (List.find?_isSome.2 ⟨a, hmem, beq_self_eq_true _⟩)
    have hsame : key b = key a := by simpa using List.find?_some hb
    rw [hb, List.inj_on_of_nodup_map hnodup (List.mem_of_find?_eq_some hb) hmem hsame]

namespace TypeDecl

variable {declared declared' : List TypeDecl}

/-! ## First declarations -/

theorem first?_perm (hperm : declared.Perm declared') (hnodup : (declared.map fullName).Nodup)
    (name : String) : first? declared' name = first? declared name := by
  have hnodup' : (declared'.map fullName).Nodup := (hperm.map fullName).nodup_iff.1 hnodup
  ext t
  rw [first?, find?_key_eq_some_iff hnodup', first?, find?_key_eq_some_iff hnodup, hperm.mem_iff]

/-- Types that keep their names are found by them. -/
theorem first?_map {f : TypeDecl → TypeDecl} (hname : ∀ t, (f t).fullName = t.fullName)
    (declared : List TypeDecl) (name : String) :
    first? (declared.map f) name = (first? declared name).map f := by
  rw [first?, List.find?_map, first?]
  congr 2
  funext t
  rw [Function.comp_apply, hname]

/-! ## Completion -/

theorem ancestorsFrom_cons (own name : String) (queue seen : List String) :
    ancestorsFrom declared own (name :: queue) seen =
      if seen.contains name || name == own then ancestorsFrom declared own queue seen
      else name :: ancestorsFrom declared own
        (queue ++ ((first? declared name).map baseTypes).getD []) (name :: seen) := by
  rw [ancestorsFrom]
  split
  · rfl
  · split
    next base hbase => rw [hbase, Option.map_some, Option.getD_some]
    next hnone => rw [hnone, Option.map_none, Option.getD_none, List.append_nil]

section Congr

variable (h : ∀ name, first? declared' name = first? declared name)
include h

theorem ancestorsFrom_congr (own : String) (queue seen : List String) :
    ancestorsFrom declared' own queue seen = ancestorsFrom declared own queue seen := by
  induction queue, seen using ancestorsFrom.induct declared own with
  | case1 seen => rw [ancestorsFrom, ancestorsFrom]
  | case2 name queue seen hskip ih =>
    rw [ancestorsFrom_cons, ancestorsFrom_cons, if_pos hskip, if_pos hskip, ih]
  | case3 name queue seen hskip ihSome ihNone =>
    rw [ancestorsFrom_cons, ancestorsFrom_cons, if_neg hskip, if_neg hskip, h]
    congr 1
    cases hfirst : first? declared name with
    | some base => exact ihSome base hfirst
    | none => simpa using ihNone

/-- Completing a type reads the declarations only through the first of each name. -/
theorem complete_congr (t : TypeDecl) : complete declared' t = complete declared t := by
  rw [complete, complete, ancestors, ancestors, ancestorsFrom_congr h, funext h]

end Congr

theorem fullName_inheritFrom (t base : TypeDecl) : (t.inheritFrom base).fullName = t.fullName := by
  unfold inheritFrom
  split <;> rfl

/-- What inheriting from one type leaves alone, completing a type leaves alone. -/
theorem foldl_inheritFrom_eq {α : Type} (part : TypeDecl → α)
    (h : ∀ t base, part (inheritFrom t base) = part t) (bases : List TypeDecl) (t : TypeDecl) :
    part (bases.foldl inheritFrom t) = part t := by
  induction bases generalizing t with
  | nil => rfl
  | cons base rest ih => rw [List.foldl_cons, ih, h]

@[simp] theorem fullName_complete (declared : List TypeDecl) (t : TypeDecl) :
    (complete declared t).fullName = t.fullName :=
  foldl_inheritFrom_eq fullName fullName_inheritFrom _ _

end TypeDecl

namespace Codebase

open TypeDecl

variable (c : Codebase)

/-! ## Types by position and by name -/

theorem map_decl_refs : c.refs.map c.decl = c.types := List.map_getElem_finRange c.types

theorem map_fullName_refs : c.refs.map c.fullName = c.types.map TypeDecl.fullName := by
  rw [← c.map_decl_refs, List.map_map]
  rfl

theorem fullName_of_find? {c : Codebase} {fullName : String} {r : c.Ref}
    (h : c.find? fullName = some r) : c.fullName r = fullName := by
  simpa using List.find?_some h

/-- Where names are distinct, each type is found by its own. -/
theorem find?_eq_some_iff {c : Codebase} (hnames : (c.types.map TypeDecl.fullName).Nodup)
    {name : String} {r : c.Ref} : c.find? name = some r ↔ c.fullName r = name := by
  rw [← map_fullName_refs] at hnames
  rw [find?, find?_key_eq_some_iff hnames]
  exact and_iff_right (mem_refs r)

theorem map_decl_find? (name : String) : (c.find? name).map c.decl = first? c.types name := by
  rw [first?, ← c.map_decl_refs, List.find?_map]
  rfl

theorem map_fullName_ofDeclared (declared : List TypeDecl) :
    (ofDeclared declared).types.map TypeDecl.fullName = declared.map TypeDecl.fullName := by
  rw [ofDeclared, List.map_map]
  exact List.map_congr_left fun t _ => fullName_complete declared t

/-- Declarations that agree on the first of each name are completed the same. -/
theorem ofDeclared_congr {declared declared' : List TypeDecl}
    (h : ∀ name, first? declared' name = first? declared name) :
    (ofDeclared declared').types = declared'.map (complete declared) :=
  List.map_congr_left fun t _ => complete_congr h t

end Codebase

end Ripple
