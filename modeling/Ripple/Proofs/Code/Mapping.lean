import Ripple.Proofs.Code.Statement

/-!
# Changing the calls of a body

`Statement.map` changes every call of a statement and keeps its shape. It goes past paths,
substitution and everything else that looks at the shape only.
-/

namespace Ripple.Statement

variable {α β γ : Type}

/-! ## Shape by shape -/

section shapes

variable {g : α → β}

mutual

/-- A change that does not look at the path is the same below any path. -/
theorem mapAt_const (path : List Nat) : ∀ s : Statement α, s.mapAt (fun _ => g) path = s.map g
  | .call _ => rfl
  | .conditional arms => by
    rw [map, mapAt, mapAt, mapArmsAt_const path 0 arms, mapArmsAt_const [] 0 arms]
  | .switch _ arms => by
    rw [map, mapAt, mapAt, mapCasesAt_const path 0 arms, mapCasesAt_const [] 0 arms]
  | .forEach _ body => by
    rw [map, mapAt, mapAt, mapBodyAt_const path 0 body, mapBodyAt_const [] 0 body]
  | .block body => by
    rw [map, mapAt, mapAt, mapBodyAt_const path 0 body, mapBodyAt_const [] 0 body]

theorem mapBodyAt_const (path : List Nat) (i : Nat) :
    ∀ body : List (Statement α), mapBodyAt (fun _ => g) path i body = body.map (·.map g)
  | [] => rfl
  | s :: rest => by
    rw [mapBodyAt, mapAt_const (path ++ [i]) s, mapBodyAt_const path (i + 1) rest, List.map_cons]

theorem mapArmsAt_const (path : List Nat) (i : Nat) :
    ∀ arms : List (Arm String (Statement α)), mapArmsAt (fun _ => g) path i arms =
      arms.map fun arm => ⟨arm.guard, arm.body.map (·.map g)⟩
  | [] => rfl
  | ⟨guard, body⟩ :: rest => by
    rw [mapArmsAt, mapBodyAt_const (path ++ [i]) 0 body, mapArmsAt_const path (i + 1) rest,
      List.map_cons]

theorem mapCasesAt_const (path : List Nat) (i : Nat) :
    ∀ arms : List (Arm (List String) (Statement α)), mapCasesAt (fun _ => g) path i arms =
      arms.map fun arm => ⟨arm.guard, arm.body.map (·.map g)⟩
  | [] => rfl
  | ⟨guard, body⟩ :: rest => by
    rw [mapCasesAt, mapBodyAt_const (path ++ [i]) 0 body, mapCasesAt_const path (i + 1) rest,
      List.map_cons]

end

@[simp] theorem map_call (target : α) : (call target).map g = call (g target) := rfl

@[simp] theorem map_conditional (arms : List (Arm String (Statement α))) :
    (conditional arms).map g =
      conditional (arms.map fun arm => ⟨arm.guard, arm.body.map (·.map g)⟩) := by
  rw [map, mapAt, mapArmsAt_const]

@[simp] theorem map_switch (subject : String) (arms : List (Arm (List String) (Statement α))) :
    (switch subject arms).map g =
      switch subject (arms.map fun arm => ⟨arm.guard, arm.body.map (·.map g)⟩) := by
  rw [map, mapAt, mapCasesAt_const]

@[simp] theorem map_forEach (items : String) (body : List (Statement α)) :
    (forEach items body).map g = forEach items (body.map (·.map g)) := by
  rw [map, mapAt, mapBodyAt_const]

@[simp] theorem map_block (body : List (Statement α)) :
    (block body).map g = block (body.map (·.map g)) := by
  rw [map, mapAt, mapBodyAt_const]

@[simp] theorem isComposite_map (s : Statement α) : (s.map g).isComposite = s.isComposite := by
  cases s <;> rfl

end shapes

/-! ## One change after another -/

section composition

variable {h : List Nat → α → β} {g : β → γ}

mutual

theorem map_mapAt (path : List Nat) : ∀ s : Statement α,
    (s.mapAt h path).map g = s.mapAt (fun path x => g (h path x)) path
  | .call _ => rfl
  | .conditional arms => by rw [mapAt, map_conditional, map_mapArmsAt path 0 arms, mapAt]
  | .switch _ arms => by rw [mapAt, map_switch, map_mapCasesAt path 0 arms, mapAt]
  | .forEach _ body => by rw [mapAt, map_forEach, map_mapBodyAt path 0 body, mapAt]
  | .block body => by rw [mapAt, map_block, map_mapBodyAt path 0 body, mapAt]

theorem map_mapBodyAt (path : List Nat) (i : Nat) : ∀ body : List (Statement α),
    (mapBodyAt h path i body).map (·.map g) = mapBodyAt (fun path x => g (h path x)) path i body
  | [] => rfl
  | s :: rest => by
    rw [mapBodyAt, List.map_cons, map_mapAt (path ++ [i]) s, map_mapBodyAt path (i + 1) rest,
      mapBodyAt]

theorem map_mapArmsAt (path : List Nat) (i : Nat) :
    ∀ arms : List (Arm String (Statement α)),
      ((mapArmsAt h path i arms).map fun arm => ⟨arm.guard, arm.body.map (·.map g)⟩) =
        mapArmsAt (fun path x => g (h path x)) path i arms
  | [] => rfl
  | ⟨guard, body⟩ :: rest => by
    rw [mapArmsAt, List.map_cons, map_mapBodyAt (path ++ [i]) 0 body,
      map_mapArmsAt path (i + 1) rest, mapArmsAt]

theorem map_mapCasesAt (path : List Nat) (i : Nat) :
    ∀ arms : List (Arm (List String) (Statement α)),
      ((mapCasesAt h path i arms).map fun arm => ⟨arm.guard, arm.body.map (·.map g)⟩) =
        mapCasesAt (fun path x => g (h path x)) path i arms
  | [] => rfl
  | ⟨guard, body⟩ :: rest => by
    rw [mapCasesAt, List.map_cons, map_mapBodyAt (path ++ [i]) 0 body,
      map_mapCasesAt path (i + 1) rest, mapCasesAt]

end

theorem map_map {f : α → β} (s : Statement α) : (s.map f).map g = s.map fun x => g (f x) :=
  map_mapAt [] s

end composition

/-- Replacing calls after a change is the change after replacing them, where what is put in
for a changed call is the change of what is put in for the call. -/
theorem replace_map {g : α → β} {f : α → List (Statement α)} {f' : β → List (Statement β)}
    (hf : ∀ target, f' (g target) = (f target).map (·.map g)) (s : Statement α) :
    (s.map g).replace f' = (s.replace f).map (·.map g) := by
  induction s using Statement.induction with
  | call target => exact hf target
  | conditional arms ih | switch subject arms ih =>
    simp only [map_conditional, map_switch, replace, replaceArms_eq_map, replaceCases_eq_map,
      replaceBody_eq_flatMap, List.map_map, List.map_cons, List.map_nil]
    congr 2
    refine List.map_congr_left fun arm harm => ?_
    simp only [Function.comp_apply, List.flatMap_map, List.map_flatMap]
    congr 1
    exact List.flatMap_congr (ih arm harm)
  | forEach items body ih =>
    simp only [map_forEach, replace, replaceBody_eq_flatMap, List.flatMap_map, List.map_flatMap,
      List.map_cons, List.map_nil]
    congr 2
    exact List.flatMap_congr ih
  | block body ih => simp [replace]

/-- Changing the calls of a statement changes its calls. -/
theorem calls_map (g : α → β) (s : Statement α) : (s.map g).calls = s.calls.map g := by
  induction s using Statement.induction with
  | call target => rfl
  | conditional arms ih | switch subject arms ih =>
    simp only [map_conditional, map_switch, calls, callsOfArms_eq_flatMap, callsOfCases_eq_flatMap,
      callsOfBody_eq_flatMap, List.flatMap_map, List.map_flatMap]
    exact List.flatMap_congr fun arm harm => List.flatMap_congr (ih arm harm)
  | forEach items body ih | block body ih =>
    simp only [map_forEach, map_block, calls, callsOfBody_eq_flatMap, List.flatMap_map,
      List.map_flatMap]
    exact List.flatMap_congr ih

theorem callsOfBody_map (g : α → β) (body : List (Statement α)) :
    callsOfBody (body.map (·.map g)) = (callsOfBody body).map g := by
  simp only [callsOfBody_eq_flatMap, List.flatMap_map, calls_map, List.map_flatMap]

/-- Substitution in changed statements is substitution that looks through the change. -/
theorem expandBody_map (f : β → List (Statement γ)) (g : α → β) (body : List (Statement α)) :
    expandBody f (body.map (·.map g)) = expandBody (fun target => f (g target)) body := by
  rw [expandBody_eq_flatMap, expandBody_eq_flatMap, List.flatMap_map]
  exact List.flatMap_congr fun s _ => expand_map f g s

end Ripple.Statement
