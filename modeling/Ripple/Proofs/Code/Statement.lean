import Ripple.Code.Statement
import Mathlib.Data.List.Basic

/-!
# Statements as trees

Functions on statements recurse through bodies and arms. Here each of them is written as an
operation on lists, so that a fact about all statements takes one induction with one case for
each shape, `Statement.induction`.

`expand` puts statements in place of every exposed call and drops the blocks. It is what is
left of a body once nothing looks into blocks any more, and its laws are those of substitution.
-/

namespace Ripple.Statement

variable {α β γ : Type}

/-! ## One induction for all shapes -/

/-- A property holds of every statement if it passes from the statements inside a statement to
the statement itself. -/
theorem induction {P : Statement α → Prop} (call : ∀ target, P (.call target))
    (conditional : ∀ arms, (∀ arm ∈ arms, ∀ s ∈ arm.body, P s) → P (.conditional arms))
    (switch : ∀ subject arms, (∀ arm ∈ arms, ∀ s ∈ arm.body, P s) → P (.switch subject arms))
    (forEach : ∀ items body, (∀ s ∈ body, P s) → P (.forEach items body))
    (block : ∀ body, (∀ s ∈ body, P s) → P (.block body)) (s : Statement α) : P s := by
  refine @Statement.rec α P
    (fun arms => ∀ arm ∈ arms, ∀ s ∈ arm.body, P s)
    (fun arms => ∀ arm ∈ arms, ∀ s ∈ arm.body, P s)
    (fun body => ∀ s ∈ body, P s)
    (fun arm => ∀ s ∈ arm.body, P s)
    (fun arm => ∀ s ∈ arm.body, P s)
    call conditional switch forEach block ?_ ?_ ?_ ?_ ?_ ?_ ?_ ?_ s
  · simp
  · intro arm rest harm hrest
    exact List.forall_mem_cons.2 ⟨harm, hrest⟩
  · simp
  · intro arm rest harm hrest
    exact List.forall_mem_cons.2 ⟨harm, hrest⟩
  · simp
  · intro s rest hs hrest
    exact List.forall_mem_cons.2 ⟨hs, hrest⟩
  · exact fun _ _ h => h
  · exact fun _ _ h => h

/-! ## Bodies and arms as lists -/

theorem callsOfBody_eq_flatMap (body : List (Statement α)) :
    callsOfBody body = body.flatMap calls := by
  induction body with
  | nil => rfl
  | cons s rest ih => rw [callsOfBody, ih, List.flatMap_cons]

theorem callsOfArms_eq_flatMap (arms : List (Arm String (Statement α))) :
    callsOfArms arms = arms.flatMap fun arm => callsOfBody arm.body := by
  induction arms with
  | nil => rfl
  | cons arm rest ih => rw [callsOfArms, ih, List.flatMap_cons]

theorem callsOfCases_eq_flatMap (arms : List (Arm (List String) (Statement α))) :
    callsOfCases arms = arms.flatMap fun arm => callsOfBody arm.body := by
  induction arms with
  | nil => rfl
  | cons arm rest ih => rw [callsOfCases, ih, List.flatMap_cons]

theorem exposedOfBody_eq_flatMap (body : List (Statement α)) :
    exposedOfBody body = body.flatMap exposed := by
  induction body with
  | nil => rfl
  | cons s rest ih => rw [exposedOfBody, ih, List.flatMap_cons]

theorem exposedOfBody_flatMap (f : β → List (Statement α)) (xs : List β) :
    exposedOfBody (xs.flatMap f) = xs.flatMap fun x => exposedOfBody (f x) := by
  simp only [exposedOfBody_eq_flatMap, List.flatMap_assoc]

theorem exposedOfArms_eq_flatMap (arms : List (Arm String (Statement α))) :
    exposedOfArms arms = arms.flatMap fun arm => exposedOfBody arm.body := by
  induction arms with
  | nil => rfl
  | cons arm rest ih => rw [exposedOfArms, ih, List.flatMap_cons]

theorem exposedOfCases_eq_flatMap (arms : List (Arm (List String) (Statement α))) :
    exposedOfCases arms = arms.flatMap fun arm => exposedOfBody arm.body := by
  induction arms with
  | nil => rfl
  | cons arm rest ih => rw [exposedOfCases, ih, List.flatMap_cons]

theorem replaceBody_eq_flatMap (f : α → List (Statement α)) (body : List (Statement α)) :
    replaceBody f body = body.flatMap (replace f) := by
  induction body with
  | nil => rfl
  | cons s rest ih => rw [replaceBody, ih, List.flatMap_cons]

theorem replaceArms_eq_map (f : α → List (Statement α))
    (arms : List (Arm String (Statement α))) :
    replaceArms f arms = arms.map fun arm => ⟨arm.guard, replaceBody f arm.body⟩ := by
  induction arms with
  | nil => rfl
  | cons arm rest ih => rw [replaceArms, ih, List.map_cons]

theorem replaceCases_eq_map (f : α → List (Statement α))
    (arms : List (Arm (List String) (Statement α))) :
    replaceCases f arms = arms.map fun arm => ⟨arm.guard, replaceBody f arm.body⟩ := by
  induction arms with
  | nil => rfl
  | cons arm rest ih => rw [replaceCases, ih, List.map_cons]

/-- An exposed call is a call. -/
theorem mem_calls_of_mem_exposed {s : Statement α} {x : α} (hx : x ∈ s.exposed) :
    x ∈ s.calls := by
  induction s using Statement.induction with
  | call target => exact hx
  | conditional arms ih | switch subject arms ih =>
    simp only [exposed, calls, exposedOfArms_eq_flatMap, exposedOfCases_eq_flatMap,
      exposedOfBody_eq_flatMap, callsOfArms_eq_flatMap, callsOfCases_eq_flatMap,
      callsOfBody_eq_flatMap, List.mem_flatMap] at hx ⊢
    obtain ⟨arm, harm, s, hs, hx⟩ := hx
    exact ⟨arm, harm, s, hs, ih arm harm s hs hx⟩
  | forEach items body ih =>
    simp only [exposed, calls, exposedOfBody_eq_flatMap, callsOfBody_eq_flatMap,
      List.mem_flatMap] at hx ⊢
    obtain ⟨s, hs, hx⟩ := hx
    exact ⟨s, hs, ih s hs hx⟩
  | block body ih => cases hx

theorem mem_callsOfBody_of_mem_exposedOfBody {body : List (Statement α)} {x : α}
    (hx : x ∈ exposedOfBody body) : x ∈ callsOfBody body := by
  simp only [exposedOfBody_eq_flatMap, callsOfBody_eq_flatMap, List.mem_flatMap] at hx ⊢
  obtain ⟨s, hs, hx⟩ := hx
  exact ⟨s, hs, mem_calls_of_mem_exposed hx⟩

/-! ## Substitution -/

mutual

/-- A statement with `f` in place of every exposed call, and without its blocks. -/
def expand (f : α → List (Statement β)) : Statement α → List (Statement β)
  | .call target => f target
  | .conditional arms => [.conditional (expandArms f arms)]
  | .switch subject arms => [.switch subject (expandCases f arms)]
  | .forEach items body => [.forEach items (expandBody f body)]
  | .block _ => []

/-- Expands the statements of a body. -/
def expandBody (f : α → List (Statement β)) : List (Statement α) → List (Statement β)
  | [] => []
  | statement :: rest => statement.expand f ++ expandBody f rest

/-- Expands the arms of a conditional. -/
def expandArms (f : α → List (Statement β)) :
    List (Arm String (Statement α)) → List (Arm String (Statement β))
  | [] => []
  | ⟨guard, body⟩ :: rest => ⟨guard, expandBody f body⟩ :: expandArms f rest

/-- Expands the arms of a switch. -/
def expandCases (f : α → List (Statement β)) :
    List (Arm (List String) (Statement α)) → List (Arm (List String) (Statement β))
  | [] => []
  | ⟨guard, body⟩ :: rest => ⟨guard, expandBody f body⟩ :: expandCases f rest

end

theorem expandBody_eq_flatMap (f : α → List (Statement β)) (body : List (Statement α)) :
    expandBody f body = body.flatMap (expand f) := by
  induction body with
  | nil => rfl
  | cons s rest ih => rw [expandBody, ih, List.flatMap_cons]

theorem expandArms_eq_map (f : α → List (Statement β)) (arms : List (Arm String (Statement α))) :
    expandArms f arms = arms.map fun arm => ⟨arm.guard, expandBody f arm.body⟩ := by
  induction arms with
  | nil => rfl
  | cons arm rest ih => rw [expandArms, ih, List.map_cons]

theorem expandCases_eq_map (f : α → List (Statement β))
    (arms : List (Arm (List String) (Statement α))) :
    expandCases f arms = arms.map fun arm => ⟨arm.guard, expandBody f arm.body⟩ := by
  induction arms with
  | nil => rfl
  | cons arm rest ih => rw [expandCases, ih, List.map_cons]

/-- What is exposed after a substitution was exposed in what was put in. -/
theorem exposedOfBody_expand (f : α → List (Statement β)) (s : Statement α) :
    exposedOfBody (s.expand f) = s.exposed.flatMap fun target => exposedOfBody (f target) := by
  induction s using Statement.induction with
  | call target => simp [expand, exposed]
  | conditional arms ih | switch subject arms ih =>
    simp only [expand, exposed, exposedOfBody_eq_flatMap, exposedOfArms_eq_flatMap,
      exposedOfCases_eq_flatMap, expandArms_eq_map, expandCases_eq_map, expandBody_eq_flatMap,
      List.flatMap_singleton, List.flatMap_map, List.flatMap_assoc] at ih ⊢
    exact List.flatMap_congr fun arm harm => List.flatMap_congr fun s hs => ih arm harm s hs
  | forEach items body ih =>
    simp only [expand, exposed, exposedOfBody_eq_flatMap, expandBody_eq_flatMap,
      List.flatMap_singleton, List.flatMap_assoc] at ih ⊢
    exact List.flatMap_congr ih
  | block body ih => rfl

theorem exposedOfBody_expandBody (f : α → List (Statement β)) (body : List (Statement α)) :
    exposedOfBody (expandBody f body) =
      (exposedOfBody body).flatMap fun target => exposedOfBody (f target) := by
  rw [expandBody_eq_flatMap, exposedOfBody_flatMap, exposedOfBody_eq_flatMap body,
    List.flatMap_assoc]
  exact List.flatMap_congr fun s _ => exposedOfBody_expand f s

/-- Expanding with calls in place of calls shows the calls that were put in. -/
theorem exposedOfBody_expandBody_call (e : α → β) (body : List (Statement α)) :
    exposedOfBody (expandBody (fun target => [.call (e target)]) body) =
      (exposedOfBody body).map e := by
  rw [exposedOfBody_expandBody]
  simp [exposedOfBody, exposed, List.map_eq_flatMap]

/-- Substitution looks at exposed calls only. -/
theorem expand_congr {f g : α → List (Statement β)} {s : Statement α}
    (h : ∀ target ∈ s.exposed, f target = g target) : s.expand f = s.expand g := by
  induction s using Statement.induction with
  | call target => exact h target (by simp [exposed])
  | conditional arms ih | switch subject arms ih =>
    simp only [expand, exposed, exposedOfBody_eq_flatMap, exposedOfArms_eq_flatMap,
      exposedOfCases_eq_flatMap, expandArms_eq_map, expandCases_eq_map, expandBody_eq_flatMap,
      List.mem_flatMap] at ih h ⊢
    congr 2
    refine List.map_congr_left fun arm harm => ?_
    congr 1
    exact List.flatMap_congr fun s hs =>
      ih arm harm s hs fun target ht => h target ⟨arm, harm, s, hs, ht⟩
  | forEach items body ih =>
    simp only [expand, exposed, exposedOfBody_eq_flatMap, expandBody_eq_flatMap,
      List.mem_flatMap] at ih h ⊢
    congr 2
    exact List.flatMap_congr fun s hs => ih s hs fun target ht => h target ⟨s, hs, ht⟩
  | block body ih => rfl

theorem expandBody_congr {f g : α → List (Statement β)} {body : List (Statement α)}
    (h : ∀ target ∈ exposedOfBody body, f target = g target) :
    expandBody f body = expandBody g body := by
  rw [exposedOfBody_eq_flatMap] at h
  rw [expandBody_eq_flatMap, expandBody_eq_flatMap]
  exact List.flatMap_congr fun s hs => expand_congr fun target ht =>
    h target (List.mem_flatMap_of_mem hs ht)

/-- Replacing calls within a statement and then expanding is one substitution. -/
theorem expandBody_replace (f : α → List (Statement β)) (g : α → List (Statement α))
    (s : Statement α) :
    expandBody f (s.replace g) = s.expand fun target => expandBody f (g target) := by
  induction s using Statement.induction with
  | call target => rfl
  | conditional arms ih | switch subject arms ih =>
    simp only [replace, expand, expandBody_eq_flatMap, replaceArms_eq_map, replaceCases_eq_map,
      replaceBody_eq_flatMap, expandArms_eq_map, expandCases_eq_map, List.flatMap_singleton,
      List.map_map] at ih ⊢
    congr 2
    refine List.map_congr_left fun arm harm => ?_
    simp only [Function.comp_apply, List.flatMap_assoc]
    congr 1
    exact List.flatMap_congr (ih arm harm)
  | forEach items body ih =>
    simp only [replace, expand, expandBody_eq_flatMap, replaceBody_eq_flatMap,
      List.flatMap_singleton, List.flatMap_assoc] at ih ⊢
    congr 2
    exact List.flatMap_congr ih
  | block body ih => rfl

/-- What is exposed after calls were replaced was exposed in what replaces them. -/
theorem exposedOfBody_replace (f : α → List (Statement α)) (s : Statement α) :
    exposedOfBody (s.replace f) = s.exposed.flatMap fun target => exposedOfBody (f target) := by
  have hcall (body : List (Statement α)) :
      exposedOfBody (expandBody (fun target => [.call target]) body) = exposedOfBody body := by
    rw [exposedOfBody_expandBody_call, List.map_id']
  rw [← hcall, expandBody_replace, exposedOfBody_expand]
  exact List.flatMap_congr fun target _ => hcall (f target)

section mapAt

variable {h : List Nat → α → β} {f : β → List (Statement γ)} {g : α → List (Statement γ)}

mutual

/-- Expanding after every call was changed is expanding with the change undone. -/
theorem expand_mapAt (hfg : ∀ path target, f (h path target) = g target) (path : List Nat) :
    ∀ s : Statement α, (s.mapAt h path).expand f = s.expand g
  | .call target => by rw [mapAt, expand, expand, hfg]
  | .conditional arms => by rw [mapAt, expand, expand, expandArms_mapArmsAt hfg path 0 arms]
  | .switch subject arms => by rw [mapAt, expand, expand, expandCases_mapCasesAt hfg path 0 arms]
  | .forEach items body => by rw [mapAt, expand, expand, expandBody_mapBodyAt hfg path 0 body]
  | .block body => by rw [mapAt, expand, expand]

theorem expandBody_mapBodyAt (hfg : ∀ path target, f (h path target) = g target)
    (path : List Nat) (i : Nat) :
    ∀ body : List (Statement α), expandBody f (mapBodyAt h path i body) = expandBody g body
  | [] => rfl
  | s :: rest => by
    rw [mapBodyAt, expandBody, expandBody, expand_mapAt hfg (path ++ [i]) s,
      expandBody_mapBodyAt hfg path (i + 1) rest]

theorem expandArms_mapArmsAt (hfg : ∀ path target, f (h path target) = g target)
    (path : List Nat) (i : Nat) :
    ∀ arms : List (Arm String (Statement α)),
      expandArms f (mapArmsAt h path i arms) = expandArms g arms
  | [] => rfl
  | ⟨guard, body⟩ :: rest => by
    rw [mapArmsAt, expandArms, expandArms, expandBody_mapBodyAt hfg (path ++ [i]) 0 body,
      expandArms_mapArmsAt hfg path (i + 1) rest]

theorem expandCases_mapCasesAt (hfg : ∀ path target, f (h path target) = g target)
    (path : List Nat) (i : Nat) :
    ∀ arms : List (Arm (List String) (Statement α)),
      expandCases f (mapCasesAt h path i arms) = expandCases g arms
  | [] => rfl
  | ⟨guard, body⟩ :: rest => by
    rw [mapCasesAt, expandCases, expandCases, expandBody_mapBodyAt hfg (path ++ [i]) 0 body,
      expandCases_mapCasesAt hfg path (i + 1) rest]

end

/-- What is exposed after every call was changed, up to a view that undoes the change. -/
theorem map_exposedOfBody_mapBodyAt {h : List Nat → α → β} {e : β → γ} {g : α → γ}
    (heg : ∀ path target, e (h path target) = g target) (path : List Nat) (i : Nat)
    (body : List (Statement α)) :
    (exposedOfBody (mapBodyAt h path i body)).map e = (exposedOfBody body).map g := by
  rw [← exposedOfBody_expandBody_call, ← exposedOfBody_expandBody_call]
  congr 1
  exact expandBody_mapBodyAt (fun path target => by rw [heg]) path i body

end mapAt

theorem expand_map (f : β → List (Statement γ)) (g : α → β) (s : Statement α) :
    (s.map g).expand f = s.expand fun target => f (g target) :=
  expand_mapAt (h := fun _ => g) (fun _ _ => rfl) [] s

theorem exposed_map (g : α → β) (s : Statement α) : (s.map g).exposed = s.exposed.map g := by
  have hcall (t : Statement β) :
      exposedOfBody (t.expand fun target => [.call target]) = t.exposed := by
    rw [exposedOfBody_expand]
    simp [exposedOfBody, exposed]
  rw [← hcall, expand_map, exposedOfBody_expand]
  simp [exposedOfBody, exposed, List.map_eq_flatMap]

end Ripple.Statement
