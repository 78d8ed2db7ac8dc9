import Ripple.Diagram.Fragment
import Ripple.Proofs.Code.Statement

/-!
# Drawing bodies

`draw` turns statements into fragments: what a call shows is given, branches and loops become
groups, blocks show nothing. Drawing after a substitution is drawing once, with what the
substituted statements show in place of each call, and the arrows of a drawing are those that
the exposed calls show, in order.
-/

namespace Ripple

namespace Fragment

@[simp] theorem arrowsOf_append (xs ys : List Fragment) :
    arrowsOf (xs ++ ys) = arrowsOf xs ++ arrowsOf ys := by
  induction xs with
  | nil => rfl
  | cons x rest ih => rw [List.cons_append, arrowsOf, ih, arrowsOf, List.append_assoc]

@[simp] theorem arrowsOf_nil : arrowsOf [] = [] := rfl

theorem arrowsOf_arrow_cons (a : Arrow) (rest : List Fragment) :
    arrowsOf (.arrow a :: rest) = a :: arrowsOf rest := rfl

theorem arrowsOf_flatMap {α : Type} (f : α → List Fragment) (xs : List α) :
    arrowsOf (xs.flatMap f) = xs.flatMap fun x => arrowsOf (f x) := by
  induction xs with
  | nil => rfl
  | cons x rest ih => rw [List.flatMap_cons, arrowsOf_append, ih, List.flatMap_cons]

theorem arrowsOfSections_eq_flatMap (sections : List (Section Fragment)) :
    arrowsOfSections sections = sections.flatMap fun s => arrowsOf s.fragments := by
  induction sections with
  | nil => rfl
  | cons s rest ih => rw [arrowsOfSections, ih, List.flatMap_cons]

/-- Leaving out the empty sections leaves out no arrow. -/
theorem flatMap_arrowsOf_filter (sections : List (String × List Fragment)) :
    ((sections.filter (!·.2.isEmpty)).flatMap fun s => arrowsOf s.2) =
      sections.flatMap fun s => arrowsOf s.2 := by
  induction sections with
  | nil => rfl
  | cons s rest ih =>
    obtain ⟨label, fragments⟩ := s
    cases fragments <;> simp [ih]

theorem arrowsOf_group (kind : GroupKind) (sections : List (String × List Fragment)) :
    arrowsOf (group kind sections) = sections.flatMap fun s => arrowsOf s.2 := by
  rw [← flatMap_arrowsOf_filter, group]
  split
  next h => rw [h, List.flatMap_nil, arrowsOf_nil]
  next label fragments rest h =>
    rw [h, arrowsOf, arrows, arrowsOf_nil, List.append_nil, arrowsOfSections_eq_flatMap,
      List.flatMap_cons, List.flatMap_map, List.flatMap_cons]

end Fragment

namespace Statement

variable {α β : Type}

mutual

/-- What a statement shows when `send` says what each exposed call shows. -/
def draw (send : α → List Fragment) : Statement α → List Fragment
  | .call target => send target
  | .conditional arms => Fragment.group .conditional (drawArms send arms)
  | .switch _ arms => Fragment.group .case (drawCases send arms)
  | .forEach items body => Fragment.group .forEach [(items, drawBody send body)]
  | .block _ => []

/-- What a body shows. -/
def drawBody (send : α → List Fragment) : List (Statement α) → List Fragment
  | [] => []
  | statement :: rest => statement.draw send ++ drawBody send rest

/-- What the arms of a conditional show, each under its condition. -/
def drawArms (send : α → List Fragment) :
    List (Arm String (Statement α)) → List (String × List Fragment)
  | [] => []
  | ⟨guard, body⟩ :: rest => (guard, drawBody send body) :: drawArms send rest

/-- What the arms of a switch show, each under its labels. -/
def drawCases (send : α → List Fragment) :
    List (Arm (List String) (Statement α)) → List (String × List Fragment)
  | [] => []
  | ⟨guard, body⟩ :: rest => (String.join guard, drawBody send body) :: drawCases send rest

end

theorem drawBody_eq_flatMap (send : α → List Fragment) (body : List (Statement α)) :
    drawBody send body = body.flatMap (draw send) := by
  induction body with
  | nil => rfl
  | cons s rest ih => rw [drawBody, ih, List.flatMap_cons]

theorem drawArms_eq_map (send : α → List Fragment) (arms : List (Arm String (Statement α))) :
    drawArms send arms = arms.map fun arm => (arm.guard, drawBody send arm.body) := by
  induction arms with
  | nil => rfl
  | cons arm rest ih => rw [drawArms, ih, List.map_cons]

theorem drawCases_eq_map (send : α → List Fragment)
    (arms : List (Arm (List String) (Statement α))) :
    drawCases send arms = arms.map fun arm => (String.join arm.guard, drawBody send arm.body) := by
  induction arms with
  | nil => rfl
  | cons arm rest ih => rw [drawCases, ih, List.map_cons]

theorem drawBody_append (send : α → List Fragment) (body rest : List (Statement α)) :
    drawBody send (body ++ rest) = drawBody send body ++ drawBody send rest := by
  rw [drawBody_eq_flatMap, List.flatMap_append, ← drawBody_eq_flatMap, ← drawBody_eq_flatMap]

theorem drawBody_singleton (send : α → List Fragment) (s : Statement α) :
    drawBody send [s] = s.draw send := by
  rw [drawBody_eq_flatMap, List.flatMap_singleton]

mutual

/-- Drawing after a substitution is drawing what was substituted in place of each call. -/
theorem drawBody_expand (send : β → List Fragment) (f : α → List (Statement β)) :
    ∀ s : Statement α, drawBody send (s.expand f) = s.draw fun target => drawBody send (f target)
  | .call target => rfl
  | .conditional arms => by
    rw [expand, drawBody_singleton, draw, draw, drawArms_expandArms send f arms]
  | .switch subject arms => by
    rw [expand, drawBody_singleton, draw, draw, drawCases_expandCases send f arms]
  | .forEach items body => by
    rw [expand, drawBody_singleton, draw, draw, drawBody_expandBody send f body]
  | .block body => rfl

theorem drawBody_expandBody (send : β → List Fragment) (f : α → List (Statement β)) :
    ∀ body : List (Statement α),
      drawBody send (expandBody f body) = drawBody (fun target => drawBody send (f target)) body
  | [] => rfl
  | s :: rest => by
    rw [expandBody, drawBody_append, drawBody, drawBody_expand send f s,
      drawBody_expandBody send f rest]

theorem drawArms_expandArms (send : β → List Fragment) (f : α → List (Statement β)) :
    ∀ arms : List (Arm String (Statement α)),
      drawArms send (expandArms f arms) = drawArms (fun target => drawBody send (f target)) arms
  | [] => rfl
  | ⟨guard, body⟩ :: rest => by
    rw [expandArms, drawArms, drawArms, drawBody_expandBody send f body,
      drawArms_expandArms send f rest]

theorem drawCases_expandCases (send : β → List Fragment) (f : α → List (Statement β)) :
    ∀ arms : List (Arm (List String) (Statement α)),
      drawCases send (expandCases f arms) = drawCases (fun target => drawBody send (f target)) arms
  | [] => rfl
  | ⟨guard, body⟩ :: rest => by
    rw [expandCases, drawCases, drawCases, drawBody_expandBody send f body,
      drawCases_expandCases send f rest]

end

/-- The arrows of a drawing are those that the exposed calls show, in order. -/
theorem arrowsOf_draw (send : α → List Fragment) (s : Statement α) :
    Fragment.arrowsOf (s.draw send) =
      s.exposed.flatMap fun target => Fragment.arrowsOf (send target) := by
  induction s using Statement.induction with
  | call target => rw [draw, exposed, List.flatMap_singleton]
  | conditional arms ih | switch subject arms ih =>
    simp only [draw, exposed, Fragment.arrowsOf_group, drawArms_eq_map, drawCases_eq_map,
      drawBody_eq_flatMap, exposedOfArms_eq_flatMap, exposedOfCases_eq_flatMap,
      exposedOfBody_eq_flatMap, List.flatMap_map, Fragment.arrowsOf_flatMap, List.flatMap_assoc]
    exact List.flatMap_congr fun arm harm => List.flatMap_congr fun s hs => ih arm harm s hs
  | forEach items body ih =>
    simp only [draw, exposed, Fragment.arrowsOf_group, List.flatMap_singleton,
      drawBody_eq_flatMap, exposedOfBody_eq_flatMap, Fragment.arrowsOf_flatMap,
      List.flatMap_assoc]
    exact List.flatMap_congr ih
  | block body ih => rfl

theorem arrowsOf_drawBody (send : α → List Fragment) (body : List (Statement α)) :
    Fragment.arrowsOf (drawBody send body) =
      (exposedOfBody body).flatMap fun target => Fragment.arrowsOf (send target) := by
  rw [drawBody_eq_flatMap, Fragment.arrowsOf_flatMap, exposedOfBody_eq_flatMap,
    List.flatMap_assoc]
  exact List.flatMap_congr fun s _ => arrowsOf_draw send s

end Statement

end Ripple
