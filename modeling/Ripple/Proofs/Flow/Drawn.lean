import Ripple.Proofs.Diagram.Drawing
import Ripple.Proofs.Flow.Distilled
import Ripple.Proofs.Flow.Induction

/-!
# What a walk shows

The fragments of a walk do not depend on the ledger or on the pinned service, and on the
trail only through the visits going on and the methods being inlined. `drawVisit` gives those
of a visit from the distilled bodies of the handlers; `visit_fst` and `walkAll_fst` say that
these are the fragments of the walk.
-/

namespace Ripple

open Statement

namespace Codebase

variable (c : Codebase) (p : Profile)

/-- The publishing calls left of the method that handles a message; none without one. -/
def script (handler message : c.Ref) : List (Statement Invocation) :=
  match c.handlingMethod p handler (c.decl message) with
  | none => []
  | some m => c.distillBody p m

/-- What a visit shows while `visits` are going on. -/
def drawVisit (message : c.Ref) (sender : Option String) (visits : List Visit) : List Fragment :=
  if p.maxDepth ≤ visits.length then []
  else
    (c.handlers p (c.decl message)).flatMap fun handler =>
      .arrow (c.arrowTo p sender message handler) ::
        if _h : c.visitOf handler message ∈ visits then []
        else
          drawBody
            (fun call =>
              match c.messageOf p call with
              | none => []
              | some next =>
                drawVisit next (p.serviceOf (c.decl handler)) (c.visitOf handler message :: visits))
            (c.script p handler message)
termination_by c.idleVisits ⟨visits, []⟩
decreasing_by exact @idleVisits_enter_lt c ⟨visits, []⟩ _ _ _h

/-- What a publishing call shows in a body that runs for `handler`. -/
def drawSent (handler : c.Ref) (visits : List Visit) (call : Invocation) : List Fragment :=
  match c.messageOf p call with
  | none => []
  | some next => c.drawVisit p next (p.serviceOf (c.decl handler)) visits

/-- What follows the arrow to a handler. -/
def drawFollowUp (handler message : c.Ref) (visits : List Visit) : List Fragment :=
  if c.visitOf handler message ∈ visits then []
  else drawBody (c.drawSent p handler (c.visitOf handler message :: visits))
    (c.script p handler message)

/-- What any call shows in a body that runs for `handler`. -/
def drawCall (handler : c.Ref) (trail : Trail c) (call : Call c) : List Fragment :=
  drawBody (c.drawSent p handler trail.visits) (c.distill p trail.inlined call)

variable {c p}
variable {message : c.Ref} {sender : Option String} {visits : List Visit}

theorem drawVisit_of_deep (h : p.maxDepth ≤ visits.length) :
    c.drawVisit p message sender visits = [] := by
  rw [drawVisit, if_pos h]

theorem drawVisit_of_lt (h : visits.length < p.maxDepth) :
    c.drawVisit p message sender visits =
      (c.handlers p (c.decl message)).flatMap fun handler =>
        .arrow (c.arrowTo p sender message handler) :: c.drawFollowUp p handler message visits := by
  rw [drawVisit, if_neg (Nat.not_le.2 h)]
  rfl

end Codebase

variable {c : Codebase} {p : Profile}
variable {handler : c.Ref} {pinned : Option String} {trail : Trail c}

/-- A body shows what its statements show. -/
theorem walkAll_fst_of_forall {body : List (Statement (Call c))} {reply : Call c → List Fragment}
    (h : ∀ s ∈ body, ∀ l, (walk c p handler pinned trail s l).1 = s.draw reply) (l : Ledger c) :
    (walkAll c p handler pinned trail body l).1 = drawBody reply body := by
  induction body generalizing l with
  | nil => rw [walkAll, drawBody]
  | cons s rest ih =>
    obtain ⟨hs, hrest⟩ := List.forall_mem_cons.1 h
    rw [walkAll, drawBody, hs, ih hrest]

/-- Labelled bodies show what their statements show. -/
theorem walkSections_fst_of_forall {sections : List (String × List (Statement (Call c)))}
    {reply : Call c → List Fragment}
    (h : ∀ part ∈ sections, ∀ s ∈ part.2, ∀ l,
      (walk c p handler pinned trail s l).1 = s.draw reply) (l : Ledger c) :
    (walkSections c p handler pinned trail sections l).1 =
      sections.map fun part => (part.1, drawBody reply part.2) := by
  induction sections generalizing l with
  | nil => rw [walkSections, List.map_nil]
  | cons part rest ih =>
    obtain ⟨label, body⟩ := part
    obtain ⟨hbody, hrest⟩ := List.forall_mem_cons.1 h
    rw [walkSections, List.map_cons, walkAll_fst_of_forall hbody, ih hrest]

/-- What handlers show is put together from what follows the arrow to each. -/
theorem visitEach_fst_of_forall {message : c.Ref} {sender : Option String}
    {handlers : List c.Ref} {shown : c.Ref → List Fragment}
    (h : ∀ handler ∈ handlers, ∀ l, (followUp p handler message pinned trail l).1 = shown handler)
    (l : Ledger c) :
    (visitEach c p handlers message sender pinned trail l).1 =
      handlers.flatMap fun handler =>
        .arrow (c.arrowTo p sender message handler) :: shown handler := by
  induction handlers generalizing l with
  | nil => rw [visitEach_nil]; rfl
  | cons handler rest ih =>
    obtain ⟨hhandler, hrest⟩ := List.forall_mem_cons.1 h
    simp only [visitEach_cons, List.flatMap_cons, hhandler, ih hrest]

/-- What follows the arrow to a handler is put together from what the statements of the handling
method show. -/
theorem followUp_fst_of_forall {message : c.Ref}
    (h : ∀ m, c.visitOf handler message ∉ trail.visits →
      c.handlingMethod p handler (c.decl message) = some m → ∀ s ∈ m.body, ∀ pinned l,
        (walk c p handler pinned (trail.enter (c.visitOf handler message)) s l).1 =
          s.draw (c.drawCall p handler (trail.enter (c.visitOf handler message))))
    (pinned : Option String) (l : Ledger c) :
    (followUp p handler message pinned trail l).1 =
      c.drawFollowUp p handler message trail.visits := by
  unfold followUp Codebase.drawFollowUp Codebase.script
  split
  · rfl
  next hfree =>
    cases hm : c.handlingMethod p handler (c.decl message) with
    | none => rfl
    | some m =>
      exact (walkAll_fst_of_forall (fun s hs => h m hfree hm s hs _) _).trans
        (drawBody_expandBody _ _ _).symm

/-- The fragments of visits and of statements, whatever the ledger and the pinned service. -/
theorem fst_eq_draw :
    (∀ (message : c.Ref) (sender : Option String) (trail : Trail c), ∀ pinned l,
      (visit c p message sender pinned trail l).1 = c.drawVisit p message sender trail.visits) ∧
    ∀ (handler : c.Ref) (trail : Trail c) (s : Statement (Call c)), ∀ pinned l,
      (walk c p handler pinned trail s l).1 = s.draw (c.drawCall p handler trail) := by
  apply walk_induction
  case deep =>
    intro message sender trail hdeep pinned l
    rw [visit_of_deep hdeep, Codebase.drawVisit_of_deep hdeep]
  case handled =>
    intro message sender trail hlt ih pinned l
    rw [visit_of_lt hlt, Codebase.drawVisit_of_lt hlt]
    exact visitEach_fst_of_forall
      (fun handler hmem => followUp_fst_of_forall (ih handler hmem) pinned) _
  case publishes =>
    intro handler trail call hpub ih pinned l
    rw [walk_of_publishes hpub, draw, Codebase.drawCall, Codebase.distill_of_publishes hpub,
      drawBody_singleton, draw, Codebase.drawSent]
    cases hmessage : c.messageOf p call.invocation with
    | none => rfl
    | some message => exact ih message hmessage pinned _
  case unresolved =>
    intro handler trail call hpub hnone pinned l
    rw [walk_of_resolve_eq_none hpub hnone, draw, Codebase.drawCall,
      Codebase.distill_of_resolve_eq_none hpub hnone, drawBody]
  case inlining =>
    intro handler trail call m hm hmem pinned l
    rw [walk_of_mem hm hmem, draw, Codebase.drawCall, Codebase.distill_of_mem hm hmem, drawBody]
  case inlines =>
    intro handler trail call m hm hfree ih pinned l
    rw [walk_of_notMem hm hfree, draw, Codebase.drawCall, Codebase.distill_of_notMem hm hfree,
      drawBody_expandBody, walkAll_fst_of_forall fun s hs => ih s hs pinned]
    rfl
  case conditional =>
    intro handler trail arms ih pinned l
    rw [walk, walkSections_fst_of_forall fun part hpart s hs => ih part hpart s hs pinned, draw,
      drawArms_eq_map, labelArms, List.map_map]
    rfl
  case switch =>
    intro handler trail subject arms ih pinned l
    rw [walk, walkSections_fst_of_forall fun part hpart s hs => ih part hpart s hs pinned, draw,
      drawCases_eq_map, labelCases, List.map_map]
    rfl
  case forEach =>
    intro handler trail items body ih pinned l
    rw [walk, walkSections_fst_of_forall fun part hpart s hs => ih part hpart s hs pinned, draw]
    rfl
  case block =>
    intro handler trail body pinned l
    rw [walk, draw]

theorem visit_fst (message : c.Ref) (sender : Option String) (l : Ledger c) :
    (visit c p message sender pinned trail l).1 = c.drawVisit p message sender trail.visits :=
  fst_eq_draw.1 message sender trail pinned l

theorem walk_fst (s : Statement (Call c)) (l : Ledger c) :
    (walk c p handler pinned trail s l).1 = s.draw (c.drawCall p handler trail) :=
  fst_eq_draw.2 handler trail s pinned l

theorem walkAll_fst (body : List (Statement (Call c))) (l : Ledger c) :
    (walkAll c p handler pinned trail body l).1 =
      drawBody (c.drawSent p handler trail.visits)
        (expandBody (c.distill p trail.inlined) body) := by
  rw [walkAll_fst_of_forall fun s _ => walk_fst s, drawBody_expandBody]
  rfl

theorem followUp_fst (message : c.Ref) (l : Ledger c) :
    (followUp p handler message pinned trail l).1 =
      c.drawFollowUp p handler message trail.visits :=
  followUp_fst_of_forall (fun _ _ _ s _ _ l => walk_fst s l) pinned l

end Ripple
