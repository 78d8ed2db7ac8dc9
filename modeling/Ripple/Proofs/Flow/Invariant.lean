import Ripple.Proofs.Diagram.Drawing
import Ripple.Proofs.Flow.Induction

/-!
# What every step of a walk keeps

A property of walks often comes down to what a few steps do: an entry is made in the journal, a
handler's service is activated and joins the participants, the handler is done. `WalkInvariant`
lists those steps for a relation between the ledger before, the arrows shown and the ledger
after, and `WalkInvariant.visit` says that such a relation holds over every visit, however deep.
-/

namespace Ripple

open Statement

/-! ## One walk after another -/

/-- Whether a relation between the ledger before a walk, the arrows it shows and the ledger after it
holds where nothing happens and passes on from one walk to the next. -/
structure Composes {c : Codebase} (R : Ledger c → List Arrow → Ledger c → Prop) : Prop where
  nil : ∀ l, R l [] l
  append : ∀ {l l' l'' arrows arrows'}, R l arrows l' → R l' arrows' l'' →
    R l (arrows ++ arrows') l''

namespace Composes

variable {c : Codebase} {p : Profile} {R : Ledger c → List Arrow → Ledger c → Prop}
variable {trail : Trail c} {pinned : Option String} {handler : c.Ref} {l l' l'' : Ledger c}
  {arrows : List Arrow}

/-- It holds of whatever comes before a step that shows nothing. -/
theorem before (h : Composes R) (hfirst : R l arrows l') (hlast : R l' [] l'') :
    R l arrows l'' := by
  have hboth := h.append hfirst hlast
  rwa [List.append_nil] at hboth

theorem consulted (h : Composes R) (hrecord : ∀ l a, R l [] (l.record trail (.ambiguous a)))
    (l : Ledger c) (call : Call c) : R l [] (l.consulted p trail call) := by
  unfold Ledger.consulted Ledger.recordAll
  generalize c.ambiguities p call = found
  induction found generalizing l with
  | nil => exact h.nil l
  | cons a rest ih =>
    rw [List.map_cons, List.foldl_cons]
    exact h.append (hrecord l a) (ih _)

/-- It holds of a body if it holds of its statements. -/
theorem walkAll_of_forall (h : Composes R) {body : List (Statement (Call c))}
    (hbody : ∀ s ∈ body, ∀ l, R l (Fragment.arrowsOf (walk c p handler pinned trail s l).1)
      (walk c p handler pinned trail s l).2) (l : Ledger c) :
    R l (Fragment.arrowsOf (walkAll c p handler pinned trail body l).1)
      (walkAll c p handler pinned trail body l).2 := by
  induction body generalizing l with
  | nil =>
    rw [walkAll]
    exact h.nil l
  | cons s rest ih =>
    obtain ⟨hs, hrest⟩ := List.forall_mem_cons.1 hbody
    rw [walkAll]
    simp only [Fragment.arrowsOf_append]
    exact h.append (hs l) (ih hrest _)

/-- It holds of a group if it holds of the statements of its sections. -/
theorem group_of_forall (h : Composes R) (kind : GroupKind)
    {sections : List (String × List (Statement (Call c)))}
    (hsections : ∀ part ∈ sections, ∀ s ∈ part.2, ∀ l,
      R l (Fragment.arrowsOf (walk c p handler pinned trail s l).1)
        (walk c p handler pinned trail s l).2) (l : Ledger c) :
    R l
      (Fragment.arrowsOf
        (Fragment.group kind (walkSections c p handler pinned trail sections l).1))
      (walkSections c p handler pinned trail sections l).2 := by
  rw [Fragment.arrowsOf_group]
  induction sections generalizing l with
  | nil =>
    rw [walkSections]
    exact h.nil l
  | cons part rest ih =>
    obtain ⟨label, body⟩ := part
    obtain ⟨hbody, hrest⟩ := List.forall_mem_cons.1 hsections
    rw [walkSections]
    exact h.append (h.walkAll_of_forall hbody l) (ih hrest _)

end Composes

/-! ## All steps of a walk -/

/-- Whether an event can happen on a trail: messages nest too deep only at the limit. -/
def Event.Fits {c : Codebase} (p : Profile) (trail : Trail c) : Event c → Prop
  | .tooDeep _ => p.maxDepth ≤ trail.visits.length
  | _ => True

/-- A relation between the ledger before a walk, the arrows it shows and the ledger after it,
which may depend on the trail and on the pinned service, and which every step keeps. -/
structure WalkInvariant (c : Codebase) (p : Profile)
    (Q : Trail c → Option String → Ledger c → List Arrow → Ledger c → Prop) : Prop where
  /-- It holds where nothing happens. -/
  nil : ∀ trail pinned l, Q trail pinned l [] l
  /-- It holds of one walk after another. -/
  append : ∀ {trail pinned l l' l'' arrows arrows'}, Q trail pinned l arrows l' →
    Q trail pinned l' arrows' l'' → Q trail pinned l (arrows ++ arrows') l''
  /-- It holds of an entry in the journal. -/
  record : ∀ {trail pinned l event}, event.Fits p trail → Q trail pinned l [] (l.record trail event)
  /-- It passes from the body of a visit to the outside. -/
  leave : ∀ {trail pinned l l' arrows message handler},
    handler ∈ c.handlers p (c.decl message) → c.visitOf handler message ∉ trail.visits →
    trail.visits.length < p.maxDepth →
    Q (trail.enter (c.visitOf handler message)) pinned l arrows l' → Q trail pinned l arrows l'
  /-- It passes from an inlined body to the outside. -/
  leaveInlined : ∀ {trail pinned l l' arrows} {m : c.MethodRef}, m ∉ trail.inlined →
    Q (trail.enterInlined m) pinned l arrows l' → Q trail pinned l arrows l'
  /-- It passes from what follows the arrow to a handler to all that the handler does. -/
  handle : ∀ {trail pinned l l' arrows sender message handler},
    handler ∈ c.handlers p (c.decl message) → trail.visits.length < p.maxDepth →
    Q trail (pinned.or (p.serviceOf (c.decl handler))) (l.opened p handler message trail) arrows
      l' →
    Q trail pinned l (c.arrowTo p sender message handler :: arrows)
      (l'.closed p handler message pinned trail)

namespace WalkInvariant

variable {c : Codebase} {p : Profile}
variable {Q : Trail c → Option String → Ledger c → List Arrow → Ledger c → Prop}
variable {trail : Trail c} {pinned : Option String} {l l' : Ledger c} {arrows : List Arrow}

theorem composes (h : WalkInvariant c p Q) : Composes (Q trail pinned) :=
  ⟨h.nil trail pinned, h.append⟩

/-- It holds of whatever comes after an entry in the journal. -/
theorem after_record (h : WalkInvariant c p Q) {event : Event c} (hfits : event.Fits p trail)
    (hrest : Q trail pinned (l.record trail event) arrows l') : Q trail pinned l arrows l' :=
  h.append (h.record hfits) hrest

/-- It holds of whatever comes before an entry in the journal. -/
theorem before_record (h : WalkInvariant c p Q) {event : Event c} (hfits : event.Fits p trail)
    (hfirst : Q trail pinned l arrows l') : Q trail pinned l arrows (l'.record trail event) :=
  h.composes.before hfirst (h.record hfits)

theorem consulted (h : WalkInvariant c p Q) (l : Ledger c) (call : Call c) :
    Q trail pinned l [] (l.consulted p trail call) :=
  h.composes.consulted (fun _ _ => h.record trivial) l call

/-- It holds of visits to handlers if it holds of what follows the arrow to each. -/
theorem visitEach_of_forall (h : WalkInvariant c p Q) {message : c.Ref} {sender : Option String}
    {handlers : List c.Ref} (hlt : trail.visits.length < p.maxDepth)
    (hmem : ∀ handler ∈ handlers, handler ∈ c.handlers p (c.decl message))
    (hfollow : ∀ handler ∈ handlers, ∀ l,
      Q trail (pinned.or (p.serviceOf (c.decl handler))) l
        (Fragment.arrowsOf (followUp p handler message pinned trail l).1)
        (followUp p handler message pinned trail l).2) (l : Ledger c) :
    Q trail pinned l
      (Fragment.arrowsOf (visitEach c p handlers message sender pinned trail l).1)
      (visitEach c p handlers message sender pinned trail l).2 := by
  induction handlers generalizing l with
  | nil =>
    rw [visitEach_nil]
    exact h.nil ..
  | cons handler rest ih =>
    obtain ⟨hhandler, hothers⟩ := List.forall_mem_cons.1 hmem
    obtain ⟨hfirst, hrest⟩ := List.forall_mem_cons.1 hfollow
    simp only [visitEach_cons, List.cons_append, Fragment.arrowsOf_arrow_cons,
      Fragment.arrowsOf_append]
    exact h.append (h.handle hhandler hlt (hfirst _)) (ih hothers hrest _)

/-- It holds of what follows the arrow to a handler if it holds of the statements of the
handling method. -/
theorem followUp_of_forall (h : WalkInvariant c p Q) {message handler : c.Ref}
    (hhandler : handler ∈ c.handlers p (c.decl message)) (hlt : trail.visits.length < p.maxDepth)
    (hbody : ∀ m, c.visitOf handler message ∉ trail.visits →
      c.handlingMethod p handler (c.decl message) = some m → ∀ s ∈ m.body, ∀ pinned l,
        Q (trail.enter (c.visitOf handler message)) pinned l
          (Fragment.arrowsOf
            (walk c p handler pinned (trail.enter (c.visitOf handler message)) s l).1)
          (walk c p handler pinned (trail.enter (c.visitOf handler message)) s l).2)
    (l : Ledger c) :
    Q trail (pinned.or (p.serviceOf (c.decl handler))) l
      (Fragment.arrowsOf (followUp p handler message pinned trail l).1)
      (followUp p handler message pinned trail l).2 := by
  unfold followUp
  split
  · exact h.record trivial
  next hfree =>
    cases hm : c.handlingMethod p handler (c.decl message) with
    | none => exact h.nil ..
    | some m =>
      exact h.leave hhandler hfree hlt (h.after_record (by exact trivial)
        (h.composes.walkAll_of_forall (fun s hs => hbody m hfree hm s hs _) _))

/-- It holds over every visit and over the walk of every statement. -/
theorem holds (h : WalkInvariant c p Q) :
    (∀ (message : c.Ref) (sender : Option String) (trail : Trail c), ∀ pinned l,
      Q trail pinned l (Fragment.arrowsOf (Ripple.visit c p message sender pinned trail l).1)
        (Ripple.visit c p message sender pinned trail l).2) ∧
    ∀ (handler : c.Ref) (trail : Trail c) (s : Statement (Call c)), ∀ pinned l,
      Q trail pinned l (Fragment.arrowsOf (walk c p handler pinned trail s l).1)
        (walk c p handler pinned trail s l).2 := by
  apply walk_induction
  case deep =>
    intro message sender trail hdeep pinned l
    rw [visit_of_deep hdeep]
    exact h.before_record trivial (h.after_record (by exact trivial) (h.record hdeep))
  case handled =>
    intro message sender trail hlt ih pinned l
    rw [visit_of_lt hlt]
    exact h.before_record trivial (h.after_record (by exact trivial)
      (h.visitEach_of_forall hlt (fun _ hmem => hmem)
        (fun handler hmem => h.followUp_of_forall hmem hlt (ih handler hmem)) _))
  case publishes =>
    intro handler trail call hpub ih pinned l
    rw [walk_of_publishes hpub]
    cases hmessage : c.messageOf p call.invocation with
    | none => exact h.record trivial
    | some message => exact h.after_record (by exact trivial) (ih message hmessage pinned _)
  case unresolved =>
    intro handler trail call hpub hnone pinned l
    rw [walk_of_resolve_eq_none hpub hnone]
    exact h.consulted l call
  case inlining =>
    intro handler trail call m hm hmem pinned l
    rw [walk_of_mem hm hmem]
    exact h.consulted l call
  case inlines =>
    intro handler trail call m hm hfree ih pinned l
    rw [walk_of_notMem hm hfree]
    exact h.append (h.consulted l call) (h.leaveInlined hfree (h.after_record (by exact trivial)
      (h.composes.walkAll_of_forall (fun s hs => ih s hs pinned) _)))
  case conditional =>
    intro handler trail arms ih pinned l
    rw [walk]
    exact h.composes.group_of_forall _ (fun part hpart s hs => ih part hpart s hs pinned) l
  case switch =>
    intro handler trail subject arms ih pinned l
    rw [walk]
    exact h.composes.group_of_forall _ (fun part hpart s hs => ih part hpart s hs pinned) l
  case forEach =>
    intro handler trail items body ih pinned l
    rw [walk]
    exact h.composes.group_of_forall _ (fun part hpart s hs => ih part hpart s hs pinned) l
  case block =>
    intro handler trail body pinned l
    rw [walk]
    exact h.nil ..

theorem visit (h : WalkInvariant c p Q) (message : c.Ref) (sender pinned : Option String)
    (trail : Trail c) (l : Ledger c) :
    Q trail pinned l (Fragment.arrowsOf (Ripple.visit c p message sender pinned trail l).1)
      (Ripple.visit c p message sender pinned trail l).2 :=
  h.holds.1 message sender trail pinned l

theorem walkAll (h : WalkInvariant c p Q) (handler : c.Ref) (pinned : Option String)
    (trail : Trail c) (body : List (Statement (Call c))) (l : Ledger c) :
    Q trail pinned l (Fragment.arrowsOf (Ripple.walkAll c p handler pinned trail body l).1)
      (Ripple.walkAll c p handler pinned trail body l).2 :=
  h.composes.walkAll_of_forall (fun s _ => h.holds.2 handler trail s pinned) l

theorem group (h : WalkInvariant c p Q) (handler : c.Ref) (pinned : Option String)
    (trail : Trail c) (kind : GroupKind) (sections : List (String × List (Statement (Call c))))
    (l : Ledger c) :
    Q trail pinned l
      (Fragment.arrowsOf
        (Fragment.group kind (walkSections c p handler pinned trail sections l).1))
      (walkSections c p handler pinned trail sections l).2 :=
  h.composes.group_of_forall kind (fun _ _ s _ => h.holds.2 handler trail s pinned) l

theorem visitEach (h : WalkInvariant c p Q) {handlers : List c.Ref} {message : c.Ref}
    (hlt : trail.visits.length < p.maxDepth)
    (hmem : ∀ handler ∈ handlers, handler ∈ c.handlers p (c.decl message))
    (sender pinned : Option String) (l : Ledger c) :
    Q trail pinned l
      (Fragment.arrowsOf (Ripple.visitEach c p handlers message sender pinned trail l).1)
      (Ripple.visitEach c p handlers message sender pinned trail l).2 := by
  refine h.visitEach_of_forall hlt hmem (fun handler hhandler => ?_) l
  exact h.followUp_of_forall (hmem handler hhandler) hlt fun m _ _ s _ => h.holds.2 handler _ s

end WalkInvariant

end Ripple
