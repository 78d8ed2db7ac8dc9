import Ripple.Proofs.Flow.Invariant

/-!
# What every step of a run keeps

A run is a walk that starts with nothing going on. Throughout it the trail tells who sends a message
and at which service the flow branched off: the sender is the service of the innermost handler, and
the flow branched off at the first known service of the handlers, outermost first. Only where no
visit goes on are these the ones that the run was given.

`RunInvariant` is to runs what `WalkInvariant` is to walks: it lists the steps, with these two as
the trail has them, and `RunInvariant.visit` says that a relation they all keep holds over every
run.
-/

namespace Ripple

open Statement

/-- The sender of a message while visits go on. -/
def senderAmid (p : Profile) (given : Option String) : List Visit → Option String
  | [] => given
  | v :: _ => p.serviceFor v.handler

/-- The service at which the flow branched off while visits go on. -/
def pinnedAmid (p : Profile) (given : Option String) : List Visit → Option String
  | [] => given
  | v :: outer => (pinnedAmid p given outer).or (p.serviceFor v.handler)

/-- Whether an event begins the visit to a handler, holds it back or ends it. -/
def Event.marksVisit {c : Codebase} : Event c → Bool
  | .opened .. | .reentered .. | .closed .. => true
  | _ => false

/-- A relation between the ledger before a part of a run, the arrows it shows and the ledger after
it, which may depend on the trail, and which every step keeps. -/
structure RunInvariant (c : Codebase) (p : Profile) (sender pinned : Option String)
    (Q : Trail c → Ledger c → List Arrow → Ledger c → Prop) : Prop where
  composes : ∀ trail, Composes (Q trail)
  /-- It holds of an entry in the journal that does not mark a visit. -/
  record : ∀ {trail l} {event : Event c}, event.marksVisit = false →
    Q trail l [] (l.record trail event)
  /-- It passes from an inlined body to the outside. -/
  leaveInlined : ∀ {trail l l' arrows} {m : c.MethodRef},
    Q (trail.enterInlined m) l arrows l' → Q trail l arrows l'
  /-- It holds of a visit to a handler without a handling method. -/
  unhandled : ∀ trail l message handler,
    Q trail l [c.arrowTo p (senderAmid p sender trail.visits) message handler]
      ((l.opened p handler message trail).closed p handler message
        (pinnedAmid p pinned trail.visits) trail)
  /-- It holds of a visit that is going on already. -/
  heldBack : ∀ trail l message handler,
    Q trail l [c.arrowTo p (senderAmid p sender trail.visits) message handler]
      (((l.opened p handler message trail).record trail
        (.reentered (c.visitOf handler message))).closed p handler message
          (pinnedAmid p pinned trail.visits) trail)
  /-- It passes from the body of a visit to all that the visit does. -/
  handle : ∀ {trail l l' arrows message handler},
    Q (trail.enter (c.visitOf handler message)) (l.opened p handler message trail) arrows l' →
    Q trail l (c.arrowTo p (senderAmid p sender trail.visits) message handler :: arrows)
      (l'.closed p handler message (pinnedAmid p pinned trail.visits) trail)

namespace RunInvariant

variable {c : Codebase} {p : Profile} {sender pinned : Option String}
variable {Q : Trail c → Ledger c → List Arrow → Ledger c → Prop}
variable {trail : Trail c} {message handler : c.Ref}

/-- It holds of a visit to a handler if it holds of the statements of the handling method. -/
theorem followUp_of_forall (h : RunInvariant c p sender pinned Q)
    (hbody : ∀ m, c.visitOf handler message ∉ trail.visits →
      c.handlingMethod p handler (c.decl message) = some m → ∀ s ∈ m.body, ∀ l,
        let visits := c.visitOf handler message :: trail.visits
        Q (trail.enter (c.visitOf handler message)) l
          (Fragment.arrowsOf (walk c p handler (pinnedAmid p pinned visits)
            (trail.enter (c.visitOf handler message)) s l).1)
          (walk c p handler (pinnedAmid p pinned visits)
            (trail.enter (c.visitOf handler message)) s l).2)
    (l : Ledger c) :
    let inner := followUp p handler message (pinnedAmid p pinned trail.visits) trail
      (l.opened p handler message trail)
    Q trail l (c.arrowTo p (senderAmid p sender trail.visits) message handler ::
        Fragment.arrowsOf inner.1)
      (inner.2.closed p handler message (pinnedAmid p pinned trail.visits) trail) := by
  unfold followUp
  split
  · exact h.heldBack trail l message handler
  next hfree =>
    cases hm : c.handlingMethod p handler (c.decl message) with
    | none => exact h.unhandled trail l message handler
    | some m =>
      exact h.handle ((h.composes _).append (h.record rfl)
        ((h.composes _).walkAll_of_forall (hbody m hfree hm) _))

/-- It holds of visits to handlers if it holds of each. -/
theorem visitEach_of_forall (h : RunInvariant c p sender pinned Q) {handlers : List c.Ref}
    (hfollow : ∀ handler ∈ handlers, ∀ l,
      let inner := followUp p handler message (pinnedAmid p pinned trail.visits) trail
        (Ledger.opened l p handler message trail)
      Q trail l (c.arrowTo p (senderAmid p sender trail.visits) message handler ::
          Fragment.arrowsOf inner.1)
        (inner.2.closed p handler message (pinnedAmid p pinned trail.visits) trail))
    (l : Ledger c) :
    let done := visitEach c p handlers message (senderAmid p sender trail.visits)
      (pinnedAmid p pinned trail.visits) trail l
    Q trail l (Fragment.arrowsOf done.1) done.2 := by
  induction handlers generalizing l with
  | nil =>
    rw [visitEach_nil]
    exact (h.composes trail).nil l
  | cons handler rest ih =>
    obtain ⟨hfirst, hrest⟩ := List.forall_mem_cons.1 hfollow
    simp only [visitEach_cons, List.cons_append, Fragment.arrowsOf_arrow_cons,
      Fragment.arrowsOf_append]
    exact (h.composes trail).append (hfirst l) (ih hrest _)

/-- It holds over every visit of a run and over the walk of every statement in it. -/
theorem holds (h : RunInvariant c p sender pinned Q) :
    (∀ message sender' (trail : Trail c), sender' = senderAmid p sender trail.visits → ∀ l,
      let done := Ripple.visit c p message sender' (pinnedAmid p pinned trail.visits) trail l
      Q trail l (Fragment.arrowsOf done.1) done.2) ∧
    ∀ handler (trail : Trail c) s,
      senderAmid p sender trail.visits = p.serviceOf (c.decl handler) → ∀ l,
        let done := walk c p handler (pinnedAmid p pinned trail.visits) trail s l
        Q trail l (Fragment.arrowsOf done.1) done.2 := by
  apply walk_induction
  case deep =>
    rintro message _ trail hdeep rfl l
    rw [visit_of_deep hdeep]
    have hcomposes := h.composes trail
    exact hcomposes.append (hcomposes.append (h.record rfl) (h.record rfl)) (h.record rfl)
  case handled =>
    rintro message _ trail hlt ih rfl l
    rw [visit_of_lt hlt]
    refine (h.composes trail).before ((h.composes trail).append (h.record rfl)
      (h.visitEach_of_forall (fun handler hmem => ?_) _)) (h.record rfl)
    exact h.followUp_of_forall fun m hfree hm s hs => ih handler hmem m hfree hm s hs rfl
  case publishes =>
    intro handler trail call hpub ih hsender l
    rw [walk_of_publishes hpub]
    cases hmessage : c.messageOf p call.invocation with
    | none => exact h.record rfl
    | some message =>
      exact (h.composes trail).append (h.record rfl) (ih message hmessage hsender.symm _)
  case unresolved =>
    intro handler trail call hpub hnone _ l
    rw [walk_of_resolve_eq_none hpub hnone]
    exact (h.composes trail).consulted (fun _ _ => h.record rfl) l call
  case inlining =>
    intro handler trail call m hm hmem _ l
    rw [walk_of_mem hm hmem]
    exact (h.composes trail).consulted (fun _ _ => h.record rfl) l call
  case inlines =>
    intro handler trail call m hm hfree ih hsender l
    rw [walk_of_notMem hm hfree]
    have hinner := (h.composes (trail.enterInlined m)).walkAll_of_forall
      (fun s hs => ih s hs hsender)
    exact (h.composes trail).append ((h.composes trail).consulted (fun _ _ => h.record rfl) l call)
      (h.leaveInlined ((h.composes _).append (h.record rfl) (hinner _)))
  case conditional =>
    intro handler trail arms ih hsender l
    rw [walk]
    exact (h.composes trail).group_of_forall _ (fun part hpart s hs => ih part hpart s hs hsender) l
  case switch =>
    intro handler trail subject arms ih hsender l
    rw [walk]
    exact (h.composes trail).group_of_forall _ (fun part hpart s hs => ih part hpart s hs hsender) l
  case forEach =>
    intro handler trail items body ih hsender l
    rw [walk]
    exact (h.composes trail).group_of_forall _ (fun part hpart s hs => ih part hpart s hs hsender) l
  case block =>
    intro handler trail body _ l
    rw [walk]
    exact (h.composes trail).nil l

theorem visit (h : RunInvariant c p sender pinned Q) (message : c.Ref) (l : Ledger c) :
    Q {} l (Fragment.arrowsOf (Ripple.visit c p message sender pinned {} l).1)
      (Ripple.visit c p message sender pinned {} l).2 :=
  h.holds.1 message sender {} rfl l

end RunInvariant

end Ripple
