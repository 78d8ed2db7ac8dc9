import Ripple.Flow.Walk
import Ripple.Proofs.Call.Landing

/-!
# Induction over walks

A walk is made of visits and statements. `walk_induction` proves a property of both at once: it
passes from the bodies of the handlers to a visit, and from what a statement stands for to the
statement. The properties mention neither the ledger nor the pinned service; where a fact
depends on these, the property quantifies over them.

The equations before it say what each call does, one for each way it can go.
-/

namespace Ripple

open Statement

namespace Codebase

variable (c : Codebase) (p : Profile)

/-- The visit of a message to a handler. -/
def visitOf (handler message : c.Ref) : Visit := ⟨c.fullName handler, c.fullName message⟩

/-- The arrow that takes a message from its sender to a handler. -/
def arrowTo (sender : Option String) (message handler : c.Ref) : Arrow where
  source := sender.getD p.externalActor
  target := p.participant (p.serviceOf (c.decl handler))
  label := (c.decl message).name
  color := p.colorOf (p.kindOf (c.decl message))

/-- The message that a publishing call sends, if it is a type of the codebase. -/
def messageOf (call : Invocation) : Option c.Ref := (p.publishedName call).bind c.find?

end Codebase

variable {c : Codebase} {p : Profile}

/-! ## What each call does -/

section equations

variable {handler message : c.Ref} {sender pinned : Option String} {trail : Trail c}
  {l : Ledger c}

theorem visit_of_deep (h : p.maxDepth ≤ trail.visits.length) :
    visit c p message sender pinned trail l =
      ([], ((l.record trail (.arrived message)).record trail (.tooDeep message)).record trail
        (.left message)) := by
  rw [visit, if_pos h]

theorem visit_of_lt (h : trail.visits.length < p.maxDepth) :
    visit c p message sender pinned trail l =
      let done := visitEach c p (c.handlers p (c.decl message)) message sender pinned trail
        (l.record trail (.arrived message))
      (done.1, done.2.record trail (.left message)) := by
  rw [visit, if_neg (Nat.not_le.2 h)]

/-- What follows the arrow to a handler: the walk of the handling method, unless that visit is
going on or there is no such method. -/
def followUp (p : Profile) (handler message : c.Ref) (pinned : Option String) (trail : Trail c)
    (l : Ledger c) : List Fragment × Ledger c :=
  if c.visitOf handler message ∈ trail.visits then
    ([], l.record trail (.reentered (c.visitOf handler message)))
  else
    match c.handlingMethod p handler (c.decl message) with
    | none => ([], l)
    | some m =>
      walkAll c p handler (pinned.or (p.serviceOf (c.decl handler)))
        (trail.enter (c.visitOf handler message)) m.body
        (l.record (trail.enter (c.visitOf handler message))
          (.entered (c.visitOf handler message) m))

/-- The ledger once a handler's service is active and its arrow is drawn. -/
def Ledger.opened (l : Ledger c) (p : Profile) (handler message : c.Ref) (trail : Trail c) :
    Ledger c :=
  ((l.activate (p.serviceOf (c.decl handler))).join
    (p.participant (p.serviceOf (c.decl handler)))).record trail
      (.opened (c.visitOf handler message) (p.serviceOf (c.decl handler)))

/-- The ledger once a handler is done with a message. -/
def Ledger.closed (l : Ledger c) (p : Profile) (handler message : c.Ref)
    (pinned : Option String) (trail : Trail c) : Ledger c :=
  (l.record trail (.closed (c.visitOf handler message) (p.serviceOf (c.decl handler)))).deactivate
    (p.serviceOf (c.decl handler)) pinned

theorem visitEach_nil : visitEach c p [] message sender pinned trail l = ([], l) := by
  rw [visitEach]

theorem visitEach_cons {rest : List c.Ref} :
    visitEach c p (handler :: rest) message sender pinned trail l =
      let inner := followUp p handler message pinned trail (l.opened p handler message trail)
      let others := visitEach c p rest message sender pinned trail
        (inner.2.closed p handler message pinned trail)
      (.arrow (c.arrowTo p sender message handler) :: inner.1 ++ others.1, others.2) := by
  rw [visitEach]
  rfl

theorem walk_of_publishes {call : Call c} (h : p.publishes call.invocation = true) :
    walk c p handler pinned trail (.call call) l =
      match c.messageOf p call.invocation with
      | none => ([], l.record trail (.published handler call.invocation))
      | some message =>
        visit c p message (p.serviceOf (c.decl handler)) pinned trail
          (l.record trail (.published handler call.invocation)) := by
  rw [walk, if_pos h]
  rfl

section plain

variable {call : Call c} {m : c.MethodRef}

/-- The ledger once the ambiguities met in inlining a call are on record. -/
def Ledger.consulted (l : Ledger c) (p : Profile) (trail : Trail c) (call : Call c) : Ledger c :=
  l.recordAll trail ((c.ambiguities p call).map .ambiguous)

theorem walk_of_resolve_eq_none (hpub : p.publishes call.invocation = false)
    (h : c.resolve call.invocation = none) :
    walk c p handler pinned trail (.call call) l = ([], l.consulted p trail call) := by
  rw [walk, if_neg (by simp [hpub]), Codebase.inline?, h]
  rfl

theorem walk_of_mem (hm : c.LandsOn p call.invocation m) (h : m ∈ trail.inlined) :
    walk c p handler pinned trail (.call call) l = ([], l.consulted p trail call) := by
  rw [walk, if_neg (by simp [hm.1]), Codebase.inline?, hm.2]
  exact dif_pos h

theorem walk_of_notMem (hm : c.LandsOn p call.invocation m) (h : m ∉ trail.inlined) :
    walk c p handler pinned trail (.call call) l =
      walkAll c p handler pinned (trail.enterInlined m) (c.inlinedBody p call m)
        ((l.consulted p trail call).record (trail.enterInlined m) (.inlined m)) := by
  rw [walk, if_neg (by simp [hm.1]), Codebase.inline?, hm.2]
  exact dif_neg h

end plain

end equations

/-! ## Induction -/

/-- A property of visits and statements holds of all of them if it passes to each from the
statements that are walked for it. -/
theorem walk_induction {V : c.Ref → Option String → Trail c → Prop}
    {S : c.Ref → Trail c → Statement (Call c) → Prop}
    (deep : ∀ message sender trail, p.maxDepth ≤ trail.visits.length → V message sender trail)
    (handled : ∀ message sender trail, trail.visits.length < p.maxDepth →
      (∀ handler ∈ c.handlers p (c.decl message), ∀ m,
        c.visitOf handler message ∉ trail.visits →
        c.handlingMethod p handler (c.decl message) = some m →
        ∀ s ∈ m.body, S handler (trail.enter (c.visitOf handler message)) s) →
      V message sender trail)
    (publishes : ∀ handler trail call, p.publishes call.invocation = true →
      (∀ message, c.messageOf p call.invocation = some message →
        V message (p.serviceOf (c.decl handler)) trail) →
      S handler trail (.call call))
    (unresolved : ∀ handler trail call, p.publishes call.invocation = false →
      c.resolve call.invocation = none → S handler trail (.call call))
    (inlining : ∀ handler trail call m, c.LandsOn p call.invocation m → m ∈ trail.inlined →
      S handler trail (.call call))
    (inlines : ∀ handler trail call m, c.LandsOn p call.invocation m → m ∉ trail.inlined →
      (∀ s ∈ c.inlinedBody p call m, S handler (trail.enterInlined m) s) →
      S handler trail (.call call))
    (conditional : ∀ handler trail arms,
      (∀ part ∈ labelArms arms, ∀ s ∈ part.2, S handler trail s) →
      S handler trail (.conditional arms))
    (switch : ∀ handler trail subject arms,
      (∀ part ∈ labelCases arms, ∀ s ∈ part.2, S handler trail s) →
      S handler trail (.switch subject arms))
    (forEach : ∀ handler trail items body,
      (∀ part ∈ [(items, body)], ∀ s ∈ part.2, S handler trail s) →
      S handler trail (.forEach items body))
    (block : ∀ handler trail body, S handler trail (.block body)) :
    (∀ message sender trail, V message sender trail) ∧
      ∀ handler trail s, S handler trail s := by
  -- one goal for each way that each of the five functions can go, in their order
  have h := visit.mutual_induct c p (fun message sender _ trail _ => V message sender trail)
    (fun handlers message _ _ trail _ => ∀ handler ∈ handlers, ∀ m,
      c.visitOf handler message ∉ trail.visits →
      c.handlingMethod p handler (c.decl message) = some m →
      ∀ s ∈ m.body, S handler (trail.enter (c.visitOf handler message)) s)
    (fun handler _ trail body _ => ∀ s ∈ body, S handler trail s)
    (fun handler _ trail s _ => S handler trail s)
    (fun handler _ trail sections _ => ∀ part ∈ sections, ∀ s ∈ part.2, S handler trail s)
    ?_ ?_ ?_ ?_ ?_ ?_ ?_ ?_ ?_ ?_ ?_ ?_ ?_ ?_ ?_ ?_ ?_
  · exact ⟨fun message sender trail => h.1 message sender none trail {},
      fun handler trail s => h.2.2.2.1 handler none trail s {}⟩
  · intro message sender _ trail _ hdeep
    exact deep message sender trail hdeep
  · intro message sender _ trail _ _ hlt ih
    exact handled message sender trail (Nat.not_le.1 hlt) ih
  · intro _ _ _ _ _ handler hmem
    cases hmem
  · intro message _ _ trail _ handler rest _ _ _ _ _ _ hbody _ _ hrest
    exact List.forall_mem_cons.2 ⟨fun m hfree _ => hbody hfree m, hrest⟩
  · intro _ _ _ _ s hmem
    cases hmem
  · intro _ _ _ _ s rest _ hs hrest
    exact List.forall_mem_cons.2 ⟨hs, hrest⟩
  · intro handler _ trail _ call hpub hnone
    refine publishes handler trail call hpub fun message hmessage => ?_
    rw [Codebase.messageOf, hnone] at hmessage
    cases hmessage
  · intro handler _ trail _ call hpub _ message hsome hvisit
    refine publishes handler trail call hpub fun message' hmessage => ?_
    rw [Codebase.messageOf, hsome] at hmessage
    cases hmessage
    exact hvisit
  · intro handler _ trail _ call hpub hnone
    have hres : c.resolve call.invocation = none := by simpa [Codebase.inline?] using hnone
    exact unresolved handler trail call (by simpa using hpub) hres
  · intro handler _ trail _ call hpub i hsome hmem
    obtain ⟨m, hm, rfl⟩ := Option.map_eq_some_iff.1 hsome
    exact inlining handler trail call m ⟨by simpa using hpub, hm⟩ hmem
  · intro handler _ trail _ call hpub _ i hsome hfree hbody
    obtain ⟨m, hm, rfl⟩ := Option.map_eq_some_iff.1 hsome
    exact inlines handler trail call m ⟨by simpa using hpub, hm⟩ hfree hbody
  · intro handler _ trail _ arms hparts
    exact conditional handler trail arms hparts
  · intro handler _ trail _ subject arms hparts
    exact switch handler trail subject arms hparts
  · intro handler _ trail _ items body hparts
    exact forEach handler trail items body hparts
  · intro handler _ trail _ body
    exact block handler trail body
  · intro _ _ _ _ part hmem
    cases hmem
  · intro _ _ _ _ _ _ rest _ hbody hrest
    exact List.forall_mem_cons.2 ⟨hbody, hrest⟩

end Ripple
