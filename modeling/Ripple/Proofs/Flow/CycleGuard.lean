import Ripple.Proofs.Flow.DepthLimit
import Ripple.Proofs.Flow.Grouping
import Ripple.Proofs.Flow.InPlace

/-!
# The guard against cycles

A trail on which nothing is entered twice, and no more visits go on than may nest, stays like that:
every way into a body looks first. The journal has the trail of every moment, since a trail that
changes on the way into a body is entered there at once, and on the way out it is what it was.

Where the guard holds a handler back, all that shows of it is the arrow to it.
-/

namespace Ripple

open Relation Statement

variable {c : Codebase} {p : Profile}

/-! ## What holds of a trail at every moment -/

/-- Whether the visits of a trail are visits there are, each going on once and no more than may
nest, and its inlined methods are methods of the codebase, each being inlined once. -/
structure Trail.Sound (p : Profile) (trail : Trail c) : Prop where
  visits : trail.Possible p
  length_le : trail.visits.length ≤ p.maxDepth
  inlined : trail.inlined.Nodup
  methods : trail.inlined ⊆ c.methodRefs

namespace Trail.Sound

variable {trail : Trail c}

theorem empty : ({} : Trail c).Sound p :=
  ⟨⟨List.nodup_nil, List.nil_subset _⟩, Nat.zero_le _, List.nodup_nil, List.nil_subset _⟩

theorem enter (h : trail.Sound p) {handler message : c.Ref}
    (hmem : handler ∈ c.handlers p (c.decl message))
    (hfree : c.visitOf handler message ∉ trail.visits) (hlt : trail.visits.length < p.maxDepth) :
    (trail.enter (c.visitOf handler message)).Sound p :=
  ⟨h.visits.enter hmem hfree, hlt, List.nodup_nil, List.nil_subset _⟩

theorem enterInlined (h : trail.Sound p) {m : c.MethodRef} (hfree : m ∉ trail.inlined) :
    (trail.enterInlined m).Sound p :=
  ⟨⟨h.visits.distinct, h.visits.handled⟩, h.length_le, List.nodup_cons.2 ⟨hfree, h.inlined⟩,
    List.cons_subset.2 ⟨Codebase.mem_methodRefs m, h.methods⟩⟩

end Trail.Sound

/-- Every statement that a message on a sound trail leads to is walked on one. -/
theorem Walked.sound {message handler : c.Ref} {trail below : Trail c} {s : Statement (Call c)}
    (h : Walked c p message trail handler below s) (htrail : trail.Sound p) : below.Sound p := by
  induction h with
  | entered hlt hhandler hfree _ _ => exact htrail.enter hhandler hfree hlt
  | inlined _ _ hfree _ ih => exact (ih htrail).enterInlined hfree
  | inside _ _ _ _ ih => exact ih htrail
  | sent _ _ _ _ ihCall ih => exact ih (ihCall htrail)

/-- Whether the trail was sound at every entry in the journal. -/
def Ledger.Guarded (p : Profile) (l : Ledger c) : Prop := ∀ e ∈ l.journal, e.trail.Sound p

namespace Ledger.Guarded

variable {l : Ledger c} {trail : Trail c}

theorem record (h : l.Guarded p) (htrail : trail.Sound p) (event : Event c) :
    (l.record trail event).Guarded p :=
  List.forall_mem_cons.2 ⟨htrail, h⟩

theorem opened (h : l.Guarded p) (htrail : trail.Sound p) (handler message : c.Ref) :
    (l.opened p handler message trail).Guarded p := by
  refine record (fun e he => h e ?_) htrail _
  rwa [journal_join, journal_activate] at he

theorem closed (h : l.Guarded p) (htrail : trail.Sound p) (handler message : c.Ref)
    (pinned : Option String) : (l.closed p handler message pinned trail).Guarded p := by
  intro e he
  rw [Ledger.closed, journal_deactivate] at he
  exact h.record htrail _ e he

end Ledger.Guarded

/-- Every step on a sound trail happens on one. -/
theorem guardedInvariant : WalkInvariant c p fun trail _ l _ l' =>
    trail.Sound p → l.Guarded p → l'.Guarded p where
  nil _ _ _ _ hl := hl
  append hfirst hrest htrail hl := hrest htrail (hfirst htrail hl)
  record _ htrail hl := hl.record htrail _
  leave hmem hfree hlt hbody htrail := hbody (htrail.enter hmem hfree hlt)
  leaveInlined hfree hbody htrail := hbody (htrail.enterInlined hfree)
  handle _ _ hinner htrail hl := (hinner htrail (hl.opened htrail _ _)).closed htrail _ _ _

theorem guarded_visit (message : c.Ref) (sender pinned : Option String) {l : Ledger c}
    (h : l.Guarded p) : (visit c p message sender pinned {} l).2.Guarded p :=
  guardedInvariant.visit message sender pinned {} l Trail.Sound.empty h

/-- Runs in place one after another begin and end with nothing going on. -/
theorem guarded_of_visited {b : Book c} (h : ReflTransGen (Visited c p) {} b) :
    b.trail = {} ∧ b.ledger.Guarded p := by
  refine ⟨trail_eq_of_visited h, ?_⟩
  induction h with
  | refl => exact fun _ he => nomatch he
  | tail hbefore hlast ih =>
    obtain ⟨message, sender, pinned, participants, shown, hlast⟩ := hlast
    obtain ⟨-, rfl⟩ := visits_iff.1 hlast
    rw [Book.handed, trail_eq_of_visited hbefore]
    exact guarded_visit message sender pinned ih

/-! ## A handler that is held back -/

section reentered

variable {handler message : c.Ref} {sender pinned : Option String} {trail : Trail c} {l : Ledger c}

/-- Handlers behind others are visited with the ledger that these leave behind. -/
theorem visitEach_append (first rest : List c.Ref) :
    visitEach c p (first ++ rest) message sender pinned trail l =
      let done := visitEach c p first message sender pinned trail l
      let others := visitEach c p rest message sender pinned trail done.2
      (done.1 ++ others.1, others.2) := by
  induction first generalizing l with
  | nil => rw [List.nil_append, visitEach_nil]; rfl
  | cons handler first ih =>
    simp only [List.cons_append, visitEach_cons, ih, List.append_assoc]

/-- The ledger once a handler was held back. -/
def Ledger.heldBack (l : Ledger c) (p : Profile) (handler message : c.Ref) (pinned : Option String)
    (trail : Trail c) : Ledger c :=
  ((l.opened p handler message trail).record trail
    (.reentered (c.visitOf handler message))).closed p handler message pinned trail

theorem visitEach_cons_of_mem (h : c.visitOf handler message ∈ trail.visits) (rest : List c.Ref) :
    visitEach c p (handler :: rest) message sender pinned trail l =
      let others := visitEach c p rest message sender pinned trail
        (l.heldBack p handler message pinned trail)
      (.arrow (c.arrowTo p sender message handler) :: others.1, others.2) := by
  rw [visitEach_cons, followUp, if_pos h]
  rfl

theorem participants_heldBack (sender : Option String) :
    (l.heldBack p handler message pinned trail).participants =
      if (c.arrowTo p sender message handler).target ∈ l.participants then l.participants
      else l.participants ++ [(c.arrowTo p sender message handler).target] := by
  rw [Ledger.heldBack, Ledger.participants_closed]
  exact (Ledger.participants_opened l p handler message trail).trans joined_singleton

end reentered

/-- At every entry in the journal of a run that starts afresh, alone or after others, and at every
statement it gets to, the visits going on are pairwise distinct and no more than may nest, and the
methods being inlined are pairwise distinct methods of the codebase. Where a visit below that limit
gets to a handler whose visit is going on, the handler gives the arrow to it and no other fragment,
and no participant but its target. -/
theorem trail_guards_against_cycles (c : Codebase) (p : Profile) :
    (∀ message sender pinned participants,
      ∀ e ∈ (visit c p message sender pinned {} { participants }).2.journal, e.trail.Sound p) ∧
    (∀ b, ReflTransGen (Visited c p) {} b →
      b.trail = {} ∧ ∀ e ∈ b.ledger.journal, e.trail.Sound p) ∧
    (∀ message handler below s, Walked c p message {} handler below s → below.Sound p) ∧
    ∀ message sender pinned (trail : Trail c) l before handler after,
      trail.visits.length < p.maxDepth →
      c.handlers p (c.decl message) = before ++ handler :: after →
      c.visitOf handler message ∈ trail.visits →
      let first := visitEach c p before message sender pinned trail
        (l.record trail (.arrived message))
      let arrow := c.arrowTo p sender message handler
      ∃ l' : Ledger c,
        l'.participants = (if arrow.target ∈ first.2.participants then first.2.participants
          else first.2.participants ++ [arrow.target]) ∧
        let others := visitEach c p after message sender pinned trail l'
        visit c p message sender pinned trail l =
          (first.1 ++ .arrow arrow :: others.1, others.2.record trail (.left message)) := by
  refine ⟨fun message sender pinned participants => ?_, fun b hb => guarded_of_visited hb,
    fun _ _ _ _ hwalked => hwalked.sound Trail.Sound.empty, ?_⟩
  · exact guarded_visit message sender pinned fun _ he => nomatch he
  · intro message sender pinned trail l before handler after hlt hhandlers hmem first arrow
    refine ⟨first.2.heldBack p handler message pinned trail, participants_heldBack sender, ?_⟩
    simp only [visit_of_lt hlt, hhandlers, visitEach_append, visitEach_cons_of_mem hmem]
    rfl

namespace Relay

/-- The trail while the desk handles an order. -/
def handlingOrder : Trail shop := Trail.enter {} (shop.visitOf desk placed)

/-- While the desk handles an order, another one gets no further than to the desk. -/
theorem shop_holds_back : handlingOrder.visits.length < Profile.sample.maxDepth ∧
    shop.handlers .sample (shop.decl placed) = [] ++ desk :: [] ∧
    shop.visitOf desk placed ∈ handlingOrder.visits ∧
    (visit shop .sample placed none none handlingOrder {}).1 =
      [.arrow (shop.arrowTo .sample none placed desk)] := by
  have hlt : handlingOrder.visits.length < Profile.sample.maxDepth := by decide
  have hhandlers : shop.handlers .sample (shop.decl placed) = [] ++ desk :: [] := by decide
  have hmem : shop.visitOf desk placed ∈ handlingOrder.visits := List.mem_cons_self
  obtain ⟨-, -, -, hheld⟩ := trail_guards_against_cycles shop .sample
  obtain ⟨l', -, hvisit⟩ := hheld placed none none handlingOrder {} [] desk [] hlt hhandlers hmem
  refine ⟨hlt, hhandlers, hmem, ?_⟩
  rw [hvisit, visitEach_nil, visitEach_nil]
  rfl

end Relay

end Ripple
