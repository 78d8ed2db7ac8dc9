import Ripple.Proofs.Flow.Invariant
import Ripple.Proofs.Flow.Published

/-!
# The journal of a visit

A walk adds entries to the journal and takes none away. Those of a visit begin with the message
arriving and end with it having left, each with the participants and the active services of
that moment, so that the journal of a run has the state at the beginning and at the end of
every visit in it.
-/

namespace Ripple

variable {c : Codebase} {p : Profile}

namespace Ledger

variable (l : Ledger c) (p : Profile) (handler message : c.Ref) (trail : Trail c)

theorem journal_opened_eq :
    (l.opened p handler message trail).journal =
      ⟨.opened (c.visitOf handler message) (p.serviceOf (c.decl handler)), trail,
        (l.opened p handler message trail).participants,
        (l.opened p handler message trail).active⟩ :: l.journal := by
  rw [opened, record, journal_join, journal_activate]

theorem journal_closed_eq (pinned : Option String) :
    (l.closed p handler message pinned trail).journal =
      ⟨.closed (c.visitOf handler message) (p.serviceOf (c.decl handler)), trail,
        l.participants, l.active⟩ :: l.journal :=
  journal_deactivate _ _

theorem journal_opened : l.journal <:+ (l.opened p handler message trail).journal := by
  rw [journal_opened_eq]
  exact List.suffix_cons _ _

theorem journal_closed (pinned : Option String) :
    l.journal <:+ (l.closed p handler message pinned trail).journal := by
  rw [journal_closed_eq]
  exact List.suffix_cons _ _

end Ledger

/-- Every step keeps the entries there are. -/
theorem journalInvariant : WalkInvariant c p fun _ _ l _ l' => l.journal <:+ l'.journal where
  nil _ _ _ := List.suffix_rfl
  append h h' := h.trans h'
  record _ := List.suffix_cons _ _
  leave _ _ _ h := h
  leaveInlined _ h := h
  handle _ _ h := (Ledger.journal_opened ..).trans (h.trans (Ledger.journal_closed ..))

section kept

variable {handler message : c.Ref} {pinned : Option String} {trail : Trail c} {l : Ledger c}

theorem journal_visitEach {handlers : List c.Ref}
    (hmem : ∀ handler ∈ handlers, handler ∈ c.handlers p (c.decl message))
    (hlt : trail.visits.length < p.maxDepth) (sender pinned : Option String) (l : Ledger c) :
    l.journal <:+ (visitEach c p handlers message sender pinned trail l).2.journal :=
  journalInvariant.visitEach hlt hmem sender pinned l

theorem journal_walkAll {body : List (Statement (Call c))} :
    l.journal <:+ (walkAll c p handler pinned trail body l).2.journal :=
  journalInvariant.walkAll handler pinned trail body l

theorem journal_walkSections {sections : List (String × List (Statement (Call c)))} :
    l.journal <:+ (walkSections c p handler pinned trail sections l).2.journal :=
  journalInvariant.group handler pinned trail .case sections l

end kept

/-- The entries of a visit begin with its message arriving and end with it having left. -/
theorem exists_journal_visit (message : c.Ref) (sender pinned : Option String) (trail : Trail c)
    (l : Ledger c) :
    ∃ between, (visit c p message sender pinned trail l).2.journal =
      ⟨.left message, trail, (visit c p message sender pinned trail l).2.participants,
        (visit c p message sender pinned trail l).2.active⟩ ::
      (between ++ ⟨.arrived message, trail, l.participants, l.active⟩ :: l.journal) := by
  by_cases hlt : trail.visits.length < p.maxDepth
  · have hall : ∀ handler ∈ c.handlers p (c.decl message),
        handler ∈ c.handlers p (c.decl message) := fun _ hmem => hmem
    obtain ⟨between, hbetween⟩ := journal_visitEach hall hlt sender pinned
      (l.record trail (.arrived message))
    refine ⟨between, ?_⟩
    rw [visit_of_lt hlt]
    exact congrArg (List.cons _) hbetween.symm
  · rw [visit_of_deep (Nat.not_lt.1 hlt)]
    exact ⟨[_], rfl⟩

end Ripple
