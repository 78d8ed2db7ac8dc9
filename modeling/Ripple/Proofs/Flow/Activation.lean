import Ripple.Flow.Extraction
import Ripple.Proofs.Flow.Entries
import Ripple.Proofs.Flow.Participants

/-!
# Active services

A handler's service is activated unless it is active already, and deactivated if it is the
innermost then and not the service the flow branched off at. A visit may thus deactivate what
it did not activate, but only from the inner end: where the flow branched off at an active
service or at none, those active after a visit are the outer ones of those active before, that
service among them.

On the way no service is active twice, and all that are active have become participants.
-/

namespace Ripple

variable {c : Codebase} {p : Profile}

/-! ## What is left of the active services -/

/-- Whether services active afterwards are the outer ones of those active before, a pinned one
among them. -/
structure Unwound (pinned : Option String) (before after : List String) : Prop where
  outer : after <+: before
  pinned : ∀ service ∈ pinned, service ∈ after

theorem Unwound.rfl {pinned : Option String} {active : List String}
    (h : ∀ service ∈ pinned, service ∈ active) : Unwound pinned active active :=
  ⟨List.prefix_rfl, h⟩

theorem Unwound.trans {pinned : Option String} {before between after : List String}
    (h : Unwound pinned before between) (h' : Unwound pinned between after) :
    Unwound pinned before after :=
  ⟨h'.outer.trans h.outer, h'.pinned⟩

namespace Ledger

variable {l l' : Ledger c} {service pinned : Option String}

theorem active_join (participant : String) : (l.join participant).active = l.active := by
  unfold join
  split <;> rfl

theorem active_activate_some (name : String) :
    (l.activate (some name)).active = joined l.active [name] := by
  rw [joined_singleton, activate]
  simp only [List.contains_iff_mem]
  split <;> rfl

theorem mem_active_activate {name : String} :
    name ∈ (l.activate service).active ↔ name ∈ l.active ∨ name ∈ service := by
  cases service with
  | none => simp [activate]
  | some other => simp [active_activate_some, eq_comm]

theorem active_opened (handler message : c.Ref) (trail : Trail c) :
    (l.opened p handler message trail).active =
      (l.activate (p.serviceOf (c.decl handler))).active :=
  active_join _

theorem prefix_active_deactivate : (l.deactivate service pinned).active <+: l.active := by
  unfold deactivate
  split
  · exact List.dropLast_prefix _
  · exact List.prefix_rfl

/-- Deactivating keeps a pinned service. -/
theorem unwound_deactivate (h : ∀ name ∈ pinned, name ∈ l.active) :
    Unwound pinned l.active (l.deactivate service pinned).active := by
  refine ⟨prefix_active_deactivate, fun name hname => ?_⟩
  unfold deactivate
  split
  next hlast =>
    simp only [Bool.and_eq_true, beq_iff_eq, bne_iff_ne] at hlast
    obtain ⟨⟨-, hlast⟩, hpinned⟩ := hlast
    refine List.mem_dropLast_of_mem_of_ne_getLast? (h name hname) ?_
    rw [hlast, ← Option.mem_def.1 hname]
    exact hpinned.symm
  · exact h name hname

/-- Deactivating a service that was just activated undoes that, unless it is pinned. -/
theorem active_deactivate_concat {name : String} {active : List String}
    (hactive : l.active = active ++ [name]) (hpinned : some name ≠ pinned) :
    (l.deactivate (some name) pinned).active = active := by
  unfold deactivate
  rw [if_pos (by simp [hactive, hpinned])]
  simp [hactive]

/-- What is pinned within a handler is active once the handler's service is activated. -/
theorem mem_active_activate_of_mem_or (h : ∀ name ∈ pinned, name ∈ l.active) :
    ∀ name ∈ pinned.or service, name ∈ (l.activate service).active := by
  intro name hname
  obtain hname | ⟨-, hname⟩ := Option.or_eq_some_iff.1 (Option.mem_def.1 hname)
  · exact mem_active_activate.2 (.inl (h name hname))
  · exact mem_active_activate.2 (.inr hname)

/-- If what follows the arrow to a handler unwinds down to what is pinned there, then with the
handler's service activated before and deactivated after it unwinds to what is pinned outside. -/
theorem unwound_of_activate (hpinned : ∀ name ∈ pinned, name ∈ l.active)
    (h : Unwound (pinned.or service) (l.activate service).active l'.active) :
    Unwound pinned l.active (l'.deactivate service pinned).active := by
  have hkept : ∀ name ∈ pinned, name ∈ l'.active := fun name hname =>
    h.pinned name (Option.or_eq_some_iff.2 (.inl hname))
  cases service with
  | none => exact .trans ⟨h.outer, hkept⟩ (unwound_deactivate hkept)
  | some name =>
    rw [active_activate_some, joined_singleton] at h
    split at h
    · exact .trans ⟨h.outer, hkept⟩ (unwound_deactivate hkept)
    next hnew =>
      obtain hall | houter := List.prefix_concat_iff.1 h.outer
      · -- the service is still the innermost, and it was not active before
        have hother : some name ≠ pinned := fun heq => hnew (hpinned name heq.symm)
        rw [active_deactivate_concat hall hother]
        exact .rfl hpinned
      · exact .trans ⟨houter, hkept⟩ (unwound_deactivate hkept)

end Ledger

/-- Every step unwinds. -/
theorem unwoundInvariant : WalkInvariant c p fun _ pinned l _ l' =>
    (∀ name ∈ pinned, name ∈ l.active) → Unwound pinned l.active l'.active where
  nil _ _ _ hpinned := .rfl hpinned
  append h h' hpinned := (h hpinned).trans (h' (h hpinned).pinned)
  record _ hpinned := .rfl hpinned
  leave _ _ _ h := h
  leaveInlined _ h := h
  handle {trail pinned l l' arrows sender message handler} _ _ h hpinned := by
    rw [Ledger.active_opened] at h
    exact Ledger.unwound_of_activate hpinned (h (Ledger.mem_active_activate_of_mem_or hpinned))

theorem unwound_visit (message : c.Ref) (sender : Option String) {pinned : Option String}
    (trail : Trail c) {l : Ledger c} (h : ∀ name ∈ pinned, name ∈ l.active) :
    Unwound pinned l.active (visit c p message sender pinned trail l).2.active :=
  unwoundInvariant.visit message sender pinned trail l h

/-! ## Active services and participants -/

/-- Whether participants are listed once each, services are active at most once each, and those
active are among the participants. -/
structure Attended (participants active : List String) : Prop where
  distinct : participants.Nodup
  once : active.Nodup
  present : active ⊆ participants

theorem Attended.length_le {participants active : List String} (h : Attended participants active) :
    active.length ≤ participants.length :=
  (h.once.subperm h.present).length_le

/-- Whether a ledger is in that state, and was at every entry in its journal. -/
structure Ledger.Orderly (l : Ledger c) : Prop where
  now : Attended l.participants l.active
  before : ∀ e ∈ l.journal, Attended e.participants e.active

namespace Ledger.Orderly

variable {l : Ledger c}

theorem record (h : l.Orderly) (trail : Trail c) (event : Event c) :
    (l.record trail event).Orderly :=
  ⟨h.now, List.forall_mem_cons.2 ⟨h.now, h.before⟩⟩

theorem opened (h : l.Orderly) (handler message : c.Ref) (trail : Trail c) :
    (l.opened p handler message trail).Orderly := by
  let service := p.serviceOf (c.decl handler)
  have honce : (l.activate service).active.Nodup := by
    cases service with
    | none => exact h.now.once
    | some name =>
      rw [active_activate_some]
      exact nodup_joined h.now.once [name]
  have hpresent : (l.activate service).active ⊆ joined l.participants [p.participant service] := by
    intro name hname
    obtain hname | hname := mem_active_activate.1 hname
    · exact mem_joined.2 (.inl (h.now.present hname))
    · refine mem_joined.2 (.inr (List.mem_singleton.2 ?_))
      rw [Option.mem_def.1 hname]
      rfl
  refine record ⟨?_, ?_⟩ trail _
  · rw [participants_join, participants_activate, active_join]
    exact ⟨nodup_joined h.now.distinct _, honce, hpresent⟩
  · rw [journal_join, journal_activate]
    exact h.before

theorem closed (h : l.Orderly) (handler message : c.Ref) (pinned : Option String)
    (trail : Trail c) : (l.closed p handler message pinned trail).Orderly := by
  have houter : (l.closed p handler message pinned trail).active <+: l.active :=
    prefix_active_deactivate
  refine ⟨⟨?_, h.now.once.sublist houter.sublist, fun name hname => ?_⟩, ?_⟩
  · rw [participants_closed]
    exact h.now.distinct
  · rw [participants_closed]
    exact h.now.present (houter.subset hname)
  · rw [Ledger.closed, journal_deactivate]
    exact (h.record trail _).before

end Ledger.Orderly

/-- Every step keeps a ledger orderly. -/
theorem orderlyInvariant : WalkInvariant c p fun _ _ l _ l' => l.Orderly → l'.Orderly where
  nil _ _ _ h := h
  append h h' hl := h' (h hl)
  record _ hl := hl.record _ _
  leave _ _ _ h := h
  leaveInlined _ h := h
  handle _ _ h hl := (h (hl.opened _ _ _)).closed _ _ _ _

/-- A run that begins with nothing on record is orderly throughout. -/
theorem orderly_visit (message : c.Ref) (sender pinned : Option String) (trail : Trail c) :
    (visit c p message sender pinned trail {}).2.Orderly :=
  orderlyInvariant.visit message sender pinned trail {}
    ⟨⟨List.nodup_nil, List.nodup_nil, List.nil_subset _⟩, by simp⟩

/-- Where the flow branched off at an active service or at none, a visit leaves active the outer
ones of the services that were, that service among them; so a run that begins with none ends
with none. In such a run without participants to begin with, at every entry in the journal, and
so whenever a visit begins or ends, each service is active at most once and has taken part. -/
theorem active_visit (c : Codebase) (p : Profile) :
    (∀ message sender pinned trail (l : Ledger c), (∀ name ∈ pinned, name ∈ l.active) →
      (visit c p message sender pinned trail l).2.active <+: l.active ∧
        ∀ name ∈ pinned, name ∈ (visit c p message sender pinned trail l).2.active) ∧
    (∀ message sender participants,
      (visit c p message sender none {} { participants }).2.active = []) ∧
    (∀ message sender, ∀ e ∈ (visit c p message sender none {} {}).2.journal,
      e.active.Nodup ∧ e.active ⊆ e.participants ∧ e.participants.Nodup ∧
        e.active.length ≤ e.participants.length) ∧
    ∀ message sender pinned trail (l : Ledger c), ∃ between,
      (visit c p message sender pinned trail l).2.journal =
        ⟨.left message, trail, (visit c p message sender pinned trail l).2.participants,
          (visit c p message sender pinned trail l).2.active⟩ ::
        (between ++ ⟨.arrived message, trail, l.participants, l.active⟩ :: l.journal) := by
  refine ⟨fun message sender pinned trail l hpinned => ?_, fun message sender participants => ?_,
    fun message sender e he => ?_, exists_journal_visit⟩
  · have h := unwound_visit (p := p) message sender trail hpinned
    exact ⟨h.outer, h.pinned⟩
  · have hnone : ∀ name ∈ (none : Option String), name ∈ ({ participants } : Ledger c).active := by
      simp
    exact List.prefix_nil.1 (unwound_visit message sender {} hnone).outer
  · have h := (orderly_visit message sender none {}).before e he
    exact ⟨h.once, h.present, h.distinct, h.length_le⟩

namespace Relay

/-- The desk is done, and the service at which the flow branched off stays active. In a run of
its own, the store is active at some moment, and has joined the participants by then. -/
theorem shop_unwinds : (∀ name ∈ some "Mall", name ∈ ["Mall", "Store"]) ∧
    (visit shop .sample placed none (some "Mall") {} { active := ["Mall", "Store"] }).2.active
      <+: ["Mall", "Store"] ∧
    "Mall" ∈
      (visit shop .sample placed none (some "Mall") {} { active := ["Mall", "Store"] }).2.active ∧
    ∃ e ∈ (visit shop .sample placed none none {} {}).2.journal, e.active = ["Store"] ∧
      e.active ⊆ e.participants := by
  have hpinned : ∀ name ∈ some "Mall", name ∈ ["Mall", "Store"] := by simp
  obtain ⟨hunwound, -, hthroughout, -⟩ := active_visit shop .sample
  obtain ⟨houter, hkept⟩ := hunwound placed none (some "Mall") {} { active := ["Mall", "Store"] }
    hpinned
  have hopen : (visit shop .sample placed none none {} {}).2.journal.any
      (·.active == ["Store"]) = true := by cbv
  obtain ⟨e, he, hactive⟩ := List.any_eq_true.1 hopen
  exact ⟨hpinned, houter, hkept "Mall" rfl, e, he, eq_of_beq hactive,
    (hthroughout placed none e he).2.1⟩

end Relay

end Ripple
