import Ripple.Proofs.Flow.Distilled
import Ripple.Proofs.Flow.Induction

/-!
# What a visit publishes

`publishedIn` reads from a ledger which publishing calls were met in one visit, that is for one
handler while certain visits were going on. Visits nested in it leave that part of the ledger
alone, so that walking a body adds what is left of the body when it is distilled. This is
every publishing call that the body or a method down some chain of calls makes, and no other:
recursion loses none.
-/

namespace Ripple

open Statement

variable {c : Codebase}

/-- The publishing calls on record for a handler while exactly `visits` were going on, latest
first. -/
def Ledger.publishedIn (l : Ledger c) (visits : List Visit) (handler : c.Ref) :
    List Invocation :=
  l.journal.filterMap fun entry =>
    match entry.event with
    | .published publisher sent =>
      if entry.trail.visits = visits ∧ publisher = handler then some sent else none
    | _ => none

/-- What publishing calls add in the visit of `handler` on `trail` to what is on record for
another handler and other visits: all of them if these are the same, else nothing. -/
def share (handler : c.Ref) (trail : Trail c) (visits : List Visit) (other : c.Ref)
    (calls : List Invocation) : List Invocation :=
  if trail.visits = visits ∧ handler = other then calls.reverse else []

section share

variable {handler other : c.Ref} {trail : Trail c} {visits : List Visit}

@[simp] theorem share_nil : share handler trail visits other [] = [] := by
  simp [share]

theorem share_append (xs ys : List Invocation) :
    share handler trail visits other (xs ++ ys) =
      share handler trail visits other ys ++ share handler trail visits other xs := by
  unfold share
  split
  · rw [List.reverse_append]
  · rfl

/-- A deeper visit has no share in what is on record further out. -/
theorem share_of_length_lt {calls : List Invocation} (h : visits.length < trail.visits.length) :
    share handler trail visits other calls = [] := by
  rw [share, if_neg]
  rintro ⟨hvisits, -⟩
  rw [hvisits] at h
  exact Nat.lt_irrefl _ h

theorem share_self {calls : List Invocation} :
    share handler trail trail.visits handler calls = calls.reverse := by
  rw [share, if_pos ⟨rfl, rfl⟩]

end share

namespace Ledger

variable {l : Ledger c} {trail : Trail c} {visits : List Visit} {handler other : c.Ref}

theorem publishedIn_record (event : Event c)
    (h : ∀ publisher sent, event ≠ .published publisher sent) :
    (l.record trail event).publishedIn visits other = l.publishedIn visits other := by
  cases event with
  | published publisher sent => exact absurd rfl (h publisher sent)
  | _ => rfl

theorem publishedIn_published (call : Invocation) :
    (l.record trail (.published handler call)).publishedIn visits other =
      share handler trail visits other [call] ++ l.publishedIn visits other := by
  unfold publishedIn share record
  rw [List.filterMap_cons]
  by_cases h : trail.visits = visits ∧ handler = other <;> simp [h]

theorem publishedIn_consulted (p : Profile) (call : Call c) :
    (l.consulted p trail call).publishedIn visits other = l.publishedIn visits other := by
  unfold consulted recordAll
  generalize c.ambiguities p call = found
  induction found generalizing l with
  | nil => rfl
  | cons a rest ih =>
    rw [List.map_cons, List.foldl_cons, ih, publishedIn_record _ (by simp)]

theorem publishedIn_congr {l' : Ledger c} (h : l'.journal = l.journal) :
    l'.publishedIn visits other = l.publishedIn visits other := by
  rw [publishedIn, h, publishedIn]

theorem journal_activate (service : Option String) : (l.activate service).journal = l.journal := by
  unfold activate
  split
  · split <;> rfl
  · rfl

theorem journal_join (participant : String) : (l.join participant).journal = l.journal := by
  unfold join
  split <;> rfl

theorem journal_deactivate (service pinned : Option String) :
    (l.deactivate service pinned).journal = l.journal := by
  unfold deactivate
  split <;> rfl

theorem publishedIn_opened (p : Profile) (message : c.Ref) :
    (l.opened p handler message trail).publishedIn visits other = l.publishedIn visits other := by
  rw [opened, publishedIn_record _ (by simp)]
  exact publishedIn_congr ((journal_join _).trans (journal_activate _))

theorem publishedIn_closed (p : Profile) (message : c.Ref) (pinned : Option String) :
    (l.closed p handler message pinned trail).publishedIn visits other =
      l.publishedIn visits other := by
  rw [closed, publishedIn_congr (journal_deactivate _ _), publishedIn_record _ (by simp)]

end Ledger

variable {p : Profile} {handler other : c.Ref} {pinned : Option String} {trail : Trail c}
  {visits : List Visit}

/-- A body publishes what its statements publish. -/
theorem publishedIn_walkAll_of_forall {body : List (Statement (Call c))}
    {sent : Call c → List Invocation}
    (h : ∀ s ∈ body, ∀ l, (walk c p handler pinned trail s l).2.publishedIn visits other =
      share handler trail visits other (s.exposed.flatMap sent) ++ l.publishedIn visits other)
    (l : Ledger c) :
    (walkAll c p handler pinned trail body l).2.publishedIn visits other =
      share handler trail visits other ((exposedOfBody body).flatMap sent) ++
        l.publishedIn visits other := by
  induction body generalizing l with
  | nil => rw [walkAll, exposedOfBody, List.flatMap_nil, share_nil, List.nil_append]
  | cons s rest ih =>
    obtain ⟨hs, hrest⟩ := List.forall_mem_cons.1 h
    rw [walkAll, ih hrest, hs, exposedOfBody, List.flatMap_append, share_append,
      List.append_assoc]

/-- Labelled bodies publish what their statements publish. -/
theorem publishedIn_walkSections_of_forall
    {sections : List (String × List (Statement (Call c)))} {sent : Call c → List Invocation}
    (h : ∀ part ∈ sections, ∀ s ∈ part.2, ∀ l,
      (walk c p handler pinned trail s l).2.publishedIn visits other =
        share handler trail visits other (s.exposed.flatMap sent) ++ l.publishedIn visits other)
    (l : Ledger c) :
    (walkSections c p handler pinned trail sections l).2.publishedIn visits other =
      share handler trail visits other
        ((sections.flatMap fun part => exposedOfBody part.2).flatMap sent) ++
          l.publishedIn visits other := by
  induction sections generalizing l with
  | nil => rw [walkSections, List.flatMap_nil, List.flatMap_nil, share_nil, List.nil_append]
  | cons part rest ih =>
    obtain ⟨label, body⟩ := part
    obtain ⟨hbody, hrest⟩ := List.forall_mem_cons.1 h
    rw [walkSections, ih hrest, publishedIn_walkAll_of_forall hbody, List.flatMap_cons,
      List.flatMap_append, share_append, List.append_assoc]

/-- Handlers leave alone what their walks leave alone. -/
theorem publishedIn_visitEach_of_forall {message : c.Ref} {sender : Option String}
    {handlers : List c.Ref}
    (h : ∀ handler ∈ handlers, ∀ l, (followUp p handler message pinned trail l).2.publishedIn
      visits other = l.publishedIn visits other) (l : Ledger c) :
    (visitEach c p handlers message sender pinned trail l).2.publishedIn visits other =
      l.publishedIn visits other := by
  induction handlers generalizing l with
  | nil => rw [visitEach_nil]
  | cons handler rest ih =>
    obtain ⟨hhandler, hrest⟩ := List.forall_mem_cons.1 h
    simp only [visitEach_cons]
    rw [ih hrest, Ledger.publishedIn_closed, hhandler, Ledger.publishedIn_opened]

/-- What is on record for a visit changes by what is distilled of the statements walked in it,
and not by what is visited from there. -/
theorem publishedIn_walk :
    (∀ (message : c.Ref) (sender : Option String) (trail : Trail c), ∀ pinned visits other l,
      visits.length ≤ trail.visits.length →
        (visit c p message sender pinned trail l).2.publishedIn visits other =
          l.publishedIn visits other) ∧
    ∀ (handler : c.Ref) (trail : Trail c) (s : Statement (Call c)), ∀ pinned visits other,
      visits.length ≤ trail.visits.length → ∀ l,
        (walk c p handler pinned trail s l).2.publishedIn visits other =
          share handler trail visits other
            (s.exposed.flatMap fun call => exposedOfBody (c.distill p trail.inlined call)) ++
          l.publishedIn visits other := by
  apply walk_induction
  case deep =>
    intro message sender trail hdeep pinned visits other l hlen
    rw [visit_of_deep hdeep]
    simp only [Ledger.publishedIn_record, ne_eq, reduceCtorEq, not_false_eq_true, implies_true]
  case handled =>
    intro message sender trail hlt ih pinned visits other l hlen
    simp only [visit_of_lt hlt]
    rw [Ledger.publishedIn_record _ (by simp), publishedIn_visitEach_of_forall,
      Ledger.publishedIn_record _ (by simp)]
    intro handler hmem l
    unfold followUp
    split
    · exact Ledger.publishedIn_record _ (by simp)
    next hfree =>
      cases hm : c.handlingMethod p handler (c.decl message) with
      | none => rfl
      | some m =>
        have hinner : visits.length < (trail.enter (c.visitOf handler message)).visits.length :=
          Nat.lt_succ_of_le hlen
        simp only
        rw [publishedIn_walkAll_of_forall fun s hs =>
            ih handler hmem m hfree hm s hs _ _ _ hinner.le,
          share_of_length_lt hinner, List.nil_append, Ledger.publishedIn_record _ (by simp)]
  case publishes =>
    intro handler trail call hpub ih pinned visits other hlen l
    have hself : (exposed (.call call)).flatMap
        (fun call => exposedOfBody (c.distill p trail.inlined call)) = [call.invocation] := by
      simp [exposed, Codebase.distill_of_publishes hpub, exposedOfBody]
    rw [walk_of_publishes hpub, hself, ← Ledger.publishedIn_published]
    cases hmessage : c.messageOf p call.invocation with
    | none => rfl
    | some message => exact ih message hmessage _ _ _ _ hlen
  case unresolved =>
    intro handler trail call hpub hnone pinned visits other hlen l
    rw [walk_of_resolve_eq_none hpub hnone, Ledger.publishedIn_consulted]
    simp [exposed, Codebase.distill_of_resolve_eq_none hpub hnone, exposedOfBody]
  case inlining =>
    intro handler trail call m hm hmem pinned visits other hlen l
    rw [walk_of_mem hm hmem, Ledger.publishedIn_consulted]
    simp [exposed, Codebase.distill_of_mem hm hmem, exposedOfBody]
  case inlines =>
    intro handler trail call m hm hfree ih pinned visits other hlen l
    rw [walk_of_notMem hm hfree,
      publishedIn_walkAll_of_forall fun s hs => ih s hs pinned visits other hlen,
      Ledger.publishedIn_record _ (by simp), Ledger.publishedIn_consulted, exposed,
      List.flatMap_singleton, Codebase.distill_of_notMem hm hfree, exposedOfBody_expandBody]
    rfl
  case conditional =>
    intro handler trail arms ih pinned visits other hlen l
    rw [walk, publishedIn_walkSections_of_forall fun part hpart s hs =>
        ih part hpart s hs pinned visits other hlen,
      exposed, exposedOfArms_eq_flatMap, labelArms, List.flatMap_map]
  case switch =>
    intro handler trail subject arms ih pinned visits other hlen l
    rw [walk, publishedIn_walkSections_of_forall fun part hpart s hs =>
        ih part hpart s hs pinned visits other hlen,
      exposed, exposedOfCases_eq_flatMap, labelCases, List.flatMap_map]
  case forEach =>
    intro handler trail items body ih pinned visits other hlen l
    rw [walk, publishedIn_walkSections_of_forall fun part hpart s hs =>
        ih part hpart s hs pinned visits other hlen,
      exposed, List.flatMap_singleton]
  case block =>
    intro handler trail body pinned visits other hlen l
    rw [walk, exposed, List.flatMap_nil, share_nil, List.nil_append]

/-- Walking the body of a method puts on record, for the handler it is walked for and the
visits going on, what is left of the body when it is distilled. -/
theorem publishedIn_walkAll_body (v : Visit) (m : c.MethodRef) (l : Ledger c) :
    (walkAll c p handler pinned (trail.enter v) m.body l).2.publishedIn (v :: trail.visits)
        handler =
      (exposedOfBody (c.distillBody p m)).reverse ++ l.publishedIn (v :: trail.visits) handler := by
  have hbody := publishedIn_walkAll_of_forall (p := p) (fun s (_ : s ∈ m.body) =>
    publishedIn_walk.2 handler (trail.enter v) s pinned _ handler le_rfl) l
  rw [share_self, ← exposedOfBody_expandBody] at hbody
  exact hbody

/-- Recursive calls lose no publishing call: walking the body of a method adds to the record of
its visit exactly the calls that the method, or one that calls lead to from it, publishes by. -/
theorem published_iff_sends (handler : c.Ref) (v : Visit) (m : c.MethodRef)
    (pinned : Option String) (trail : Trail c) (l : Ledger c) :
    ∃ calls, (walkAll c p handler pinned (trail.enter v) m.body l).2.publishedIn
        (v :: trail.visits) handler = calls ++ l.publishedIn (v :: trail.visits) handler ∧
      ∀ call, call ∈ calls ↔ c.Sends p m call := by
  refine ⟨_, publishedIn_walkAll_body v m l, fun call => ?_⟩
  rw [List.mem_reverse, Codebase.mem_distillBody_iff]

end Ripple
