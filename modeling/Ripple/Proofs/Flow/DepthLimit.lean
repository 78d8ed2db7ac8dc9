import Mathlib.Data.List.Dedup
import Mathlib.Data.List.Flatten
import Ripple.Proofs.Flow.Drawn
import Ripple.Proofs.Flow.Entries
import Ripple.Proofs.Flow.Participants

/-!
# The limit on nested messages

What a run shows under a limit is what it shows under a higher one with arrows left out: the
limit cuts off whole visits, and a group that loses arrows, or is lost with them, keeps the
order of those that stay. Each cut is entered in the journal, and a run without that entry does
just what it does under any higher limit. No run is cut once the limit exceeds the number of
visits to handlers there can be, since those going on are distinct.
-/

namespace Ripple

open Statement

/-- The same conventions with another limit on nested messages. -/
def Profile.withMaxDepth (p : Profile) (depth : Nat) : Profile := { p with maxDepth := depth }

variable {c : Codebase} {p : Profile}

/-! ## Arrows under two limits -/

namespace Codebase

theorem distill_withMaxDepth (depth : Nat) (inlined : List c.MethodRef) (call : Call c) :
    c.distill (p.withMaxDepth depth) inlined call = c.distill p inlined call := by
  induction inlined, call using distill.induct c p with
  | case1 inlined call hpub =>
    rw [distill_of_publishes hpub]
    exact distill_of_publishes hpub
  | case2 inlined call hpub hres =>
    have hplain : p.publishes call.invocation = false := by simpa using hpub
    rw [distill_of_resolve_eq_none hplain hres]
    exact distill_of_resolve_eq_none hplain hres
  | case3 inlined call hpub m hm hmem =>
    have hland : c.LandsOn p call.invocation m := ⟨by simpa using hpub, hm⟩
    rw [distill_of_mem hland hmem]
    exact distill_of_mem hland hmem
  | case4 inlined call hpub m hm hfree ih =>
    have hland : c.LandsOn p call.invocation m := ⟨by simpa using hpub, hm⟩
    have hland' : c.LandsOn (p.withMaxDepth depth) call.invocation m := hland
    rw [distill_of_notMem hland hfree, distill_of_notMem hland' hfree]
    exact expandBody_congr fun next _ => ih next

theorem script_withMaxDepth (depth : Nat) (handler message : c.Ref) :
    c.script (p.withMaxDepth depth) handler message = c.script p handler message := by
  have hmethod : c.handlingMethod (p.withMaxDepth depth) handler (c.decl message) =
      c.handlingMethod p handler (c.decl message) := rfl
  unfold script
  rw [hmethod]
  cases c.handlingMethod p handler (c.decl message) with
  | none => rfl
  | some m => exact expandBody_congr fun call _ => distill_withMaxDepth depth [] call

/-- A visit shows under a higher limit the arrows it shows under a lower one, in their order,
and maybe others between them. -/
theorem arrowsOf_drawVisit_sublist {depth depth' : Nat} (h : depth ≤ depth') (message : c.Ref)
    (sender : Option String) (visits : List Visit) :
    (Fragment.arrowsOf (c.drawVisit (p.withMaxDepth depth) message sender visits)).Sublist
      (Fragment.arrowsOf (c.drawVisit (p.withMaxDepth depth') message sender visits)) := by
  -- on how many more visits may nest under the lower limit
  induction hroom : depth - visits.length generalizing message sender visits with
  | zero =>
    have hdeep : (p.withMaxDepth depth).maxDepth ≤ visits.length := Nat.sub_eq_zero_iff_le.1 hroom
    rw [drawVisit_of_deep hdeep]
    exact List.nil_sublist _
  | succ room ih =>
    have hlt : visits.length < (p.withMaxDepth depth).maxDepth :=
      Nat.lt_of_sub_pos (hroom ▸ Nat.succ_pos room)
    have hlt' : visits.length < (p.withMaxDepth depth').maxDepth := Nat.lt_of_lt_of_le hlt h
    rw [drawVisit_of_lt hlt, drawVisit_of_lt hlt', Fragment.arrowsOf_flatMap,
      Fragment.arrowsOf_flatMap]
    refine List.Sublist.flatMap_right _ fun handler _ => List.Sublist.cons_cons _ ?_
    unfold drawFollowUp
    split
    · exact List.Sublist.refl _
    · rw [arrowsOf_drawBody, arrowsOf_drawBody, script_withMaxDepth, script_withMaxDepth]
      refine List.Sublist.flatMap_right _ fun call _ => ?_
      have hmessage (depth : Nat) :
          c.messageOf (p.withMaxDepth depth) call = c.messageOf p call := rfl
      unfold drawSent
      rw [hmessage, hmessage]
      cases c.messageOf p call with
      | none => exact List.Sublist.refl _
      | some next =>
        refine ih next _ _ ?_
        rw [List.length_cons]
        omega

end Codebase

/-! ## Runs that are not cut -/

/-- Whether no message was found to nest too deep. -/
def Ledger.Uncut (l : Ledger c) : Prop := ∀ e ∈ l.journal, ∀ message, e.event ≠ .tooDeep message

namespace Ledger

variable {l l' : Ledger c} {trail : Trail c}

theorem Uncut.of_suffix (h : l'.Uncut) (hsuffix : l.journal <:+ l'.journal) : l.Uncut :=
  fun e he => h e (hsuffix.subset he)

theorem Uncut.of_record {event : Event c} (h : (l.record trail event).Uncut) : l.Uncut :=
  h.of_suffix (List.suffix_cons _ _)

theorem not_uncut_tooDeep (message : c.Ref) : ¬ (l.record trail (.tooDeep message)).Uncut :=
  fun h => h _ List.mem_cons_self message rfl

/-- Cuts are what a run gives notice of. -/
theorem uncut_iff (limit : Nat) :
    l.Uncut ↔ ∀ fullName, Notice.tooDeep limit fullName ∉ l.notices limit := by
  unfold notices
  simp only [List.mem_filterMap, List.mem_reverse, not_exists, not_and]
  constructor
  · intro h fullName e he hnotice
    cases hevent : e.event with
    | tooDeep message => exact h e he message hevent
    | _ => simp [hevent, Event.notice?] at hnotice
  · intro h e he message hevent
    exact h (c.fullName message) e he (by rw [hevent]; rfl)

end Ledger

section uncut

variable {depth : Nat} {pinned : Option String} {trail : Trail c} {l : Ledger c}

/-- A body does the same under two limits if its statements do. -/
theorem walkAll_withMaxDepth_of_forall {handler : c.Ref} {body : List (Statement (Call c))}
    (h : ∀ s ∈ body, ∀ l, (walk c p handler pinned trail s l).2.Uncut →
      walk c (p.withMaxDepth depth) handler pinned trail s l = walk c p handler pinned trail s l)
    (huncut : (walkAll c p handler pinned trail body l).2.Uncut) :
    walkAll c (p.withMaxDepth depth) handler pinned trail body l =
      walkAll c p handler pinned trail body l := by
  induction body generalizing l with
  | nil => rw [walkAll, walkAll]
  | cons s rest ih =>
    obtain ⟨hs, hrest⟩ := List.forall_mem_cons.1 h
    rw [walkAll] at huncut
    rw [walkAll, walkAll, hs l (huncut.of_suffix journal_walkAll), ih hrest huncut]

/-- Labelled bodies do the same under two limits if their statements do. -/
theorem walkSections_withMaxDepth_of_forall {handler : c.Ref}
    {sections : List (String × List (Statement (Call c)))}
    (h : ∀ part ∈ sections, ∀ s ∈ part.2, ∀ l, (walk c p handler pinned trail s l).2.Uncut →
      walk c (p.withMaxDepth depth) handler pinned trail s l = walk c p handler pinned trail s l)
    (huncut : (walkSections c p handler pinned trail sections l).2.Uncut) :
    walkSections c (p.withMaxDepth depth) handler pinned trail sections l =
      walkSections c p handler pinned trail sections l := by
  induction sections generalizing l with
  | nil => rw [walkSections, walkSections]
  | cons part rest ih =>
    obtain ⟨label, body⟩ := part
    obtain ⟨hbody, hrest⟩ := List.forall_mem_cons.1 h
    rw [walkSections] at huncut
    rw [walkSections, walkSections,
      walkAll_withMaxDepth_of_forall hbody (huncut.of_suffix journal_walkSections),
      ih hrest huncut]

/-- Visits to handlers do the same under two limits if what follows the arrows does. -/
theorem visitEach_withMaxDepth_of_forall {message : c.Ref} {sender : Option String}
    {handlers : List c.Ref} (hlt : trail.visits.length < p.maxDepth)
    (hmem : ∀ handler ∈ handlers, handler ∈ c.handlers p (c.decl message))
    (h : ∀ handler ∈ handlers, ∀ l, (followUp p handler message pinned trail l).2.Uncut →
      followUp (p.withMaxDepth depth) handler message pinned trail l =
        followUp p handler message pinned trail l)
    (huncut : (visitEach c p handlers message sender pinned trail l).2.Uncut) :
    visitEach c (p.withMaxDepth depth) handlers message sender pinned trail l =
      visitEach c p handlers message sender pinned trail l := by
  induction handlers generalizing l with
  | nil => rw [visitEach_nil, visitEach_nil]
  | cons handler rest ih =>
    obtain ⟨-, hothers⟩ := List.forall_mem_cons.1 hmem
    obtain ⟨hhandler, hrest⟩ := List.forall_mem_cons.1 h
    rw [visitEach_cons] at huncut
    have hinner := huncut.of_suffix
      ((Ledger.journal_closed ..).trans (journal_visitEach hothers hlt sender pinned _))
    have hfollow := hhandler _ hinner
    have hrest := ih hothers hrest huncut
    rw [visitEach_cons, visitEach_cons]
    -- the limit plays no part in what is done around what follows the arrow
    have hopened : l.opened (p.withMaxDepth depth) handler message trail =
        l.opened p handler message trail := rfl
    have hclosed (l : Ledger c) : l.closed (p.withMaxDepth depth) handler message pinned trail =
        l.closed p handler message pinned trail := rfl
    have harrow : c.arrowTo (p.withMaxDepth depth) sender message handler =
        c.arrowTo p sender message handler := rfl
    simp only [hopened, hclosed, harrow, hfollow, hrest]

/-- What follows the arrow to a handler is the same under two limits if the statements of the
handling method do the same. -/
theorem followUp_withMaxDepth_of_forall {handler message : c.Ref}
    (h : ∀ m, c.visitOf handler message ∉ trail.visits →
      c.handlingMethod p handler (c.decl message) = some m → ∀ s ∈ m.body, ∀ pinned l,
      (walk c p handler pinned (trail.enter (c.visitOf handler message)) s l).2.Uncut →
      walk c (p.withMaxDepth depth) handler pinned (trail.enter (c.visitOf handler message)) s l =
        walk c p handler pinned (trail.enter (c.visitOf handler message)) s l)
    (huncut : (followUp p handler message pinned trail l).2.Uncut) :
    followUp (p.withMaxDepth depth) handler message pinned trail l =
      followUp p handler message pinned trail l := by
  have hmethod : c.handlingMethod (p.withMaxDepth depth) handler (c.decl message) =
      c.handlingMethod p handler (c.decl message) := rfl
  unfold followUp at huncut ⊢
  split
  · rfl
  next hfree =>
    rw [if_neg hfree] at huncut
    rw [hmethod]
    cases hm : c.handlingMethod p handler (c.decl message) with
    | none => rfl
    | some m =>
      rw [hm] at huncut
      exact walkAll_withMaxDepth_of_forall (fun s hs => h m hfree hm s hs _) huncut

/-- Runs that are not cut do the same under a higher limit. -/
theorem eq_withMaxDepth_of_uncut (h : p.maxDepth ≤ depth) :
    (∀ (message : c.Ref) (sender : Option String) (trail : Trail c), ∀ pinned l,
      (visit c p message sender pinned trail l).2.Uncut →
      visit c (p.withMaxDepth depth) message sender pinned trail l =
        visit c p message sender pinned trail l) ∧
    ∀ (handler : c.Ref) (trail : Trail c) (s : Statement (Call c)), ∀ pinned l,
      (walk c p handler pinned trail s l).2.Uncut →
      walk c (p.withMaxDepth depth) handler pinned trail s l =
        walk c p handler pinned trail s l := by
  apply walk_induction
  case deep =>
    -- the lower limit cuts here, and the journal would say so
    intro message sender trail hdeep pinned l huncut
    rw [visit_of_deep hdeep] at huncut
    exact absurd huncut.of_record (Ledger.not_uncut_tooDeep message)
  case handled =>
    intro message sender trail hlt ih pinned l huncut
    have hlt' : trail.visits.length < (p.withMaxDepth depth).maxDepth := Nat.lt_of_lt_of_le hlt h
    rw [visit_of_lt hlt] at huncut
    have hhandlers : c.handlers (p.withMaxDepth depth) (c.decl message) =
        c.handlers p (c.decl message) := rfl
    have heach : visitEach c (p.withMaxDepth depth) (c.handlers p (c.decl message)) message
        sender pinned trail (l.record trail (.arrived message)) =
          visitEach c p (c.handlers p (c.decl message)) message sender pinned trail
            (l.record trail (.arrived message)) :=
      visitEach_withMaxDepth_of_forall hlt (fun _ hmem => hmem)
        (fun handler hmem _ => followUp_withMaxDepth_of_forall (ih handler hmem)) huncut.of_record
    rw [visit_of_lt hlt, visit_of_lt hlt', hhandlers, heach]
  case publishes =>
    intro handler trail call hpub ih pinned l huncut
    have hpub' : (p.withMaxDepth depth).publishes call.invocation = true := hpub
    have hmessageOf : c.messageOf (p.withMaxDepth depth) call.invocation =
        c.messageOf p call.invocation := rfl
    rw [walk_of_publishes hpub] at huncut
    rw [walk_of_publishes hpub, walk_of_publishes hpub', hmessageOf]
    cases hmessage : c.messageOf p call.invocation with
    | none => rfl
    | some message =>
      rw [hmessage] at huncut
      exact ih message hmessage pinned _ huncut
  case unresolved =>
    intro handler trail call hpub hnone pinned l _
    have hpub' : (p.withMaxDepth depth).publishes call.invocation = false := hpub
    rw [walk_of_resolve_eq_none hpub hnone, walk_of_resolve_eq_none hpub' hnone]
    rfl
  case inlining =>
    intro handler trail call m hm hmem pinned l _
    have hm' : c.LandsOn (p.withMaxDepth depth) call.invocation m := hm
    rw [walk_of_mem hm hmem, walk_of_mem hm' hmem]
    rfl
  case inlines =>
    intro handler trail call m hm hfree ih pinned l huncut
    have hm' : c.LandsOn (p.withMaxDepth depth) call.invocation m := hm
    rw [walk_of_notMem hm hfree] at huncut
    rw [walk_of_notMem hm hfree, walk_of_notMem hm' hfree]
    exact walkAll_withMaxDepth_of_forall (fun s hs => ih s hs pinned) huncut
  case conditional =>
    intro handler trail arms ih pinned l huncut
    rw [walk] at huncut
    rw [walk, walk, walkSections_withMaxDepth_of_forall
      (fun part hpart s hs => ih part hpart s hs pinned) huncut]
  case switch =>
    intro handler trail subject arms ih pinned l huncut
    rw [walk] at huncut
    rw [walk, walk, walkSections_withMaxDepth_of_forall
      (fun part hpart s hs => ih part hpart s hs pinned) huncut]
  case forEach =>
    intro handler trail items body ih pinned l huncut
    rw [walk] at huncut
    rw [walk, walk, walkSections_withMaxDepth_of_forall
      (fun part hpart s hs => ih part hpart s hs pinned) huncut]
  case block =>
    intro handler trail body pinned l _
    rw [walk, walk]

end uncut

/-! ## Limits that no run meets -/

/-- The visits there are: of each message to the types that handle it. -/
def Codebase.handledVisits (c : Codebase) (p : Profile) : List Visit :=
  c.refs.flatMap fun message =>
    (c.handlers p (c.decl message)).map fun handler => c.visitOf handler message

theorem Codebase.mem_handledVisits {handler message : c.Ref}
    (h : handler ∈ c.handlers p (c.decl message)) :
    c.visitOf handler message ∈ c.handledVisits p :=
  List.mem_flatMap.2 ⟨message, mem_refs message, List.mem_map.2 ⟨handler, h, rfl⟩⟩

/-- Whether the visits of a trail are visits there are, each going on once. -/
structure Trail.Possible (p : Profile) (trail : Trail c) : Prop where
  distinct : trail.visits.Nodup
  handled : trail.visits ⊆ c.handledVisits p

theorem Trail.Possible.length_le {trail : Trail c} (h : trail.Possible p) :
    trail.visits.length ≤ (c.handledVisits p).dedup.length :=
  (h.distinct.subperm fun _ hv => List.mem_dedup.2 (h.handled hv)).length_le

theorem Trail.Possible.enter {trail : Trail c} {handler message : c.Ref} (h : trail.Possible p)
    (hmem : handler ∈ c.handlers p (c.decl message))
    (hfree : c.visitOf handler message ∉ trail.visits) :
    (trail.enter (c.visitOf handler message)).Possible p :=
  ⟨List.nodup_cons.2 ⟨hfree, h.distinct⟩,
    List.cons_subset.2 ⟨Codebase.mem_handledVisits hmem, h.handled⟩⟩

namespace Ledger.Uncut

variable {l : Ledger c} {trail : Trail c}

theorem record (h : l.Uncut) {event : Event c} (hevent : ∀ message, event ≠ .tooDeep message) :
    (l.record trail event).Uncut :=
  List.forall_mem_cons.2 ⟨hevent, h⟩

theorem opened (h : l.Uncut) (handler message : c.Ref) :
    (l.opened p handler message trail).Uncut := by
  refine record (fun e he => h e ?_) (by simp)
  rwa [journal_join, journal_activate] at he

theorem closed (h : l.Uncut) (handler message : c.Ref) (pinned : Option String) :
    (l.closed p handler message pinned trail).Uncut := by
  intro e he
  rw [Ledger.closed, journal_deactivate] at he
  exact h.record (by simp) e he

end Ledger.Uncut

/-- No step is a cut under a limit above the number of visits there are: a visit begins only
where it is not going on, so no more than that can be going on at once. -/
theorem uncutInvariant (h : (c.handledVisits p).dedup.length < p.maxDepth) :
    WalkInvariant c p fun trail _ l _ l' => trail.Possible p → l.Uncut → l'.Uncut where
  nil _ _ _ _ hl := hl
  append hfirst hrest htrail hl := hrest htrail (hfirst htrail hl)
  record {trail pinned l event} hfits htrail hl := by
    refine hl.record fun message hevent => ?_
    subst hevent
    have hdeep : p.maxDepth ≤ trail.visits.length := hfits
    have hlength := htrail.length_le
    omega
  leave hmem hfree _ hbody htrail := hbody (htrail.enter hmem hfree)
  leaveInlined _ hbody htrail := hbody ⟨htrail.distinct, htrail.handled⟩
  handle _ _ hinner htrail hl := (hinner htrail (hl.opened _ _)).closed _ _ _

/-! ## The limit only cuts off -/

/-- The run of a message under a limit, with some participants to begin with. -/
def visitUpTo (c : Codebase) (p : Profile) (limit : Nat) (message : c.Ref)
    (sender pinned : Option String) (participants : List String) : List Fragment × Ledger c :=
  visit c (p.withMaxDepth limit) message sender pinned {} { participants }

/-- Under a lower limit a run shows the arrows that it shows under a higher one, some left out.
Where it gives no notice of messages that nest too deep, it shows the same fragments and has
the same participants. It gives none under a limit above the number of pairs of a handler and a
message that it handles. -/
theorem visitUpTo_only_cuts (c : Codebase) (p : Profile) {limit limit' : Nat}
    (h : limit ≤ limit') (message : c.Ref) (sender pinned : Option String)
    (participants : List String) :
    (Fragment.arrowsOf (visitUpTo c p limit message sender pinned participants).1).Sublist
      (Fragment.arrowsOf (visitUpTo c p limit' message sender pinned participants).1) ∧
    ((∀ fullName, Notice.tooDeep limit fullName ∉
        (visitUpTo c p limit message sender pinned participants).2.notices limit) →
      (visitUpTo c p limit message sender pinned participants).1 =
        (visitUpTo c p limit' message sender pinned participants).1 ∧
      (visitUpTo c p limit message sender pinned participants).2.participants =
        (visitUpTo c p limit' message sender pinned participants).2.participants) ∧
    ((c.handledVisits p).dedup.length < limit → ∀ fullName, Notice.tooDeep limit fullName ∉
      (visitUpTo c p limit message sender pinned participants).2.notices limit) := by
  refine ⟨?_, fun hquiet => ?_, fun hlimit => ?_⟩
  · unfold visitUpTo
    rw [visit_fst, visit_fst]
    exact Codebase.arrowsOf_drawVisit_sublist h message sender []
  · have huncut := (Ledger.uncut_iff limit).2 hquiet
    have hsame : visitUpTo c p limit' message sender pinned participants =
        visitUpTo c p limit message sender pinned participants :=
      (eq_withMaxDepth_of_uncut (p := p.withMaxDepth limit) h).1 message sender {} pinned _ huncut
    rw [hsame]
    exact ⟨rfl, rfl⟩
  · have hpossible : ({} : Trail c).Possible (p.withMaxDepth limit) :=
      ⟨List.nodup_nil, List.nil_subset _⟩
    have hbegin : ({ participants } : Ledger c).Uncut := by simp [Ledger.Uncut]
    exact (Ledger.uncut_iff limit).1 ((uncutInvariant (p := p.withMaxDepth limit) hlimit).visit
      message sender pinned {} { participants } hpossible hbegin)

namespace Relay

/-- There is one visit in the shop, and a limit of two is above that. -/
theorem shop_never_too_deep : 2 ≤ 5 ∧ (shop.handledVisits .sample).dedup.length < 2 ∧
    (∀ fullName, Notice.tooDeep 2 fullName ∉
      (visitUpTo shop .sample 2 placed none none []).2.notices 2) ∧
    (visitUpTo shop .sample 2 placed none none []).1 =
      (visitUpTo shop .sample 5 placed none none []).1 := by
  have hlimit : (shop.handledVisits .sample).dedup.length < 2 := by decide
  obtain ⟨-, hsame, hquiet⟩ := visitUpTo_only_cuts shop .sample (show 2 ≤ 5 by decide)
    placed none none []
  exact ⟨by decide, hlimit, hquiet hlimit, (hsame (hquiet hlimit)).1⟩

end Relay

end Ripple
