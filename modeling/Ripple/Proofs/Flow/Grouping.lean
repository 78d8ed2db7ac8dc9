import Ripple.Proofs.Diagram.Groups
import Ripple.Proofs.Flow.Drawn

/-!
# Groups that a visit shows

Every group in what a visit shows comes from one branch or loop that was walked on the way, and
holds, in their order and under their labels, what those of its bodies showed that showed
anything. `Walked` holds of the statements that a visit walks, each with its handler and with
the trail as it stands then: those of the bodies it enters, those that inlined calls stand for,
those inside branches and loops, and those of the visits it leads to.
-/

namespace Ripple

open Statement Fragment

variable {c : Codebase} {p : Profile}

/-! ## What is walked -/

/-- Whether taking a message along a trail leads to walking a statement for a handler, on a
trail of its own. -/
inductive Walked (c : Codebase) (p : Profile) :
    c.Ref → Trail c → c.Ref → Trail c → Statement (Call c) → Prop where
  | entered {message handler : c.Ref} {trail : Trail c} {m : c.MethodRef}
      {s : Statement (Call c)} (hlt : trail.visits.length < p.maxDepth)
      (hhandler : handler ∈ c.handlers p (c.decl message))
      (hfree : c.visitOf handler message ∉ trail.visits)
      (hm : c.handlingMethod p handler (c.decl message) = some m) (hs : s ∈ m.body) :
      Walked c p message trail handler (trail.enter (c.visitOf handler message)) s
  | inlined {message handler : c.Ref} {trail below : Trail c} {call : Call c} {m : c.MethodRef}
      {s : Statement (Call c)} (hcall : Walked c p message trail handler below (.call call))
      (hm : c.LandsOn p call.invocation m) (hfree : m ∉ below.inlined)
      (hs : s ∈ c.inlinedBody p call m) :
      Walked c p message trail handler (below.enterInlined m) s
  | inside {message handler : c.Ref} {trail below : Trail c} {s s' : Statement (Call c)}
      {kind : GroupKind} {parts : List (String × List (Statement (Call c)))}
      {part : String × List (Statement (Call c))} (hs : Walked c p message trail handler below s)
      (hshape : s.shape? = some (kind, parts)) (hpart : part ∈ parts) (hs' : s' ∈ part.2) :
      Walked c p message trail handler below s'
  | sent {message handler next handler' : c.Ref} {trail below below' : Trail c} {call : Call c}
      {s : Statement (Call c)} (hcall : Walked c p message trail handler below (.call call))
      (hpub : p.publishes call.invocation = true)
      (hnext : c.messageOf p call.invocation = some next)
      (hs : Walked c p next below handler' below' s) :
      Walked c p message trail handler' below' s

/-- What a branch or loop shows is the group made of what its bodies show. -/
theorem walk_of_shape? {handler : c.Ref} {pinned : Option String} {trail : Trail c} {l : Ledger c}
    {s : Statement (Call c)} {kind : GroupKind} {parts : List (String × List (Statement (Call c)))}
    (h : s.shape? = some (kind, parts)) :
    (walk c p handler pinned trail s l).1 =
      group kind (walkSections c p handler pinned trail parts l).1 := by
  cases s with
  | conditional arms => cases h; rw [walk]
  | switch subject arms => cases h; rw [walk]
  | forEach items body => cases h; rw [walk]
  | call target => cases h
  | block body => cases h

/-- What labelled bodies show, each walked by itself, with whatever ledger and pinned service. -/
theorem walkSections_fst {handler : c.Ref} {trail : Trail c}
    {parts : List (String × List (Statement (Call c)))} (pinned : Option String) (l : Ledger c)
    (pinned' : Option String) (l' : Ledger c) :
    (walkSections c p handler pinned trail parts l).1 =
      parts.map fun part => (part.1, (walkAll c p handler pinned' trail part.2 l').1) := by
  rw [walkSections_fst_of_forall fun part _ s _ => walk_fst s]
  refine List.map_congr_left fun part _ => ?_
  rw [walkAll_fst_of_forall fun s _ => walk_fst s]

/-! ## What is shown is solid -/

namespace Codebase

theorem solid_drawVisit (message : c.Ref) (sender : Option String) (visits : List Visit) :
    Solid (c.drawVisit p message sender visits) := by
  induction hroom : p.maxDepth - visits.length generalizing message sender visits with
  | zero =>
    rw [drawVisit_of_deep (by omega)]
    exact Solid.nil
  | succ room ih =>
    rw [drawVisit_of_lt (by omega)]
    refine Solid.flatMap fun handler _ => Solid.cons (by simp [arrows]) ?_
    unfold drawFollowUp
    split
    · exact Solid.nil
    refine solid_drawBody (fun call => ?_) _
    unfold drawSent
    split
    · exact Solid.nil
    next next _ =>
      refine ih next _ _ ?_
      rw [List.length_cons]
      omega

theorem solid_drawCall (handler : c.Ref) (trail : Trail c) (call : Call c) :
    Solid (c.drawCall p handler trail call) := by
  refine solid_drawBody (fun call => ?_) _
  unfold drawSent
  split
  · exact Solid.nil
  · exact solid_drawVisit _ _ _

end Codebase

theorem solid_walkAll {handler : c.Ref} {pinned : Option String} {trail : Trail c}
    (body : List (Statement (Call c))) (l : Ledger c) :
    Solid (walkAll c p handler pinned trail body l).1 := by
  rw [walkAll_fst_of_forall fun s _ => walk_fst s]
  exact solid_drawBody (fun call => Codebase.solid_drawCall handler trail call) _

/-! ## Where groups come from -/

/-- Whether sections are a group that a branch or loop shows which is walked on the way: what its
bodies show, in their order, less what is empty. -/
def Traced (c : Codebase) (p : Profile) (message : c.Ref) (trail : Trail c)
    (sections : List (Section Fragment)) : Prop :=
  ∃ kind handler below s parts, Walked c p message trail handler below s ∧
    s.shape? = some (kind, parts) ∧ IsGroup kind sections ∧
    ∀ pinned l, sections.map Section.part =
      (parts.map fun part => (part.1, (walkAll c p handler pinned below part.2 l).1)).filter
        (!·.2.isEmpty)

/-- The groups that a body shows are those that its statements show. -/
theorem exists_of_mem_groupsOf_walkAll {handler : c.Ref} {pinned : Option String}
    {trail : Trail c} {body : List (Statement (Call c))} {l : Ledger c}
    {sections : List (Section Fragment)}
    (h : sections ∈ groupsOf (walkAll c p handler pinned trail body l).1) :
    ∃ s ∈ body, ∃ l', sections ∈ groupsOf (walk c p handler pinned trail s l').1 := by
  induction body generalizing l with
  | nil =>
    rw [walkAll] at h
    cases h
  | cons s rest ih =>
    simp only [walkAll, groupsOf_append, List.mem_append] at h
    obtain h | h := h
    · exact ⟨s, List.mem_cons_self, l, h⟩
    · obtain ⟨s', hs', l', h⟩ := ih h
      exact ⟨s', List.mem_cons_of_mem s hs', l', h⟩

/-- The groups that handlers show are those that follow the arrows to them. -/
theorem exists_of_mem_groupsOf_visitEach {handlers : List c.Ref} {message : c.Ref}
    {sender pinned : Option String} {trail : Trail c} {l : Ledger c}
    {sections : List (Section Fragment)}
    (h : sections ∈ groupsOf (visitEach c p handlers message sender pinned trail l).1) :
    ∃ handler ∈ handlers, ∃ l',
      sections ∈ groupsOf (followUp p handler message pinned trail l').1 := by
  induction handlers generalizing l with
  | nil =>
    rw [visitEach_nil] at h
    cases h
  | cons handler rest ih =>
    simp only [visitEach_cons, List.cons_append, groupsOf_arrow_cons, groupsOf_append,
      List.mem_append] at h
    obtain h | h := h
    · exact ⟨handler, List.mem_cons_self, _, h⟩
    · obtain ⟨handler', hhandler', l', h⟩ := ih h
      exact ⟨handler', List.mem_cons_of_mem handler hhandler', l', h⟩

/-- The group that a walked branch or loop shows is traced, and so are the groups within it if
those are that the statements of its bodies show. -/
theorem traced_of_shape? {message handler : c.Ref} {trail below : Trail c}
    {pinned : Option String} {s : Statement (Call c)} {kind : GroupKind}
    {parts : List (String × List (Statement (Call c)))}
    (hwalked : Walked c p message trail handler below s) (hshape : s.shape? = some (kind, parts))
    (hinner : ∀ part ∈ parts, ∀ s' ∈ part.2, ∀ l,
      ∀ sections ∈ groupsOf (walk c p handler pinned below s' l).1,
        Traced c p message trail sections) (l : Ledger c) :
    ∀ sections ∈ groupsOf (walk c p handler pinned below s l).1,
      Traced c p message trail sections := by
  intro sections hsections
  rw [walk_of_shape? hshape, walkSections_fst pinned l pinned l] at hsections
  obtain hgroup | ⟨shown, hshown, hsections⟩ := mem_groupsOf_group hsections
  · refine ⟨kind, handler, below, s, parts, hwalked, hshape, ?_, fun pinned' l' => ?_⟩
    · refine isGroup_of_group_eq hgroup ?_ ?_
      · intro shown hshown
        obtain ⟨part, -, rfl⟩ := List.mem_map.1 hshown
        exact solid_walkAll part.2 l
      · rintro rfl
        rw [List.length_map]
        exact length_eq_one_of_shape? hshape
    · have hparts := map_part_of_group_eq hgroup
      rwa [← walkSections_fst pinned l pinned l, walkSections_fst pinned l pinned' l'] at hparts
  · obtain ⟨part, hpart, rfl⟩ := List.mem_map.1 hshown
    obtain ⟨s', hs', l', hsections⟩ := exists_of_mem_groupsOf_walkAll hsections
    exact hinner part hpart s' hs' l' sections hsections

/-- The groups of a visit are traced from it, and those of a walked statement from where its
walk was led to. -/
theorem traced_of_mem_groupsOf :
    (∀ (message : c.Ref) (sender : Option String) (trail : Trail c), ∀ pinned l,
      ∀ sections ∈ groupsOf (visit c p message sender pinned trail l).1,
        Traced c p message trail sections) ∧
    ∀ (handler : c.Ref) (below : Trail c) (s : Statement (Call c)), ∀ message trail,
      Walked c p message trail handler below s → ∀ pinned l,
        ∀ sections ∈ groupsOf (walk c p handler pinned below s l).1,
          Traced c p message trail sections := by
  apply walk_induction
  case deep =>
    intro message sender trail hdeep pinned l sections hsections
    rw [visit_of_deep hdeep] at hsections
    cases hsections
  case handled =>
    intro message sender trail hlt ih pinned l sections hsections
    rw [visit_of_lt hlt] at hsections
    obtain ⟨handler, hhandler, l', hsections⟩ := exists_of_mem_groupsOf_visitEach hsections
    unfold followUp at hsections
    split at hsections
    · cases hsections
    next hfree =>
      cases hm : c.handlingMethod p handler (c.decl message) with
      | none =>
        rw [hm] at hsections
        cases hsections
      | some m =>
        rw [hm] at hsections
        obtain ⟨s, hs, l'', hsections⟩ := exists_of_mem_groupsOf_walkAll hsections
        exact ih handler hhandler m hfree hm s hs message trail
          (.entered hlt hhandler hfree hm hs) _ _ sections hsections
  case publishes =>
    intro handler below call hpub ih message trail hwalked pinned l sections hsections
    rw [walk_of_publishes hpub] at hsections
    cases hnext : c.messageOf p call.invocation with
    | none =>
      rw [hnext] at hsections
      cases hsections
    | some next =>
      rw [hnext] at hsections
      obtain ⟨kind, handler', below', s, parts, hs, hrest⟩ :=
        ih next hnext pinned _ sections hsections
      exact ⟨kind, handler', below', s, parts, .sent hwalked hpub hnext hs, hrest⟩
  case unresolved =>
    intro handler below call hpub hnone message trail hwalked pinned l sections hsections
    rw [walk_of_resolve_eq_none hpub hnone] at hsections
    cases hsections
  case inlining =>
    intro handler below call m hm hmem message trail hwalked pinned l sections hsections
    rw [walk_of_mem hm hmem] at hsections
    cases hsections
  case inlines =>
    intro handler below call m hm hfree ih message trail hwalked pinned l sections hsections
    rw [walk_of_notMem hm hfree] at hsections
    obtain ⟨s, hs, l', hsections⟩ := exists_of_mem_groupsOf_walkAll hsections
    exact ih s hs message trail (.inlined hwalked hm hfree hs) pinned l' sections hsections
  case conditional =>
    intro handler below arms ih message trail hwalked pinned l
    exact traced_of_shape? hwalked rfl (fun part hpart s hs l =>
      ih part hpart s hs message trail (.inside hwalked rfl hpart hs) pinned l) l
  case switch =>
    intro handler below subject arms ih message trail hwalked pinned l
    exact traced_of_shape? hwalked rfl (fun part hpart s hs l =>
      ih part hpart s hs message trail (.inside hwalked rfl hpart hs) pinned l) l
  case forEach =>
    intro handler below items body ih message trail hwalked pinned l
    exact traced_of_shape? hwalked rfl (fun part hpart s hs l =>
      ih part hpart s hs message trail (.inside hwalked rfl hpart hs) pinned l) l
  case block =>
    intro handler below body message trail hwalked pinned l sections hsections
    rw [walk] at hsections
    cases hsections

/-- What a message sets off, at any moment of a walk, is nothing or begins with the arrow to its
first handler; and each group in it, at whatever depth, comes from a branch or loop that was
walked on the way. Its sections are those bodies that showed something, in their order and
each under its own label: one at least, one only for a loop, the first alone naming the
kind, and all with an arrow in them. -/
theorem groups_of_visit (c : Codebase) (p : Profile) (message : c.Ref)
    (sender pinned : Option String) (trail : Trail c) (l : Ledger c) :
    ((visit c p message sender pinned trail l).1 = [] ∨
      ∃ first others rest, c.handlers p (c.decl message) = first :: others ∧
        (visit c p message sender pinned trail l).1 =
          .arrow (c.arrowTo p sender message first) :: rest) ∧
    ∀ sections ∈ groupsOf (visit c p message sender pinned trail l).1, ∃ kind,
      IsGroup kind sections ∧
      ∃ handler below s parts, Walked c p message trail handler below s ∧
        s.shape? = some (kind, parts) ∧
        ∀ pinned l, sections.map Section.part =
          (parts.map fun part => (part.1, (walkAll c p handler pinned below part.2 l).1)).filter
            (!·.2.isEmpty) := by
  refine ⟨?_, fun sections hsections => ?_⟩
  · rw [visit_fst]
    by_cases hlt : trail.visits.length < p.maxDepth
    · rw [Codebase.drawVisit_of_lt hlt]
      cases hhandlers : c.handlers p (c.decl message) with
      | nil => exact .inl rfl
      | cons first others => exact .inr ⟨first, others, _, rfl, rfl⟩
    · exact .inl (Codebase.drawVisit_of_deep (Nat.not_lt.1 hlt))
  · obtain ⟨kind, handler, below, s, parts, hwalked, hshape, hgroup, hparts⟩ :=
      traced_of_mem_groupsOf.1 message sender trail pinned l sections hsections
    exact ⟨kind, hgroup, handler, below, s, parts, hwalked, hshape, hparts⟩

namespace Relay

/-- What the desk does in a rush is shown as a group of one section. -/
def rush : List (Section Fragment) :=
  [⟨some .conditional, "rush", [.arrow ⟨"Store", "Store", "Placed", "green"⟩]⟩]

/-- That group comes from the conditional in which the desk looks whether there is a rush. -/
theorem shop_groups : rush ∈ groupsOf (visit shop .sample placed none none {} {}).1 ∧
    IsGroup .conditional rush ∧
    ∃ handler below s parts, Walked shop .sample placed {} handler below s ∧
      s.shape? = some (.conditional, parts) ∧ rush.map Section.part =
        (parts.map fun part =>
          (part.1, (walkAll shop .sample handler none below part.2 {}).1)).filter
            (!·.2.isEmpty) := by
  have hvisit : (visit shop .sample placed none none {} {}).1 =
      [.arrow ⟨"Client", "Store", "Placed", "green"⟩, .alt rush] := by cbv
  have hmem : rush ∈ groupsOf (visit shop .sample placed none none {} {}).1 := by
    rw [hvisit]
    exact List.mem_cons_self
  obtain ⟨kind, hgroup, handler, below, s, parts, hwalked, hshape, hparts⟩ :=
    (groups_of_visit shop .sample placed none none {} {}).2 rush hmem
  obtain ⟨first, rest, hrush, hkind, -⟩ := hgroup.named
  cases hrush
  cases hkind
  exact ⟨hmem, hgroup, handler, below, s, parts, hwalked, hshape, hparts none {}⟩

end Relay

end Ripple
