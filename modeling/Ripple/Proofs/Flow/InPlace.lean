import Mathlib.Logic.Relation
import Ripple.Proofs.Flow.Drawn

/-!
# Walking in place

`Visits` and its companions follow a message with everything that is on record in one `Book`,
which each step changes and hands on. A visit is pushed on the way into its body and popped on
the way out, and so is an inlined method; the methods being inlined are set aside while a
handler's body is walked. The book is never cleared between runs, so what an earlier run leaves
in it a later one finds.

Every way out of a body puts the trail back as it was on the way in, so that a run in place has
just the outcome of `visit` (`visits_iff`). What it shows depends on the trail, but neither on
the ledger nor on the pinned service, and on the sender only in the arrows to the handlers of
the message itself.
-/

namespace Ripple

open Relation Statement

/-- All that a walk has on record. -/
structure Book (c : Codebase) where
  trail : Trail c := {}
  ledger : Ledger c := {}

namespace Book

variable {c : Codebase} (b : Book c)

/-- Enters an event in the journal. -/
def record (event : Event c) : Book c :=
  { b with ledger := b.ledger.record b.trail event }

/-- Draws the arrow to a handler, with the handler's service active. -/
def opened (p : Profile) (handler message : c.Ref) : Book c :=
  { b with ledger := b.ledger.opened p handler message b.trail }

/-- Is done with a handler. -/
def closed (p : Profile) (handler message : c.Ref) (pinned : Option String) : Book c :=
  { b with ledger := b.ledger.closed p handler message pinned b.trail }

/-- Enters the ambiguities met in inlining a call. -/
def consulted (p : Profile) (call : Call c) : Book c :=
  { b with ledger := b.ledger.consulted p b.trail call }

/-- Enters the body of a visit, in which no method is inlined yet. -/
def enter (visit : Visit) : Book c := { b with trail := b.trail.enter visit }

/-- Leaves the body of the innermost visit and takes up again the methods set aside for it. -/
def leave (aside : List c.MethodRef) : Book c :=
  { b with trail := ⟨b.trail.visits.tail, aside⟩ }

/-- Enters the body of an inlined method. -/
def enterInlined (m : c.MethodRef) : Book c := { b with trail := b.trail.enterInlined m }

/-- Leaves the body of the method inlined last. -/
def leaveInlined : Book c :=
  { b with trail := { b.trail with inlined := b.trail.inlined.tail } }

/-- The book with the participants that the next run is to add to. -/
def handed (participants : List String) : Book c :=
  { b with ledger := { b.ledger with participants } }

end Book

section inPlace

variable (c : Codebase) (p : Profile)

mutual

/-- What a message shows, with the books before and after. -/
inductive Visits : c.Ref → Option String → Option String → Book c → List Fragment → Book c → Prop
  | tooDeep {message : c.Ref} {sender pinned : Option String} {b : Book c}
      (hdeep : p.maxDepth ≤ b.trail.visits.length) :
      Visits message sender pinned b []
        (((b.record (.arrived message)).record (.tooDeep message)).record (.left message))
  | handled {message : c.Ref} {sender pinned : Option String} {b b' : Book c}
      {shown : List Fragment} (hlt : b.trail.visits.length < p.maxDepth)
      (heach : VisitsEach (c.handlers p (c.decl message)) message sender pinned
        (b.record (.arrived message)) shown b') :
      Visits message sender pinned b shown (b'.record (.left message))

/-- What handlers show for a message, in turn. -/
inductive VisitsEach : List c.Ref → c.Ref → Option String → Option String → Book c →
    List Fragment → Book c → Prop
  | nil {message : c.Ref} {sender pinned : Option String} {b : Book c} :
      VisitsEach [] message sender pinned b [] b
  | cons {handler message : c.Ref} {rest : List c.Ref} {sender pinned : Option String}
      {b b' b'' : Book c} {inner others : List Fragment}
      (hinner : FollowsUp handler message sender pinned (b.opened p handler message) inner b')
      (hothers : VisitsEach rest message sender pinned (b'.closed p handler message pinned)
        others b'') :
      VisitsEach (handler :: rest) message sender pinned b
        (.arrow (c.arrowTo p sender message handler) :: inner ++ others) b''

/-- What follows the arrow to a handler. -/
inductive FollowsUp : c.Ref → c.Ref → Option String → Option String → Book c →
    List Fragment → Book c → Prop
  | reentered {handler message : c.Ref} {sender pinned : Option String} {b : Book c}
      (hmem : c.visitOf handler message ∈ b.trail.visits) :
      FollowsUp handler message sender pinned b []
        (b.record (.reentered (c.visitOf handler message)))
  | unhandled {handler message : c.Ref} {sender pinned : Option String} {b : Book c}
      (hfree : c.visitOf handler message ∉ b.trail.visits)
      (hnone : c.handlingMethod p handler (c.decl message) = none) :
      FollowsUp handler message sender pinned b [] b
  | entered {handler message : c.Ref} {sender pinned : Option String} {b b' : Book c}
      {m : c.MethodRef} {shown : List Fragment}
      (hfree : c.visitOf handler message ∉ b.trail.visits)
      (hm : c.handlingMethod p handler (c.decl message) = some m)
      (hbody : WalksAll handler (sender.or (p.serviceOf (c.decl handler)))
        (pinned.or (p.serviceOf (c.decl handler))) m.body
        ((b.enter (c.visitOf handler message)).record (.entered (c.visitOf handler message) m))
        shown b') :
      FollowsUp handler message sender pinned b shown (b'.leave b.trail.inlined)

/-- What a statement shows in a body that runs for a handler. The service that the body was
called from goes with it, though no step looks at it. -/
inductive Walks : c.Ref → Option String → Option String → Statement (Call c) → Book c →
    List Fragment → Book c → Prop
  | lost {handler : c.Ref} {current pinned : Option String} {call : Call c} {b : Book c}
      (hpub : p.publishes call.invocation = true)
      (hmessage : c.messageOf p call.invocation = none) :
      Walks handler current pinned (.call call) b [] (b.record (.published handler call.invocation))
  | sent {handler message : c.Ref} {current pinned : Option String} {call : Call c}
      {b b' : Book c} {shown : List Fragment} (hpub : p.publishes call.invocation = true)
      (hmessage : c.messageOf p call.invocation = some message)
      (hvisit : Visits message (p.serviceOf (c.decl handler)) pinned
        (b.record (.published handler call.invocation)) shown b') :
      Walks handler current pinned (.call call) b shown b'
  | unresolved {handler : c.Ref} {current pinned : Option String} {call : Call c} {b : Book c}
      (hpub : p.publishes call.invocation = false) (hres : c.resolve call.invocation = none) :
      Walks handler current pinned (.call call) b [] (b.consulted p call)
  | inlining {handler : c.Ref} {current pinned : Option String} {call : Call c}
      {m : c.MethodRef} {b : Book c} (hm : c.LandsOn p call.invocation m)
      (hmem : m ∈ b.trail.inlined) :
      Walks handler current pinned (.call call) b [] (b.consulted p call)
  | inlined {handler : c.Ref} {current pinned : Option String} {call : Call c}
      {m : c.MethodRef} {b b' : Book c} {shown : List Fragment}
      (hm : c.LandsOn p call.invocation m) (hfree : m ∉ b.trail.inlined)
      (hbody : WalksAll handler current pinned (c.inlinedBody p call m)
        (((b.consulted p call).enterInlined m).record (.inlined m)) shown b') :
      Walks handler current pinned (.call call) b shown b'.leaveInlined
  | conditional {handler : c.Ref} {current pinned : Option String}
      {arms : List (Arm String (Statement (Call c)))} {b b' : Book c}
      {sections : List (String × List Fragment)}
      (harms : WalksSections handler current pinned (labelArms arms) b sections b') :
      Walks handler current pinned (.conditional arms) b (Fragment.group .conditional sections) b'
  | switch {handler : c.Ref} {current pinned : Option String} {subject : String}
      {arms : List (Arm (List String) (Statement (Call c)))} {b b' : Book c}
      {sections : List (String × List Fragment)}
      (harms : WalksSections handler current pinned (labelCases arms) b sections b') :
      Walks handler current pinned (.switch subject arms) b (Fragment.group .case sections) b'
  | forEach {handler : c.Ref} {current pinned : Option String} {items : String}
      {body : List (Statement (Call c))} {b b' : Book c} {sections : List (String × List Fragment)}
      (hbody : WalksSections handler current pinned [(items, body)] b sections b') :
      Walks handler current pinned (.forEach items body) b (Fragment.group .forEach sections) b'
  | block {handler : c.Ref} {current pinned : Option String} {body : List (Statement (Call c))}
      {b : Book c} : Walks handler current pinned (.block body) b [] b

/-- What the statements of a body show, in order. -/
inductive WalksAll : c.Ref → Option String → Option String → List (Statement (Call c)) →
    Book c → List Fragment → Book c → Prop
  | nil {handler : c.Ref} {current pinned : Option String} {b : Book c} :
      WalksAll handler current pinned [] b [] b
  | cons {handler : c.Ref} {current pinned : Option String} {statement : Statement (Call c)}
      {rest : List (Statement (Call c))} {b b' b'' : Book c} {first others : List Fragment}
      (hfirst : Walks handler current pinned statement b first b')
      (hothers : WalksAll handler current pinned rest b' others b'') :
      WalksAll handler current pinned (statement :: rest) b (first ++ others) b''

/-- What labelled bodies show, in order. -/
inductive WalksSections : c.Ref → Option String → Option String →
    List (String × List (Statement (Call c))) → Book c → List (String × List Fragment) →
    Book c → Prop
  | nil {handler : c.Ref} {current pinned : Option String} {b : Book c} :
      WalksSections handler current pinned [] b [] b
  | cons {handler : c.Ref} {current pinned : Option String} {label : String}
      {body : List (Statement (Call c))} {rest : List (String × List (Statement (Call c)))}
      {b b' b'' : Book c} {first : List Fragment} {others : List (String × List Fragment)}
      (hfirst : WalksAll handler current pinned body b first b')
      (hothers : WalksSections handler current pinned rest b' others b'') :
      WalksSections handler current pinned ((label, body) :: rest) b ((label, first) :: others) b''

end

end inPlace

variable {c : Codebase} {p : Profile}

/-! ## The same outcome as on a trail that is only handed down -/

/-- Whether a run shows what a walk does and leaves its ledger behind, with the trail of the
walk as it was. -/
def Outcome {α : Type} (trail : Trail c) (done : α × Ledger c) (shown : α) (b : Book c) : Prop :=
  shown = done.1 ∧ b = ⟨trail, done.2⟩

section steps

variable {handler message : c.Ref} {sender current pinned : Option String} {trail : Trail c}

/-- A body has the outcome of its walk if its statements have theirs. -/
theorem walksAll_iff_of_forall {body : List (Statement (Call c))}
    (h : ∀ s ∈ body, ∀ l shown b', Walks c p handler current pinned s ⟨trail, l⟩ shown b' ↔
      Outcome trail (walk c p handler pinned trail s l) shown b') (l : Ledger c)
    (shown : List Fragment) (b' : Book c) :
    WalksAll c p handler current pinned body ⟨trail, l⟩ shown b' ↔
      Outcome trail (walkAll c p handler pinned trail body l) shown b' := by
  induction body generalizing l shown b' with
  | nil =>
    rw [walkAll]
    constructor
    · rintro ⟨⟩
      exact ⟨rfl, rfl⟩
    · rintro ⟨rfl, rfl⟩
      exact .nil
  | cons s rest ih =>
    obtain ⟨hs, hrest⟩ := List.forall_mem_cons.1 h
    rw [walkAll]
    constructor
    · intro hrun
      cases hrun with
      | cons hfirst hothers =>
        obtain ⟨rfl, rfl⟩ := (hs _ _ _).1 hfirst
        obtain ⟨rfl, rfl⟩ := (ih hrest _ _ _).1 hothers
        exact ⟨rfl, rfl⟩
    · rintro ⟨rfl, rfl⟩
      exact .cons ((hs _ _ _).2 ⟨rfl, rfl⟩) ((ih hrest _ _ _).2 ⟨rfl, rfl⟩)

/-- Labelled bodies have the outcome of their walk if their statements have theirs. -/
theorem walksSections_iff_of_forall (sections : List (String × List (Statement (Call c))))
    (h : ∀ part ∈ sections, ∀ s ∈ part.2, ∀ l shown b',
      Walks c p handler current pinned s ⟨trail, l⟩ shown b' ↔
        Outcome trail (walk c p handler pinned trail s l) shown b') (l : Ledger c)
    (shown : List (String × List Fragment)) (b' : Book c) :
    WalksSections c p handler current pinned sections ⟨trail, l⟩ shown b' ↔
      Outcome trail (walkSections c p handler pinned trail sections l) shown b' := by
  induction sections generalizing l shown b' with
  | nil =>
    rw [walkSections]
    constructor
    · rintro ⟨⟩
      exact ⟨rfl, rfl⟩
    · rintro ⟨rfl, rfl⟩
      exact .nil
  | cons part rest ih =>
    obtain ⟨label, body⟩ := part
    obtain ⟨hbody, hrest⟩ := List.forall_mem_cons.1 h
    rw [walkSections]
    constructor
    · intro hrun
      cases hrun with
      | cons hfirst hothers =>
        obtain ⟨rfl, rfl⟩ := (walksAll_iff_of_forall hbody _ _ _).1 hfirst
        obtain ⟨rfl, rfl⟩ := (ih hrest _ _ _).1 hothers
        exact ⟨rfl, rfl⟩
    · rintro ⟨rfl, rfl⟩
      exact .cons ((walksAll_iff_of_forall hbody _ _ _).2 ⟨rfl, rfl⟩)
        ((ih hrest _ _ _).2 ⟨rfl, rfl⟩)

/-- What follows the arrow to a handler has the outcome it has in a walk if the statements of
the handling method have theirs: the visit is popped and the methods set aside are taken up. -/
theorem followsUp_iff_of_forall
    (h : ∀ m, c.visitOf handler message ∉ trail.visits →
      c.handlingMethod p handler (c.decl message) = some m → ∀ s ∈ m.body,
      ∀ current pinned l shown b', Walks c p handler current pinned s
          ⟨trail.enter (c.visitOf handler message), l⟩ shown b' ↔
        Outcome (trail.enter (c.visitOf handler message))
          (walk c p handler pinned (trail.enter (c.visitOf handler message)) s l) shown b')
    (l : Ledger c) (shown : List Fragment) (b' : Book c) :
    FollowsUp c p handler message sender pinned ⟨trail, l⟩ shown b' ↔
      Outcome trail (followUp p handler message pinned trail l) shown b' := by
  unfold followUp
  split
  next hmem =>
    constructor
    · intro hrun
      cases hrun with
      | reentered _ => exact ⟨rfl, rfl⟩
      | unhandled hfree _ | entered hfree _ _ => exact absurd hmem hfree
    · rintro ⟨rfl, rfl⟩
      exact .reentered hmem
  next hfree =>
    cases hm : c.handlingMethod p handler (c.decl message) with
    | none =>
      constructor
      · intro hrun
        cases hrun with
        | reentered hmem => exact absurd hmem hfree
        | unhandled _ _ => exact ⟨rfl, rfl⟩
        | entered _ hsome _ => simp [hm] at hsome
      · rintro ⟨rfl, rfl⟩
        exact .unhandled hfree hm
    | some m =>
      have hbody := walksAll_iff_of_forall (p := p) fun s hs =>
        h m hfree hm s hs (sender.or (p.serviceOf (c.decl handler)))
          (pinned.or (p.serviceOf (c.decl handler)))
      constructor
      · intro hrun
        cases hrun with
        | reentered hmem => exact absurd hmem hfree
        | unhandled _ hnone => simp [hm] at hnone
        | entered _ hsome hrun =>
          obtain rfl := Option.some.inj (hm.symm.trans hsome)
          -- the body gives back the trail it was entered on, so that leaving undoes entering
          obtain ⟨rfl, rfl⟩ := (hbody _ _ _).1 hrun
          exact ⟨rfl, rfl⟩
      · rintro ⟨rfl, rfl⟩
        have hrun := (hbody (l.record (trail.enter (c.visitOf handler message))
          (.entered (c.visitOf handler message) m)) _ _).2 ⟨rfl, rfl⟩
        exact FollowsUp.entered (b := ⟨trail, l⟩) hfree hm hrun

/-- Handlers have the outcome of visits to them if what follows the arrows has it. -/
theorem visitsEach_iff_of_forall (sender pinned : Option String) {handlers : List c.Ref}
    (h : ∀ handler ∈ handlers, ∀ l shown b',
      FollowsUp c p handler message sender pinned ⟨trail, l⟩ shown b' ↔
        Outcome trail (followUp p handler message pinned trail l) shown b') (l : Ledger c)
    (shown : List Fragment) (b' : Book c) :
    VisitsEach c p handlers message sender pinned ⟨trail, l⟩ shown b' ↔
      Outcome trail (visitEach c p handlers message sender pinned trail l) shown b' := by
  induction handlers generalizing l shown b' with
  | nil =>
    rw [visitEach_nil]
    constructor
    · rintro ⟨⟩
      exact ⟨rfl, rfl⟩
    · rintro ⟨rfl, rfl⟩
      exact .nil
  | cons handler rest ih =>
    obtain ⟨hhandler, hrest⟩ := List.forall_mem_cons.1 h
    rw [visitEach_cons]
    constructor
    · intro hrun
      cases hrun with
      | cons hinner hothers =>
        obtain ⟨rfl, rfl⟩ := (hhandler _ _ _).1 hinner
        obtain ⟨rfl, rfl⟩ := (ih hrest _ _ _).1 hothers
        exact ⟨rfl, rfl⟩
    · rintro ⟨rfl, rfl⟩
      exact .cons ((hhandler _ _ _).2 ⟨rfl, rfl⟩) ((ih hrest _ _ _).2 ⟨rfl, rfl⟩)

end steps

/-- Visits and statements have in place the outcomes they have in a walk. -/
theorem inPlace_iff :
    (∀ (message : c.Ref) (sender : Option String) (trail : Trail c), ∀ pinned l shown b',
      Visits c p message sender pinned ⟨trail, l⟩ shown b' ↔
        Outcome trail (visit c p message sender pinned trail l) shown b') ∧
    ∀ (handler : c.Ref) (trail : Trail c) (s : Statement (Call c)), ∀ current pinned l shown b',
      Walks c p handler current pinned s ⟨trail, l⟩ shown b' ↔
        Outcome trail (walk c p handler pinned trail s l) shown b' := by
  apply walk_induction
  case deep =>
    intro message sender trail hdeep pinned l shown b'
    rw [visit_of_deep hdeep]
    constructor
    · intro hrun
      cases hrun with
      | tooDeep _ => exact ⟨rfl, rfl⟩
      | handled hlt _ => exact absurd hdeep (Nat.not_le.2 hlt)
    · rintro ⟨rfl, rfl⟩
      exact .tooDeep hdeep
  case handled =>
    intro message sender trail hlt ih pinned l shown b'
    have heach := visitsEach_iff_of_forall sender pinned
      fun handler hmem => followsUp_iff_of_forall (ih handler hmem)
    rw [visit_of_lt hlt]
    constructor
    · intro hrun
      cases hrun with
      | tooDeep hdeep => exact absurd hdeep (Nat.not_le.2 hlt)
      | handled _ hrun =>
        obtain ⟨rfl, rfl⟩ := (heach _ _ _).1 hrun
        exact ⟨rfl, rfl⟩
    · rintro ⟨rfl, rfl⟩
      have hrun := (heach (l.record trail (.arrived message)) _ _).2 ⟨rfl, rfl⟩
      exact Visits.handled (b := ⟨trail, l⟩) hlt hrun
  case publishes =>
    intro handler trail call hpub ih current pinned l shown b'
    rw [walk_of_publishes hpub]
    cases hmessage : c.messageOf p call.invocation with
    | none =>
      constructor
      · intro hrun
        cases hrun with
        | lost _ _ => exact ⟨rfl, rfl⟩
        | sent _ hsome _ => simp [hmessage] at hsome
        | unresolved hplain _ => simp [hpub] at hplain
        | inlining hm _ | inlined hm _ _ => exact absurd hm (Codebase.not_landsOn hpub)
      · rintro ⟨rfl, rfl⟩
        exact .lost hpub hmessage
    | some message =>
      rw [← ih message hmessage]
      constructor
      · intro hrun
        cases hrun with
        | lost _ hnone => simp [hmessage] at hnone
        | sent _ hsome hvisit =>
          obtain rfl := Option.some.inj (hmessage.symm.trans hsome)
          exact hvisit
        | unresolved hplain _ => simp [hpub] at hplain
        | inlining hm _ | inlined hm _ _ => exact absurd hm (Codebase.not_landsOn hpub)
      · exact Walks.sent (b := ⟨trail, l⟩) hpub hmessage
  case unresolved =>
    intro handler trail call hpub hnone current pinned l shown b'
    rw [walk_of_resolve_eq_none hpub hnone]
    constructor
    · intro hrun
      cases hrun with
      | lost hsent _ | sent hsent _ _ => simp [hpub] at hsent
      | unresolved _ _ => exact ⟨rfl, rfl⟩
      | inlining hm _ | inlined hm _ _ => simp [hm.2] at hnone
    · rintro ⟨rfl, rfl⟩
      exact .unresolved hpub hnone
  case inlining =>
    intro handler trail call m hm hmem current pinned l shown b'
    rw [walk_of_mem hm hmem]
    constructor
    · intro hrun
      cases hrun with
      | lost hsent _ | sent hsent _ _ => exact absurd hm (Codebase.not_landsOn hsent)
      | unresolved _ hnone => simp [hm.2] at hnone
      | inlining _ _ => exact ⟨rfl, rfl⟩
      | inlined hm' hfree _ =>
        obtain rfl := hm.unique hm'
        exact absurd hmem hfree
    · rintro ⟨rfl, rfl⟩
      exact .inlining hm hmem
  case inlines =>
    intro handler trail call m hm hfree ih current pinned l shown b'
    have hbody := walksAll_iff_of_forall (p := p) fun s hs => ih s hs current pinned
    rw [walk_of_notMem hm hfree]
    constructor
    · intro hrun
      cases hrun with
      | lost hsent _ | sent hsent _ _ => exact absurd hm (Codebase.not_landsOn hsent)
      | unresolved _ hnone => simp [hm.2] at hnone
      | inlining hm' hmem =>
        obtain rfl := hm.unique hm'
        exact absurd hmem hfree
      | inlined hm' _ hrun =>
        obtain rfl := hm.unique hm'
        obtain ⟨rfl, rfl⟩ := (hbody _ _ _).1 hrun
        exact ⟨rfl, rfl⟩
    · rintro ⟨rfl, rfl⟩
      have hrun := (hbody ((l.consulted p trail call).record (trail.enterInlined m) (.inlined m))
        _ _).2 ⟨rfl, rfl⟩
      exact Walks.inlined (b := ⟨trail, l⟩) hm hfree hrun
  case conditional =>
    intro handler trail arms ih current pinned l shown b'
    have harms := walksSections_iff_of_forall (p := p) (labelArms arms)
      fun part hpart s hs => ih part hpart s hs current pinned
    rw [walk]
    constructor
    · intro hrun
      cases hrun with
      | conditional hrun =>
        obtain ⟨rfl, rfl⟩ := (harms _ _ _).1 hrun
        exact ⟨rfl, rfl⟩
    · rintro ⟨rfl, rfl⟩
      exact .conditional ((harms _ _ _).2 ⟨rfl, rfl⟩)
  case switch =>
    intro handler trail subject arms ih current pinned l shown b'
    have harms := walksSections_iff_of_forall (p := p) (labelCases arms)
      fun part hpart s hs => ih part hpart s hs current pinned
    rw [walk]
    constructor
    · intro hrun
      cases hrun with
      | switch hrun =>
        obtain ⟨rfl, rfl⟩ := (harms _ _ _).1 hrun
        exact ⟨rfl, rfl⟩
    · rintro ⟨rfl, rfl⟩
      exact .switch ((harms _ _ _).2 ⟨rfl, rfl⟩)
  case forEach =>
    intro handler trail items body ih current pinned l shown b'
    have hbody := walksSections_iff_of_forall (p := p) [(items, body)]
      fun part hpart s hs => ih part hpart s hs current pinned
    rw [walk]
    constructor
    · intro hrun
      cases hrun with
      | forEach hrun =>
        obtain ⟨rfl, rfl⟩ := (hbody _ _ _).1 hrun
        exact ⟨rfl, rfl⟩
    · rintro ⟨rfl, rfl⟩
      exact .forEach ((hbody _ _ _).2 ⟨rfl, rfl⟩)
  case block =>
    intro handler trail body current pinned l shown b'
    rw [walk]
    constructor
    · intro hrun
      cases hrun with
      | block => exact ⟨rfl, rfl⟩
    · rintro ⟨rfl, rfl⟩
      exact .block

/-! ## What is left behind does not show -/

section outcomes

variable {handler message : c.Ref} {sender current pinned : Option String} {b b' : Book c}

theorem exists_outcome_iff {α : Type} {trail : Trail c} {done : α × Ledger c} {shown : α} :
    (∃ b, Outcome trail done shown b) ↔ shown = done.1 :=
  ⟨fun ⟨_, hshown, _⟩ => hshown, fun hshown => ⟨_, hshown, rfl⟩⟩

theorem visits_iff {shown : List Fragment} :
    Visits c p message sender pinned b shown b' ↔
      Outcome b.trail (visit c p message sender pinned b.trail b.ledger) shown b' :=
  inPlace_iff.1 message sender b.trail pinned b.ledger shown b'

theorem walksAll_iff {body : List (Statement (Call c))} {shown : List Fragment} :
    WalksAll c p handler current pinned body b shown b' ↔
      Outcome b.trail (walkAll c p handler pinned b.trail body b.ledger) shown b' :=
  walksAll_iff_of_forall (fun s _ => inPlace_iff.2 handler b.trail s current pinned) b.ledger
    shown b'

theorem walksSections_iff {sections : List (String × List (Statement (Call c)))}
    {shown : List (String × List Fragment)} :
    WalksSections c p handler current pinned sections b shown b' ↔
      Outcome b.trail (walkSections c p handler pinned b.trail sections b.ledger) shown b' :=
  walksSections_iff_of_forall sections
    (fun _ _ s _ => inPlace_iff.2 handler b.trail s current pinned) b.ledger shown b'

/-- The trail is restored on every way out of a visit. -/
theorem Visits.trail_eq {shown : List Fragment} (h : Visits c p message sender pinned b shown b') :
    b'.trail = b.trail := by
  obtain ⟨-, rfl⟩ := visits_iff.1 h
  rfl

theorem exists_visits_iff {shown : List Fragment} :
    (∃ b', Visits c p message sender pinned b shown b') ↔
      shown = c.drawVisit p message sender b.trail.visits := by
  simp only [visits_iff, exists_outcome_iff, visit_fst]

theorem exists_walksAll_iff {body : List (Statement (Call c))} {shown : List Fragment} :
    (∃ b', WalksAll c p handler current pinned body b shown b') ↔
      shown = body.flatMap (draw (c.drawCall p handler b.trail)) := by
  simp only [walksAll_iff, exists_outcome_iff, ← drawBody_eq_flatMap,
    walkAll_fst_of_forall fun s _ => walk_fst s]

theorem exists_walksSections_iff {sections : List (String × List (Statement (Call c)))}
    {shown : List (String × List Fragment)} :
    (∃ b', WalksSections c p handler current pinned sections b shown b') ↔
      shown = sections.map fun part =>
        (part.1, drawBody (c.drawCall p handler b.trail) part.2) := by
  simp only [walksSections_iff, exists_outcome_iff,
    walkSections_fst_of_forall fun _ _ s _ => walk_fst s]

end outcomes

/-- Whether one run, with participants of its own to add to, takes one book to another. -/
def Visited (c : Codebase) (p : Profile) (b b' : Book c) : Prop :=
  ∃ message sender pinned participants shown,
    Visits c p message sender pinned (b.handed participants) shown b'

/-- Runs one after another leave the trail as it was before the first. -/
theorem trail_eq_of_visited {b b' : Book c} (h : ReflTransGen (Visited c p) b b') :
    b'.trail = b.trail := by
  induction h with
  | refl => rfl
  | tail _ hlast ih =>
    obtain ⟨message, sender, pinned, participants, shown, hlast⟩ := hlast
    exact hlast.trail_eq.trans ih

/-- What a walk has on record does not get into what it shows. Every visit restores the trail;
after any runs on one book the next shows what it would on a fresh one, whatever the
participants, the active services and the pinned service; its sender is but the source of the
arrows to the handlers of its own message. So each handler, each statement of a body and each
section of a group shows the same, whatever went before it. -/
theorem visits_leave_no_trace (c : Codebase) (p : Profile) :
    (∀ message sender pinned b shown b', Visits c p message sender pinned b shown b' →
      b'.trail = b.trail) ∧
    (∀ b, ReflTransGen (Visited c p) {} b → ∀ message sender pinned participants shown,
      (∃ b', Visits c p message sender pinned (b.handed participants) shown b') ↔
        shown = (visit c p message sender none {} {}).1) ∧
    (∀ message sender pinned b shown, (∃ b', Visits c p message sender pinned b shown b') ↔
      shown = if p.maxDepth ≤ b.trail.visits.length then [] else
        (c.handlers p (c.decl message)).flatMap fun handler =>
          .arrow { c.arrowTo p none message handler with
            source := sender.getD p.externalActor } ::
          (followUp p handler message none b.trail {}).1) ∧
    (∀ handler current pinned body b shown,
      (∃ b', WalksAll c p handler current pinned body b shown b') ↔
        shown = body.flatMap fun s => (walk c p handler none b.trail s {}).1) ∧
    ∀ handler current pinned sections b shown,
      (∃ b', WalksSections c p handler current pinned sections b shown b') ↔
        shown = sections.map fun part =>
          (part.1, (walkAll c p handler none b.trail part.2 {}).1) := by
  refine ⟨fun _ _ _ _ _ _ h => h.trail_eq, fun b hb message sender pinned participants shown => ?_,
    fun message sender pinned b shown => ?_, fun handler current pinned body b shown => ?_,
    fun handler current pinned sections b shown => ?_⟩
  · have htrail : (b.handed participants).trail = {} := trail_eq_of_visited hb
    rw [exists_visits_iff, htrail, visit_fst]
  · rw [exists_visits_iff]
    split
    next hdeep => rw [Codebase.drawVisit_of_deep hdeep]
    next hlt =>
      simp only [Codebase.drawVisit_of_lt (Nat.not_le.1 hlt), followUp_fst]
      rfl
  · simp only [exists_walksAll_iff, walk_fst]
  · simp only [exists_walksSections_iff,
      walkAll_fst_of_forall fun s _ => walk_fst s]

namespace Relay

/-- A run that branched off at the store left it active, and the next one shows no trace of
it. -/
theorem shop_shows_again : ∃ b, ReflTransGen (Visited shop .sample) {} b ∧
    b.ledger.active = ["Store"] ∧
    ∃ b', Visits shop .sample placed none (some "Mall") (b.handed ["Web"])
      (visit shop .sample placed none none {} {}).1 b' := by
  obtain ⟨-, hnext, -⟩ := visits_leave_no_trace shop .sample
  let b : Book shop :=
    ⟨{}, (visit shop .sample placed (some "Web") (some "Store") {} {}).2⟩
  have hb : ReflTransGen (Visited shop .sample) {} b :=
    .single ⟨placed, some "Web", some "Store", [], _, visits_iff.2 ⟨rfl, rfl⟩⟩
  exact ⟨b, hb, by cbv, (hnext b hb placed none (some "Mall") ["Web"] _).2 rfl⟩

end Relay

end Ripple
