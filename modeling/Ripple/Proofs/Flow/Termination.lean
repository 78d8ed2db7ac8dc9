import Ripple.Proofs.Code.Size
import Ripple.Proofs.Flow.Induction

/-!
# How deep the recursion goes

The walk is a recursion of five functions with no argument that always shrinks: a publishing
call starts over with no method inlined, inlining puts a larger body in place of a call, and
bodies put in branches are not on the trail. `visitWithin` and its companions are the same
recursion with nothing but a limit on how deep calls may nest, and give up at that limit.

`Codebase.depthBound` is a limit that no visit reaches. It is computed from the types alone, so
the limit on nested messages plays no part in it.
-/

namespace Ripple

open Statement

section within

variable (c : Codebase) (p : Profile)

mutual

/-- Takes a message to all its handlers, unless calls nest too deep. -/
def visitWithin (depth : Nat) (message : c.Ref) (sender pinned : Option String) (trail : Trail c)
    (l : Ledger c) : Option (List Fragment × Ledger c) :=
  match depth with
  | 0 => none
  | depth + 1 =>
    let l := l.record trail (.arrived message)
    if p.maxDepth ≤ trail.visits.length then
      some ([], (l.record trail (.tooDeep message)).record trail (.left message))
    else do
      let done ← visitEachWithin depth (c.handlers p (c.decl message)) message sender pinned trail l
      some (done.1, done.2.record trail (.left message))

/-- Takes a message to each of some handlers in turn, unless calls nest too deep. -/
def visitEachWithin (depth : Nat) (handlers : List c.Ref) (message : c.Ref)
    (sender pinned : Option String) (trail : Trail c) (l : Ledger c) :
    Option (List Fragment × Ledger c) :=
  match depth with
  | 0 => none
  | depth + 1 =>
    match handlers with
    | [] => some ([], l)
    | handler :: rest => do
      let key := c.visitOf handler message
      let service := p.serviceOf (c.decl handler)
      let l := l.opened p handler message trail
      let inner? : Option (List Fragment × Ledger c) :=
        if key ∈ trail.visits then some ([], l.record trail (.reentered key))
        else
          match c.handlingMethod p handler (c.decl message) with
          | none => some ([], l)
          | some m =>
            walkAllWithin depth handler (pinned.or service) (trail.enter key) m.body
              (l.record (trail.enter key) (.entered key m))
      let inner ← inner?
      let others ← visitEachWithin depth rest message sender pinned trail
        (inner.2.closed p handler message pinned trail)
      some (.arrow (c.arrowTo p sender message handler) :: inner.1 ++ others.1, others.2)

/-- Walks one statement, unless calls nest too deep. -/
def walkWithin (depth : Nat) (handler : c.Ref) (pinned : Option String) (trail : Trail c)
    (statement : Statement (Call c)) (l : Ledger c) : Option (List Fragment × Ledger c) :=
  match depth with
  | 0 => none
  | depth + 1 =>
    match statement with
    | .call target =>
      if p.publishes target.invocation then
        let l := l.record trail (.published handler target.invocation)
        match c.messageOf p target.invocation with
        | none => some ([], l)
        | some message => visitWithin depth message (p.serviceOf (c.decl handler)) pinned trail l
      else
        let l := l.consulted p trail target
        match c.inline? p target with
        | none => some ([], l)
        | some inlined =>
          if trail.inlined.contains inlined.method then some ([], l)
          else
            walkAllWithin depth handler pinned (trail.enterInlined inlined.method)
              inlined.statements
              (l.record (trail.enterInlined inlined.method) (.inlined inlined.method))
    | .conditional arms => do
      let sections ← walkSectionsWithin depth handler pinned trail (labelArms arms) l
      some (Fragment.group .conditional sections.1, sections.2)
    | .switch _ arms => do
      let sections ← walkSectionsWithin depth handler pinned trail (labelCases arms) l
      some (Fragment.group .case sections.1, sections.2)
    | .forEach items body => do
      let sections ← walkSectionsWithin depth handler pinned trail [(items, body)] l
      some (Fragment.group .forEach sections.1, sections.2)
    | .block _ => some ([], l)

/-- Walks the statements of a body in order, unless calls nest too deep. -/
def walkAllWithin (depth : Nat) (handler : c.Ref) (pinned : Option String) (trail : Trail c)
    (body : List (Statement (Call c))) (l : Ledger c) : Option (List Fragment × Ledger c) :=
  match depth with
  | 0 => none
  | depth + 1 =>
    match body with
    | [] => some ([], l)
    | statement :: rest => do
      let first ← walkWithin depth handler pinned trail statement l
      let others ← walkAllWithin depth handler pinned trail rest first.2
      some (first.1 ++ others.1, others.2)

/-- Walks labelled bodies in order, unless calls nest too deep. -/
def walkSectionsWithin (depth : Nat) (handler : c.Ref) (pinned : Option String) (trail : Trail c)
    (sections : List (String × List (Statement (Call c)))) (l : Ledger c) :
    Option (List (String × List Fragment) × Ledger c) :=
  match depth with
  | 0 => none
  | depth + 1 =>
    match sections with
    | [] => some ([], l)
    | (label, body) :: rest => do
      let first ← walkAllWithin depth handler pinned trail body l
      let others ← walkSectionsWithin depth handler pinned trail rest first.2
      some ((label, first.1) :: others.1, others.2)

end

end within

namespace Codebase

variable {c : Codebase} {p : Profile}

/-! ## Sizes -/

/-- The size of all the bodies of a codebase together. -/
def bodySize (c : Codebase) : Nat :=
  sizeOfBody (c.methodRefs.flatMap fun m => m.method.statements)

/-- A size that no body exceeds, as it is written or as it is inlined. -/
def inlinedSize (c : Codebase) : Nat := (c.bodySize + 3) * c.bodySize

theorem sizeOfBody_body (m : c.MethodRef) :
    sizeOfBody m.body = sizeOfBody m.method.statements :=
  sizeOfBody_mapBodyAt _ [] 0 m.method.statements

theorem sizeOfBody_body_le_bodySize (m : c.MethodRef) : sizeOfBody m.body ≤ c.bodySize := by
  rw [sizeOfBody_body, bodySize]
  exact sizeOfBody_le_of_mem (f := fun m : c.MethodRef => m.method.statements) (mem_methodRefs m)

theorem bodySize_le_inlinedSize (c : Codebase) : c.bodySize ≤ c.inlinedSize :=
  Nat.le_mul_of_pos_left _ (Nat.succ_pos _)

theorem sizeOfBody_standIn_le (origin call : Call c) :
    sizeOfBody (c.standIn p origin call) ≤ c.bodySize + 2 := by
  unfold standIn
  split
  · exact Nat.zero_le _
  split
  · simp [sizeOfBody, Statement.size]
  split
  next m _ =>
    calc sizeOfBody (m.body.filter (!·.isCallAt origin))
        ≤ sizeOfBody m.body := sizeOfBody_filter_le _ _
      _ ≤ c.bodySize + 2 := Nat.le_add_right_of_le (sizeOfBody_body_le_bodySize m)
  · simp [sizeOfBody, Statement.size]

theorem sizeOfBody_unfold_le (origin : Call c) (s : Statement (Call c)) :
    sizeOfBody (c.unfold p origin s) ≤ (c.bodySize + 3) * (s.size + 1) := by
  unfold unfold
  split
  · exact Nat.zero_le _
  split
  · rw [sizeOfBody_map_map]
    exact sizeOfBody_replace_le (sizeOfBody_standIn_le origin) s
  · rw [sizeOfBody_singleton]
    exact Nat.le_mul_of_pos_left _ (Nat.succ_pos _)

theorem sizeOfBody_inlinedBody_le (origin : Call c) (m : c.MethodRef) :
    sizeOfBody (c.inlinedBody p origin m) ≤ c.inlinedSize :=
  calc sizeOfBody (c.inlinedBody p origin m)
      ≤ (c.bodySize + 3) * sizeOfBody m.body :=
        sizeOfBody_flatMap_le fun s _ => sizeOfBody_unfold_le origin s
    _ ≤ c.inlinedSize := Nat.mul_le_mul_left _ (sizeOfBody_body_le_bodySize m)

theorem length_handlers_le (message : TypeDecl) :
    (c.handlers p message).length ≤ c.types.length + 1 := by
  have hevents : (c.eventHandlers p message).length ≤ c.types.length := by
    rw [eventHandlers, refs]
    exact (List.length_filter_le _ _).trans (by simp)
  have hcommand : (c.commandHandler p message).toList.length ≤ 1 := by
    cases c.commandHandler p message <;> simp
  rw [handlers, List.length_append]
  exact Nat.add_le_add hevents hcommand

/-! ## Depths -/

/-- How much deeper calls may nest with one more visit that is not going on. -/
def visitSpan (c : Codebase) : Nat :=
  (c.methodRefs.length + 1) * (c.inlinedSize + 2) + c.types.length + 3

/-- How deep a visit nests calls, by the visits that are not going on. -/
def visitDepth (c : Codebase) (visits : Nat) : Nat :=
  visits * c.visitSpan + c.types.length + 3

/-- How deep a walk nests calls, less the size of what is walked, by the visits that are not
going on and the methods that are not being inlined. -/
def walkDepth (c : Codebase) (visits methods : Nat) : Nat :=
  c.visitDepth visits + methods * (c.inlinedSize + 2)

/-- A limit on the depth of calls that no visit reaches. -/
def depthBound (c : Codebase) : Nat := c.visitDepth c.allVisits.length

/-- Entering a visit leaves room for the walk of any body. -/
theorem walkDepth_add_le {visits visits' : Nat} (h : visits' < visits) :
    c.walkDepth visits' c.methodRefs.length + c.inlinedSize + 1 ≤ visits * c.visitSpan := by
  have hspan : (visits' + 1) * c.visitSpan ≤ visits * c.visitSpan := Nat.mul_le_mul_right _ h
  rw [Nat.add_mul, Nat.one_mul] at hspan
  refine Nat.le_trans ?_ hspan
  rw [walkDepth, visitDepth, visitSpan, Nat.add_mul c.methodRefs.length]
  omega

/-- Inlining a method leaves room for the walk of its body. -/
theorem walkDepth_add_lt {visits methods methods' : Nat} (h : methods' < methods) :
    c.walkDepth visits methods' + c.inlinedSize + 1 < c.walkDepth visits methods := by
  have hspan : (methods' + 1) * (c.inlinedSize + 2) ≤ methods * (c.inlinedSize + 2) :=
    Nat.mul_le_mul_right _ h
  rw [Nat.add_mul, Nat.one_mul] at hspan
  rw [walkDepth, walkDepth]
  omega

theorem visitDepth_le_walkDepth (c : Codebase) (visits methods : Nat) :
    c.visitDepth visits ≤ c.walkDepth visits methods :=
  Nat.le_add_right _ _

theorem idleMethods_enter (trail : Trail c) (v : Visit) :
    c.idleMethods (trail.enter v) = c.methodRefs.length := by
  simp [idleMethods, Trail.enter]

end Codebase

/-! ## The recursion with a limit -/

/-- Whether the recursion with a limit does what the walk does wherever the limit leaves room
for the depth. -/
structure Agrees (c : Codebase) (p : Profile) (depth : Nat) : Prop where
  visit : ∀ message sender pinned trail l, c.visitDepth (c.idleVisits trail) ≤ depth →
    visitWithin c p depth message sender pinned trail l =
      some (visit c p message sender pinned trail l)
  visitEach : ∀ handlers message sender pinned trail l,
    c.idleVisits trail * c.visitSpan + handlers.length + 1 ≤ depth →
    visitEachWithin c p depth handlers message sender pinned trail l =
      some (visitEach c p handlers message sender pinned trail l)
  walk : ∀ handler pinned trail s l,
    c.walkDepth (c.idleVisits trail) (c.idleMethods trail) + s.size + 1 ≤ depth →
    walkWithin c p depth handler pinned trail s l = some (walk c p handler pinned trail s l)
  walkAll : ∀ handler pinned trail body l,
    c.walkDepth (c.idleVisits trail) (c.idleMethods trail) + sizeOfBody body + 1 ≤ depth →
    walkAllWithin c p depth handler pinned trail body l =
      some (walkAll c p handler pinned trail body l)
  walkSections : ∀ handler pinned trail sections l,
    c.walkDepth (c.idleVisits trail) (c.idleMethods trail) + sizeOfLabelled sections + 1 ≤ depth →
    walkSectionsWithin c p depth handler pinned trail sections l =
      some (walkSections c p handler pinned trail sections l)

namespace Agrees

variable {c : Codebase} {p : Profile} {depth : Nat} (h : Agrees c p depth)
variable {message handler : c.Ref} {sender pinned : Option String} {trail : Trail c} {l : Ledger c}
include h

theorem visit_succ (hroom : c.visitDepth (c.idleVisits trail) ≤ depth + 1) :
    visitWithin c p (depth + 1) message sender pinned trail l =
      some (Ripple.visit c p message sender pinned trail l) := by
  have hlen : (c.handlers p (c.decl message)).length ≤ c.types.length + 1 :=
    Codebase.length_handlers_le _
  rw [Codebase.visitDepth] at hroom
  rw [visitWithin, Ripple.visit]
  split
  · rfl
  · rw [h.visitEach _ _ _ _ _ _ (by omega)]
    rfl

theorem visitEach_succ {handlers : List c.Ref}
    (hroom : c.idleVisits trail * c.visitSpan + handlers.length + 1 ≤ depth + 1) :
    visitEachWithin c p (depth + 1) handlers message sender pinned trail l =
      some (Ripple.visitEach c p handlers message sender pinned trail l) := by
  cases handlers with
  | nil => rw [visitEachWithin, visitEach_nil]
  | cons handler rest =>
    rw [List.length_cons] at hroom
    have hinner (l : Ledger c) :
        (if c.visitOf handler message ∈ trail.visits then
          some ([], l.record trail (.reentered (c.visitOf handler message)))
        else
          match c.handlingMethod p handler (c.decl message) with
          | none => some ([], l)
          | some m =>
            walkAllWithin c p depth handler (pinned.or (p.serviceOf (c.decl handler)))
              (trail.enter (c.visitOf handler message)) m.body
              (l.record (trail.enter (c.visitOf handler message))
                (.entered (c.visitOf handler message) m))) =
          some (followUp p handler message pinned trail l) := by
      unfold followUp
      split
      · rfl
      next hfree =>
        cases c.handlingMethod p handler (c.decl message) with
        | none => rfl
        | some m =>
          have hidle : c.walkDepth (c.idleVisits (trail.enter (c.visitOf handler message)))
              c.methodRefs.length + c.inlinedSize + 1 ≤ c.idleVisits trail * c.visitSpan :=
            Codebase.walkDepth_add_le (Codebase.idleVisits_enter_lt hfree)
          have hbody := Codebase.sizeOfBody_body_le_bodySize m
          have hsize := c.bodySize_le_inlinedSize
          refine h.walkAll _ _ _ _ _ ?_
          rw [Codebase.idleMethods_enter]
          omega
    rw [visitEachWithin, visitEach_cons]
    simp only [hinner, Option.bind_eq_bind, Option.bind_some]
    rw [h.visitEach _ _ _ _ _ _ (by omega)]
    rfl

theorem walkAll_succ {body : List (Statement (Call c))}
    (hroom : c.walkDepth (c.idleVisits trail) (c.idleMethods trail) + sizeOfBody body + 1 ≤
      depth + 1) :
    walkAllWithin c p (depth + 1) handler pinned trail body l =
      some (Ripple.walkAll c p handler pinned trail body l) := by
  cases body with
  | nil => rw [walkAllWithin, Ripple.walkAll]
  | cons s rest =>
    rw [sizeOfBody] at hroom
    rw [walkAllWithin, Ripple.walkAll]
    simp only [h.walk handler pinned trail s _ (by omega),
      h.walkAll handler pinned trail rest _ (by omega),
      Option.bind_eq_bind, Option.bind_some]

theorem walkSections_succ {sections : List (String × List (Statement (Call c)))}
    (hroom : c.walkDepth (c.idleVisits trail) (c.idleMethods trail) + sizeOfLabelled sections + 1 ≤
      depth + 1) :
    walkSectionsWithin c p (depth + 1) handler pinned trail sections l =
      some (Ripple.walkSections c p handler pinned trail sections l) := by
  cases sections with
  | nil => rw [walkSectionsWithin, Ripple.walkSections]
  | cons part rest =>
    obtain ⟨label, body⟩ := part
    rw [sizeOfLabelled] at hroom
    rw [walkSectionsWithin, Ripple.walkSections]
    simp only [h.walkAll handler pinned trail body _ (by omega),
      h.walkSections handler pinned trail rest _ (by omega),
      Option.bind_eq_bind, Option.bind_some]

theorem walk_succ {s : Statement (Call c)}
    (hroom : c.walkDepth (c.idleVisits trail) (c.idleMethods trail) + s.size + 1 ≤ depth + 1) :
    walkWithin c p (depth + 1) handler pinned trail s l =
      some (Ripple.walk c p handler pinned trail s l) := by
  cases s with
  | call target =>
    rw [walkWithin]
    cases hpub : p.publishes target.invocation with
    | true =>
      have hvisit : c.visitDepth (c.idleVisits trail) ≤ depth := by
        have := c.visitDepth_le_walkDepth (c.idleVisits trail) (c.idleMethods trail)
        omega
      rw [if_pos rfl, walk_of_publishes hpub]
      cases c.messageOf p target.invocation with
      | none => rfl
      | some message => exact h.visit _ _ _ _ _ hvisit
    | false =>
      rw [if_neg (by simp), Codebase.inline?]
      cases hres : c.resolve target.invocation with
      | none => rw [walk_of_resolve_eq_none hpub hres]; rfl
      | some m =>
        rw [Option.map_some]
        by_cases hmem : m ∈ trail.inlined
        · rw [walk_of_mem ⟨hpub, hres⟩ hmem]
          exact if_pos (List.contains_iff_mem.2 hmem)
        · have hidle : c.walkDepth (c.idleVisits trail) (c.idleMethods (trail.enterInlined m)) +
              c.inlinedSize + 1 < c.walkDepth (c.idleVisits trail) (c.idleMethods trail) :=
            Codebase.walkDepth_add_lt (Codebase.idleMethods_enterInlined_lt hmem)
          have hbody : sizeOfBody (c.inlinedBody p target m) ≤ c.inlinedSize :=
            Codebase.sizeOfBody_inlinedBody_le target m
          have hvisits : c.idleVisits (trail.enterInlined m) = c.idleVisits trail := rfl
          rw [walk_of_notMem ⟨hpub, hres⟩ hmem]
          refine (if_neg (by simpa using hmem)).trans
            (h.walkAll _ _ (trail.enterInlined m) (c.inlinedBody p target m) _ ?_)
          rw [hvisits]
          omega
  | conditional arms =>
    rw [Statement.size] at hroom
    rw [walkWithin, Ripple.walk, h.walkSections _ _ _ _ _ (by
      rw [sizeOfLabelled_labelArms]
      omega)]
    rfl
  | switch subject arms =>
    rw [Statement.size] at hroom
    rw [walkWithin, Ripple.walk, h.walkSections _ _ _ _ _ (by
      rw [sizeOfLabelled_labelCases]
      omega)]
    rfl
  | forEach items body =>
    rw [Statement.size] at hroom
    rw [walkWithin, Ripple.walk, h.walkSections _ _ _ _ _ (by
      simp only [sizeOfLabelled]
      omega)]
    rfl
  | block body => rw [walkWithin, Ripple.walk]

end Agrees

variable {c : Codebase} {p : Profile}

theorem agrees (depth : Nat) : Agrees c p depth := by
  induction depth with
  | zero => constructor <;> intros <;> simp [Codebase.visitDepth] at *
  | succ depth ih =>
    exact ⟨fun _ _ _ _ _ => ih.visit_succ, fun _ _ _ _ _ _ => ih.visitEach_succ,
      fun _ _ _ _ _ => ih.walk_succ, fun _ _ _ _ _ => ih.walkAll_succ,
      fun _ _ _ _ _ => ih.walkSections_succ⟩

theorem visitDepth_le_depthBound (trail : Trail c) :
    c.visitDepth (c.idleVisits trail) ≤ c.depthBound :=
  Nat.add_le_add_right (Nat.add_le_add_right
    (Nat.mul_le_mul_right _ (List.length_filter_le _ _)) _) _

/-- The recursion ends: no visit, whatever the profile, the trail and the ledger, nests calls
deeper than a bound computed from the types, and what the recursion then returns is the walk. -/
theorem visitWithin_depthBound (p : Profile) (message : c.Ref) (sender pinned : Option String)
    (trail : Trail c) (l : Ledger c) (extra : Nat) :
    visitWithin c p (c.depthBound + extra) message sender pinned trail l =
      some (visit c p message sender pinned trail l) :=
  (agrees _).visit _ _ _ _ _ (Nat.le_add_right_of_le (visitDepth_le_depthBound trail))

end Ripple
