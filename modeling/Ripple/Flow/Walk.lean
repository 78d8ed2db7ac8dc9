import Ripple.Flow.Journal
import Ripple.Messaging.Handler

/-!
# Walking a flow

How handling one message ripples on. `visit` takes a message to each of its handlers: an arrow
to the handler's service, then whatever the body of the handling method sends on. A publishing
call in a body visits the message it sends; any other call is inlined; branches and loops
become groups; blocks are passed over.

Three things keep the walk finite. A visit that is going on is not entered again: its arrow
stands, its body does not. A method that is being inlined is not inlined again. And messages
nest at most `maxDepth` deep, though the walk would end without that: `visit` and its
companions decrease the visits not going on, then the methods not being inlined, then the
statements at hand.
-/

namespace Ripple

open Statement

namespace Codebase

variable (c : Codebase)

/-- Every visit there can be in a codebase. -/
def allVisits : List Visit :=
  c.refs.flatMap fun handler => c.refs.map fun message =>
    ⟨c.fullName handler, c.fullName message⟩

/-- How many visits are not going on. -/
def idleVisits (trail : Trail c) : Nat :=
  (c.allVisits.filter (· ∉ trail.visits)).length

/-- How many methods are not being inlined. -/
def idleMethods (trail : Trail c) : Nat :=
  (c.methodRefs.filter (· ∉ trail.inlined)).length

variable {c}

theorem mem_allVisits (handler message : c.Ref) :
    ⟨c.fullName handler, c.fullName message⟩ ∈ c.allVisits :=
  List.mem_flatMap.2 ⟨handler, mem_refs _, List.mem_map.2 ⟨message, mem_refs _, rfl⟩⟩

theorem length_filter_notMem_cons_lt {α : Type} [DecidableEq α] {xs seen : List α} {a : α}
    (ha : a ∈ xs) (hs : a ∉ seen) :
    (xs.filter (· ∉ a :: seen)).length < (xs.filter (· ∉ seen)).length := by
  have hcons : xs.filter (· ∉ a :: seen) = (xs.filter (· ∉ seen)).filter (· ≠ a) := by
    rw [List.filter_filter]
    exact List.filter_congr fun x _ => by simp [not_or]
  rw [hcons]
  exact List.length_filter_lt_length_iff_exists.2
    ⟨a, List.mem_filter.2 ⟨ha, by simpa using hs⟩, by simp⟩

theorem idleVisits_enter_lt {trail : Trail c} {handler message : c.Ref}
    (h : (⟨c.fullName handler, c.fullName message⟩ : Visit) ∉ trail.visits) :
    c.idleVisits (trail.enter ⟨c.fullName handler, c.fullName message⟩) < c.idleVisits trail :=
  length_filter_notMem_cons_lt (mem_allVisits handler message) h

theorem idleMethods_enterInlined_lt {trail : Trail c} {m : c.MethodRef}
    (h : m ∉ trail.inlined) :
    c.idleMethods (trail.enterInlined m) < c.idleMethods trail :=
  length_filter_notMem_cons_lt (mem_methodRefs m) h

end Codebase

variable (c : Codebase) (p : Profile)

mutual

/-- Takes a message to all its handlers, unless messages already nest as deep as they may. -/
def visit (message : c.Ref) (sender pinned : Option String) (trail : Trail c) (l : Ledger c) :
    List Fragment × Ledger c :=
  let l := l.record trail (.arrived message)
  if p.maxDepth ≤ trail.visits.length then
    ([], (l.record trail (.tooDeep message)).record trail (.left message))
  else
    let done := visitEach (c.handlers p (c.decl message)) message sender pinned trail l
    (done.1, done.2.record trail (.left message))
termination_by (c.idleVisits trail, c.idleMethods trail, 1, 0)

/-- Takes a message to each of some handlers in turn. While a handler is visited its service
is active, if it was not already; `pinned` is the service at which the flow branched off. -/
def visitEach (handlers : List c.Ref) (message : c.Ref) (sender pinned : Option String)
    (trail : Trail c) (l : Ledger c) : List Fragment × Ledger c :=
  match handlers with
  | [] => ([], l)
  | handler :: rest =>
    let key : Visit := ⟨c.fullName handler, c.fullName message⟩
    let service := p.serviceOf (c.decl handler)
    let arrow : Arrow :=
      { source := sender.getD p.externalActor
        target := p.participant service
        label := (c.decl message).name
        color := p.colorOf (p.kindOf (c.decl message)) }
    let l := ((l.activate service).join arrow.target).record trail (.opened key service)
    let inner : List Fragment × Ledger c :=
      if _h : key ∈ trail.visits then ([], l.record trail (.reentered key))
      else
        match c.handlingMethod p handler (c.decl message) with
        | none => ([], l)
        | some m =>
          walkAll handler (pinned.or service) (trail.enter key) m.body
            (l.record (trail.enter key) (.entered key m))
    let l := (inner.2.record trail (.closed key service)).deactivate service pinned
    let others := visitEach rest message sender pinned trail l
    (.arrow arrow :: inner.1 ++ others.1, others.2)
termination_by (c.idleVisits trail, c.idleMethods trail, 0, handlers.length)
decreasing_by
  · exact Prod.Lex.left _ _ (Codebase.idleVisits_enter_lt _h)
  · exact Prod.Lex.right _ (Prod.Lex.right _ (Prod.Lex.right _ (by simp)))

/-- Walks one statement of a body that runs for `handler`. -/
def walk (handler : c.Ref) (pinned : Option String) (trail : Trail c)
    (statement : Statement (Call c)) (l : Ledger c) : List Fragment × Ledger c :=
  match statement with
  | .call target =>
    if p.publishes target.invocation then
      let l := l.record trail (.published handler target.invocation)
      match (p.publishedName target.invocation).bind c.find? with
      | none => ([], l)
      | some message => visit message (p.serviceOf (c.decl handler)) pinned trail l
    else
      let l := l.recordAll trail ((c.ambiguities p target).map .ambiguous)
      match c.inline? p target with
      | none => ([], l)
      | some inlined =>
        if _h : inlined.method ∈ trail.inlined then ([], l)
        else
          walkAll handler pinned (trail.enterInlined inlined.method) inlined.statements
            (l.record (trail.enterInlined inlined.method) (.inlined inlined.method))
  | .conditional arms =>
    let sections := walkSections handler pinned trail (labelArms arms) l
    (Fragment.group .conditional sections.1, sections.2)
  | .switch _ arms =>
    let sections := walkSections handler pinned trail (labelCases arms) l
    (Fragment.group .case sections.1, sections.2)
  | .forEach items body =>
    let sections := walkSections handler pinned trail [(items, body)] l
    (Fragment.group .forEach sections.1, sections.2)
  | .block _ => ([], l)
termination_by (c.idleVisits trail, c.idleMethods trail, 2, statement.size)
decreasing_by
  · exact Prod.Lex.right _ (Prod.Lex.right _ (Prod.Lex.left _ _ (by simp)))
  · exact Prod.Lex.right _ (Prod.Lex.left _ _ (Codebase.idleMethods_enterInlined_lt _h))
  · exact Prod.Lex.right _ (Prod.Lex.right _ (Prod.Lex.right _ (by
      simp [sizeOfLabelled_labelArms, size])))
  · exact Prod.Lex.right _ (Prod.Lex.right _ (Prod.Lex.right _ (by
      simp [sizeOfLabelled_labelCases, size])))
  · exact Prod.Lex.right _ (Prod.Lex.right _ (Prod.Lex.right _ (by
      simp [sizeOfLabelled, size])))

/-- Walks the statements of a body in order. -/
def walkAll (handler : c.Ref) (pinned : Option String) (trail : Trail c)
    (body : List (Statement (Call c))) (l : Ledger c) : List Fragment × Ledger c :=
  match body with
  | [] => ([], l)
  | statement :: rest =>
    let first := walk handler pinned trail statement l
    let others := walkAll handler pinned trail rest first.2
    (first.1 ++ others.1, others.2)
termination_by (c.idleVisits trail, c.idleMethods trail, 2, sizeOfBody body)
decreasing_by
  · exact Prod.Lex.right _ (Prod.Lex.right _ (Prod.Lex.right _ (by simp only [sizeOfBody]; omega)))
  · exact Prod.Lex.right _ (Prod.Lex.right _ (Prod.Lex.right _ (by simp only [sizeOfBody]; omega)))

/-- Walks labelled bodies in order, keeping what each gives under its label. -/
def walkSections (handler : c.Ref) (pinned : Option String) (trail : Trail c)
    (sections : List (String × List (Statement (Call c)))) (l : Ledger c) :
    List (String × List Fragment) × Ledger c :=
  match sections with
  | [] => ([], l)
  | (label, body) :: rest =>
    let first := walkAll handler pinned trail body l
    let others := walkSections handler pinned trail rest first.2
    ((label, first.1) :: others.1, others.2)
termination_by (c.idleVisits trail, c.idleMethods trail, 2, sizeOfLabelled sections)
decreasing_by
  · exact Prod.Lex.right _ (Prod.Lex.right _ (Prod.Lex.right _
      (by simp only [sizeOfLabelled]; omega)))
  · exact Prod.Lex.right _ (Prod.Lex.right _ (Prod.Lex.right _
      (by simp only [sizeOfLabelled]; omega)))

end

end Ripple
