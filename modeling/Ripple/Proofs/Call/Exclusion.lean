import Ripple.Proofs.Call.Landing
import Ripple.Proofs.Call.Sites
import Ripple.Proofs.Codebase.Ancestry
import Mathlib.Data.List.Pairwise

/-!
# What inlining leaves out

A call that is inlined is left out of what it stands for, so that it does not lead back to itself.
Told apart by where it is written and not by its shape, it alone is dropped from the top of the
body. Deeper down it is dropped only where its site shows: it stays where it stands in a block, and
copies of it are made where a call in a branch or loop is replaced by the body in which it is
nested. `inlining_leaves_out_origin` says that these are the places where it stays.

A copy has no site. So inlining is repeated here with each call kept at the site that it was copied
from (`tracedBody`); forgetting the sites of copies gives back what is inlined.
-/

namespace Ripple

namespace Statement

variable {α : Type}

/-! ## Inside branches and loops -/

/-- The statements that a branch runs or a loop repeats, with no look into them or into blocks. -/
def inside : Statement α → List (Statement α)
  | .conditional arms => arms.flatMap (·.body)
  | .switch _ arms => arms.flatMap (·.body)
  | .forEach _ body => body
  | .call _ | .block _ => []

/-- Induction over what is inside, with one case for branches and loops together. -/
theorem induction_inside {P : Statement α → Prop} (call : ∀ target, P (.call target))
    (block : ∀ body, P (.block body))
    (composite : ∀ s, s.isComposite = true → (∀ t ∈ s.inside, P t) → P s) (s : Statement α) :
    P s := by
  induction s using Statement.induction with
  | call target => exact call target
  | block body => exact block body
  | conditional arms ih | switch subject arms ih =>
    refine composite _ rfl fun t ht => ?_
    obtain ⟨arm, harm, ht⟩ := List.mem_flatMap.1 ht
    exact ih arm harm t ht
  | forEach items body ih => exact composite _ rfl ih

theorem callsOfBody_flatMap {β : Type} (f : β → List (Statement α)) (xs : List β) :
    callsOfBody (xs.flatMap f) = xs.flatMap fun x => callsOfBody (f x) := by
  simp only [callsOfBody_eq_flatMap, List.flatMap_assoc]

theorem mem_callsOfBody_of_mem {body : List (Statement α)} {s : Statement α} {x : α}
    (hs : s ∈ body) (hx : x ∈ s.calls) : x ∈ callsOfBody body := by
  rw [callsOfBody_eq_flatMap]
  exact List.mem_flatMap_of_mem hs hx

theorem calls_eq_inside {s : Statement α} (hs : s.isComposite = true) :
    s.calls = callsOfBody s.inside := by
  cases s with
  | call target | block body => cases hs
  | conditional arms => rw [calls, callsOfArms_eq_flatMap, inside, callsOfBody_flatMap]
  | switch subject arms => rw [calls, callsOfCases_eq_flatMap, inside, callsOfBody_flatMap]
  | forEach items body => rfl

theorem exposed_eq_inside {s : Statement α} (hs : s.isComposite = true) :
    s.exposed = exposedOfBody s.inside := by
  cases s with
  | call target | block body => cases hs
  | conditional arms => rw [exposed, exposedOfArms_eq_flatMap, inside, exposedOfBody_flatMap]
  | switch subject arms => rw [exposed, exposedOfCases_eq_flatMap, inside, exposedOfBody_flatMap]
  | forEach items body => rfl

/-- The statement less what is inside it. -/
def frame : Statement α → Statement α
  | .call target => .call target
  | .conditional arms => .conditional (arms.map fun arm => ⟨arm.guard, []⟩)
  | .switch subject arms => .switch subject (arms.map fun arm => ⟨arm.guard, []⟩)
  | .forEach items _ => .forEach items []
  | .block body => .block body

/-- Replacing calls in a branch or loop leaves one statement of the same frame, with the calls
inside it replaced. -/
theorem exists_replace_eq {f : α → List (Statement α)} {s : Statement α}
    (hs : s.isComposite = true) :
    ∃ s', s.replace f = [s'] ∧ s'.isComposite = true ∧ s'.frame = s.frame ∧
      s'.inside = s.inside.flatMap (replace f) := by
  cases s with
  | call target | block body => cases hs
  | conditional arms | switch subject arms =>
    refine ⟨_, rfl, rfl, ?_, ?_⟩
    · simp [frame, replaceArms_eq_map, replaceCases_eq_map]
    · simp [inside, replaceArms_eq_map, replaceCases_eq_map, replaceBody_eq_flatMap,
        List.flatMap_map, List.flatMap_assoc]
  | forEach items body => exact ⟨_, rfl, rfl, rfl, replaceBody_eq_flatMap ..⟩

theorem frame_map {g : α → α} {s : Statement α} (hs : s.isComposite = true) :
    (s.map g).frame = s.frame := by
  cases s with
  | call target | block body => cases hs
  | _ => simp [frame]

/-! ## Calls in blocks -/

/-- Whether a call stands in some block of a statement. -/
inductive HasInBlock (x : α) : Statement α → Prop
  | block {body : List (Statement α)} : x ∈ callsOfBody body → (block body).HasInBlock x
  | inside {s t : Statement α} : t ∈ s.inside → t.HasInBlock x → s.HasInBlock x

theorem not_hasInBlock_call {target x : α} : ¬ (call target).HasInBlock x := by
  intro h
  cases h with
  | inside ht _ => cases ht

theorem hasInBlock_block {body : List (Statement α)} {x : α} :
    (block body).HasInBlock x ↔ x ∈ callsOfBody body := by
  constructor
  · intro h
    cases h with
    | block hx => exact hx
    | inside ht _ => cases ht
  · exact .block

theorem hasInBlock_iff_inside {s : Statement α} {x : α} (hs : s.isComposite = true) :
    s.HasInBlock x ↔ ∃ t ∈ s.inside, t.HasInBlock x := by
  constructor
  · intro h
    cases h with
    | block _ => cases hs
    | inside ht hx => exact ⟨_, ht, hx⟩
  · rintro ⟨t, ht, hx⟩
    exact .inside ht hx

theorem HasInBlock.mem_calls {s : Statement α} {x : α} (h : s.HasInBlock x) : x ∈ s.calls := by
  induction h with
  | block hx => exact hx
  | @inside s t ht _ ih =>
    have hs : s.isComposite = true := by
      cases s with
      | call target | block body => cases ht
      | _ => rfl
    rw [calls_eq_inside hs]
    exact mem_callsOfBody_of_mem ht ih

/-- After calls were replaced there are those in blocks and those of what was put in. -/
theorem mem_callsOfBody_replace {f : α → List (Statement α)} {s : Statement α} {x : α} :
    x ∈ callsOfBody (s.replace f) ↔
      s.HasInBlock x ∨ ∃ t ∈ s.exposed, x ∈ callsOfBody (f t) := by
  induction s using induction_inside with
  | call target => simp [replace, exposed, not_hasInBlock_call]
  | block body => simp [replace, exposed, hasInBlock_block, callsOfBody, calls]
  | composite s hs ih =>
    obtain ⟨s', hs', hcomposite, -, hinside⟩ := exists_replace_eq (f := f) hs
    rw [hs', callsOfBody_eq_flatMap, List.flatMap_singleton, calls_eq_inside hcomposite, hinside,
      callsOfBody_flatMap, hasInBlock_iff_inside hs, exposed_eq_inside hs,
      exposedOfBody_eq_flatMap]
    simp only [List.mem_flatMap]
    constructor
    · rintro ⟨t, ht, hx⟩
      rcases (ih t ht).1 hx with hx | ⟨call, hcall, hx⟩
      · exact .inl ⟨t, ht, hx⟩
      · exact .inr ⟨call, ⟨t, ht, hcall⟩, hx⟩
    · rintro (⟨t, ht, hx⟩ | ⟨call, ⟨t, ht, hcall⟩, hx⟩)
      · exact ⟨t, ht, (ih t ht).2 (.inl hx)⟩
      · exact ⟨t, ht, (ih t ht).2 (.inr ⟨call, hcall, hx⟩)⟩

end Statement

open Statement

variable {c : Codebase} {p : Profile}

namespace Codebase

/-! ## Inlining that keeps track of sites -/

variable (c p) in
/-- What stands in place of a statement when `origin` is inlined, with each call still at the site
where it is written or from where it was copied. -/
def unfoldTraced (origin : Call c) (statement : Statement (Call c)) : List (Statement (Call c)) :=
  if statement.isCallAt origin then []
  else if statement.isComposite then statement.replace (c.standIn p origin)
  else [statement]

variable (c p) in
/-- The statements that inlining `origin` puts in place of those of `m`, traced. -/
def tracedBody (origin : Call c) (m : c.MethodRef) : List (Statement (Call c)) :=
  m.body.flatMap (c.unfoldTraced p origin)

/-- Branches and loops are made of copies, in which sites are forgotten. -/
def forgetCopied (statement : Statement (Call c)) : Statement (Call c) :=
  if statement.isComposite then statement.map Call.copy else statement

theorem unfold_eq_map_forgetCopied (origin : Call c) (s : Statement (Call c)) :
    c.unfold p origin s = (c.unfoldTraced p origin s).map forgetCopied := by
  rw [unfold, unfoldTraced]
  split
  · rfl
  split
  next hs =>
    obtain ⟨s', hs', hcomposite, -⟩ := exists_replace_eq (f := c.standIn p origin) hs
    simp [hs', forgetCopied, hcomposite]
  next hs => simp [forgetCopied, hs]

theorem inlinedBody_eq_map_forgetCopied (origin : Call c) (m : c.MethodRef) :
    c.inlinedBody p origin m = (c.tracedBody p origin m).map forgetCopied := by
  rw [inlinedBody, tracedBody, List.map_flatMap]
  exact List.flatMap_congr fun s _ => unfold_eq_map_forgetCopied origin s

theorem eq_inlinedBody_of_inline? {origin : Call c} {r : Inlined c}
    (hr : c.inline? p origin = some r) : r.statements = c.inlinedBody p origin r.method := by
  obtain ⟨m, -, rfl⟩ := Option.map_eq_some_iff.1 hr
  rfl

theorem frame_forgetCopied (s : Statement (Call c)) : (forgetCopied s).frame = s.frame := by
  rw [forgetCopied]
  split
  next hs => exact frame_map hs
  next => rfl

/-- At the top only the origin is dropped, and the others keep their frames. -/
theorem map_frame_inlinedBody (origin : Call c) (m : c.MethodRef) :
    (c.inlinedBody p origin m).map frame =
      (m.body.filter (!·.isCallAt origin)).map frame := by
  have hunfold (s : Statement (Call c)) :
      (c.unfoldTraced p origin s).map frame = if s.isCallAt origin then [] else [s.frame] := by
    rw [unfoldTraced]
    split
    · rfl
    split
    next hs =>
      obtain ⟨s', hs', -, hframe, -⟩ := exists_replace_eq (f := c.standIn p origin) hs
      rw [hs', List.map_singleton, hframe]
    next => rfl
  rw [inlinedBody_eq_map_forgetCopied, List.map_map, tracedBody, List.map_flatMap]
  simp only [Function.comp_def, frame_forgetCopied]
  induction m.body with
  | nil => rfl
  | cons s rest ih =>
    rw [List.flatMap_cons, ih, hunfold, List.filter_cons]
    cases s.isCallAt origin <;> simp

/-- What stands in for a call: nothing for the origin, the call itself if it publishes or lands
nowhere, and otherwise the body it lands on, less the origin. -/
theorem mem_callsOfBody_standIn {origin t x : Call c} :
    x ∈ callsOfBody (c.standIn p origin t) ↔ t.isAt origin = false ∧
      ((∀ n, ¬ c.LandsOn p t.invocation n) ∧ x = t ∨
        ∃ n, c.LandsOn p t.invocation n ∧
          ∃ s ∈ n.body, s.isCallAt origin = false ∧ x ∈ s.calls) := by
  rw [standIn]
  by_cases horigin : t.isAt origin = true
  · simp [horigin, callsOfBody]
  rw [if_neg horigin]
  by_cases hpub : p.publishes t.invocation = true
  · simp [hpub, horigin, LandsOn, callsOfBody, Statement.calls]
  rw [if_neg hpub]
  cases hres : c.resolve t.invocation with
  | none => simp [hres, horigin, LandsOn, callsOfBody, Statement.calls]
  | some n =>
    have hlands (n' : c.MethodRef) : c.LandsOn p t.invocation n' ↔ n = n' := by
      simp [LandsOn, hpub, hres]
    simp only [hlands, horigin, callsOfBody_eq_flatMap, List.mem_flatMap, List.mem_filter,
      Bool.not_eq_true', forall_eq', exists_eq_left', true_and, and_assoc, false_and, false_or]

/-- What is traced is at the site where it is written. -/
theorem exists_site_of_mem_tracedBody {origin x : Call c} {m : c.MethodRef}
    (hx : x ∈ callsOfBody (c.tracedBody p origin m)) :
    ∃ site, x.site = some site ∧ site.call? = some x.invocation := by
  obtain ⟨n, hn⟩ : ∃ n : c.MethodRef, x ∈ callsOfBody n.body := by
    rw [tracedBody, callsOfBody_flatMap, List.mem_flatMap] at hx
    obtain ⟨s, hs, hx⟩ := hx
    rw [unfoldTraced] at hx
    split at hx
    · cases hx
    split at hx
    · rcases mem_callsOfBody_replace.1 hx with hx | ⟨t, ht, hx⟩
      · exact ⟨m, mem_callsOfBody_of_mem hs hx.mem_calls⟩
      obtain ⟨-, ⟨-, rfl⟩ | ⟨n, -, s', hs', -, hx⟩⟩ := mem_callsOfBody_standIn.1 hx
      · exact ⟨m, mem_callsOfBody_of_mem hs (mem_calls_of_mem_exposed ht)⟩
      · exact ⟨n, mem_callsOfBody_of_mem hs' hx⟩
    · exact ⟨m, mem_callsOfBody_of_mem hs (by simpa [callsOfBody] using hx)⟩
  obtain ⟨path, hsite, hcall⟩ := mem_callsOfBody_body.1 hn
  exact ⟨⟨n, path⟩, hsite, hcall⟩

/-! ## Where the origin stays -/

section origin

variable {m n : c.MethodRef} {path : List Nat} {o : Call c}

/-- A call of a body is below one statement only. -/
theorem eq_of_mem_calls {s s' : Statement (Call c)} {x : Call c} (hs : s ∈ n.body)
    (hs' : s' ∈ n.body) (hx : x ∈ s.calls) (hx' : x ∈ s'.calls) : s = s' := by
  let alone (s s' : Statement (Call c)) : Prop := x ∈ s.calls → x ∈ s'.calls → s = s'
  have : Std.Symm alone := ⟨fun _ _ h hx hx' => (h hx' hx).symm⟩
  have hsorted := pairwise_callsOfBody_body n
  rw [callsOfBody_eq_flatMap, List.pairwise_flatMap] at hsorted
  have halone : n.body.Pairwise alone := hsorted.2.imp fun hlt hx hx' =>
    absurd (hlt x hx x hx') (List.lt_irrefl _)
  exact halone.forall_of_forall (fun _ _ _ _ => rfl) hs hs' hx hx'

/-- A call stands once at the top of a body. -/
theorem call_notMem_of_split {front back : List (Statement (Call c))} {x : Call c}
    (hsplit : n.body = front ++ .call x :: back) : .call x ∉ front ∧ .call x ∉ back := by
  have hself : x ∈ (Statement.call x).calls := List.mem_cons_self
  have hsorted := pairwise_callsOfBody_body n
  rw [hsplit, callsOfBody_eq_flatMap, List.flatMap_append, List.flatMap_cons,
    List.pairwise_append, List.pairwise_append] at hsorted
  obtain ⟨-, ⟨-, -, hback⟩, hfront⟩ := hsorted
  constructor
  · intro hmem
    exact List.lt_irrefl _ (hfront x (List.mem_flatMap_of_mem hmem hself) x
      (List.mem_append_left _ hself))
  · intro hmem
    exact List.lt_irrefl _ (hback x hself x (List.mem_flatMap_of_mem hmem hself))

variable (ho : c.callAt? m path = some o)
include ho

/-- Among the calls of bodies only the origin is at its site. -/
theorem isAt_iff_of_mem_body {x : Call c} (hx : x ∈ callsOfBody n.body) :
    x.isAt o = true ↔ x = o := by
  obtain ⟨hsite, hcall⟩ := callAt?_eq_some_iff.1 ho
  obtain ⟨path', hsite', hcall'⟩ := mem_callsOfBody_body.1 hx
  constructor
  · intro hat
    rw [Call.isAt, Bool.and_eq_true, beq_iff_eq, hsite, hsite', Option.some.injEq] at hat
    rw [hat.2, hcall, Option.some.injEq] at hcall'
    obtain ⟨_, _⟩ := x
    obtain ⟨_, _⟩ := o
    simp_all
  · rintro rfl
    simp [Call.isAt, hsite]

theorem mem_callsOfBody_body_of_callAt? : o ∈ callsOfBody n.body ↔ n = m := by
  obtain ⟨hsite, hcall⟩ := callAt?_eq_some_iff.1 ho
  rw [mem_callsOfBody_body]
  constructor
  · rintro ⟨path', hsite', -⟩
    rw [hsite, Option.some.injEq, Site.mk.injEq] at hsite'
    exact hsite'.1.symm
  · rintro rfl
    exact ⟨path, hsite, hcall⟩

theorem length_pos_of_callAt? : 0 < path.length := by
  obtain ⟨i, hi, below, hpath, -⟩ := callInBody?_eq_some_iff.1 (callAt?_eq_some_iff.1 ho).2
  have hpath : path = i :: below := hpath
  simp [hpath]

/-- The origin stands at the top of its body just if its path has one step. -/
theorem call_mem_body_iff : .call o ∈ m.body ↔ path.length = 1 := by
  obtain ⟨hsite, hcall⟩ := callAt?_eq_some_iff.1 ho
  have hbody : .call o ∈ m.body ↔ ∃ (j : Nat) (hj : j < m.method.statements.length),
      m.method.statements[j].mapAt (fun path call => ⟨call, some ⟨m, path⟩⟩) [j] = .call o := by
    rw [MethodRef.body, mapBodyAt_eq_mapIdx, List.mem_mapIdx]
    simp only [List.nil_append, Nat.zero_add]
  rw [hbody]
  constructor
  · rintro ⟨j, hj, hstatement⟩
    cases hs : m.method.statements[j] with
    | call invocation =>
      rw [hs, mapAt, Statement.call.injEq] at hstatement
      rw [← hstatement, Option.some.injEq, Site.mk.injEq] at hsite
      simp [← hsite.2]
    | _ => simp [hs, mapAt] at hstatement
  · intro hlength
    obtain ⟨j, rfl⟩ := List.length_eq_one_iff.1 hlength
    obtain ⟨j', hj, below, hpath, hfound⟩ := callInBody?_eq_some_iff.1 hcall
    obtain ⟨rfl, rfl⟩ := List.cons.inj hpath
    refine ⟨j, hj, ?_⟩
    obtain ⟨invocation, _⟩ := o
    obtain rfl := hsite
    cases hs : m.method.statements[j] with
    | call target =>
      rw [hs, callAt?_call] at hfound
      obtain ⟨-, rfl⟩ := hfound
      rfl
    | _ => simp [hs, Statement.callAt?] at hfound

theorem isCallAt_iff {s : Statement (Call c)} (hs : s ∈ n.body) :
    s.isCallAt o = true ↔ s = .call o := by
  cases s with
  | call t =>
    rw [Statement.isCallAt, isAt_iff_of_mem_body ho (mem_callsOfBody_of_mem hs List.mem_cons_self),
      Statement.call.injEq]
  | _ => simp [Statement.isCallAt]

theorem filter_isCallAt_of_notMem {statements : List (Statement (Call c))}
    (hbody : statements ⊆ n.body) (hnot : .call o ∉ statements) :
    statements.filter (!·.isCallAt o) = statements := by
  rw [List.filter_eq_self]
  intro s hs
  rw [Bool.not_eq_true', Bool.eq_false_iff, Ne, isCallAt_iff ho (hbody hs)]
  rintro rfl
  exact hnot hs

/-- At the top of a body nothing but the origin is dropped. -/
theorem filter_isCallAt_of_split {front back : List (Statement (Call c))}
    (hsplit : n.body = front ++ .call o :: back) :
    n.body.filter (!·.isCallAt o) = front ++ back := by
  have hdropped : (Statement.call o).isCallAt o = true :=
    (isCallAt_iff (n := n) ho (by simp [hsplit])).2 rfl
  obtain ⟨hfront, hback⟩ := call_notMem_of_split hsplit
  rw [hsplit, List.filter_append, List.filter_cons, hdropped,
    filter_isCallAt_of_notMem (n := n) ho (fun s hs => by simp [hsplit, hs]) hfront,
    filter_isCallAt_of_notMem (n := n) ho (fun s hs => by simp [hsplit, hs]) hback]
  rfl

/-- The origin is met again in what stands in for a call just if that is another call, which lands
on the method in which the origin is nested. -/
theorem exists_isAt_standIn_iff {t : Call c} (ht : t ∈ callsOfBody n.body) :
    (∃ x ∈ callsOfBody (c.standIn p o t), x.isAt o = true) ↔
      t ≠ o ∧ c.LandsOn p t.invocation m ∧ 1 < path.length := by
  have hother : t.isAt o = false ↔ t ≠ o := by
    rw [Bool.eq_false_iff, Ne, isAt_iff_of_mem_body ho ht]
  simp only [mem_callsOfBody_standIn, hother]
  constructor
  · rintro ⟨x, ⟨hne, ⟨-, rfl⟩ | ⟨n', hlands, s, hs, hkeep, hx⟩⟩, hat⟩
    · exact absurd ((isAt_iff_of_mem_body ho ht).1 hat) hne
    have hbody := mem_callsOfBody_of_mem hs hx
    obtain rfl := (isAt_iff_of_mem_body ho hbody).1 hat
    obtain rfl := (mem_callsOfBody_body_of_callAt? ho).1 hbody
    refine ⟨hne, hlands, ?_⟩
    -- at the top of its body the origin would have been dropped
    by_contra hlength
    have hpos := length_pos_of_callAt? ho
    have htop : .call x ∈ n'.body := (call_mem_body_iff ho).2 (by omega)
    have hsame := eq_of_mem_calls hs htop hx List.mem_cons_self
    rw [(isCallAt_iff ho hs).2 hsame] at hkeep
    cases hkeep
  · rintro ⟨hne, hlands, hlength⟩
    have hbody := (mem_callsOfBody_body_of_callAt? ho).2 rfl
    have hat := (isAt_iff_of_mem_body ho hbody).2 rfl
    rw [callsOfBody_eq_flatMap, List.mem_flatMap] at hbody
    obtain ⟨s, hs, hx⟩ := hbody
    refine ⟨o, ⟨hne, .inr ⟨m, hlands, s, hs, ?_, hx⟩⟩, hat⟩
    rw [Bool.eq_false_iff, Ne, isCallAt_iff ho hs]
    rintro rfl
    have := (call_mem_body_iff ho).1 hs
    omega

theorem exists_isAt_leaf_iff {s : Statement (Call c)} (hs : s ∈ n.body)
    (hleaf : s.isComposite = false) :
    (∃ x ∈ callsOfBody (if s.isCallAt o then [] else [s]), x.isAt o = true) ↔
      ∃ inner, s = .block inner ∧ o ∈ callsOfBody inner := by
  cases s with
  | call t => cases hat : t.isAt o <;> simp [isCallAt, hat, callsOfBody, Statement.calls]
  | block inner =>
    have hat {x : Call c} (hx : x ∈ callsOfBody inner) : x.isAt o = true ↔ x = o :=
      isAt_iff_of_mem_body ho (mem_callsOfBody_of_mem hs hx)
    simp only [isCallAt, Bool.false_eq_true, if_false, callsOfBody, Statement.calls,
      List.append_nil, Statement.block.injEq, exists_eq_left']
    constructor
    · rintro ⟨x, hx, hxo⟩
      exact (hat hx).1 hxo ▸ hx
    · exact fun hx => ⟨o, hx, (hat hx).2 rfl⟩
  | _ => cases hleaf

/-- Where sites are not forgotten, the origin is met again in blocks, and in what stands in for
calls in branches and loops. -/
theorem exists_isAt_unfoldTraced_iff {s : Statement (Call c)} (hs : s ∈ n.body) :
    (∃ x ∈ callsOfBody (c.unfoldTraced p o s), x.isAt o = true) ↔
      s.HasInBlock o ∨ s.isComposite = true ∧
        ∃ t ∈ s.exposed, t ≠ o ∧ c.LandsOn p t.invocation m ∧ 1 < path.length := by
  have hmem {t : Call c} (ht : t ∈ s.calls) : t ∈ callsOfBody n.body :=
    mem_callsOfBody_of_mem hs ht
  cases hcomposite : s.isComposite with
  | true =>
    have horigin := isCallAt_eq_false_of_isComposite o hcomposite
    simp only [unfoldTraced, horigin, hcomposite, Bool.false_eq_true, if_false, if_true,
      mem_callsOfBody_replace, true_and]
    constructor
    · rintro ⟨x, hx | ⟨t, ht, hx⟩, hat⟩
      · obtain rfl := (isAt_iff_of_mem_body ho (hmem hx.mem_calls)).1 hat
        exact .inl hx
      · exact .inr ⟨t, ht, (exists_isAt_standIn_iff ho (hmem (mem_calls_of_mem_exposed ht))).1
          ⟨x, hx, hat⟩⟩
    · rintro (hx | ⟨t, ht, hagain⟩)
      · exact ⟨o, .inl hx, (isAt_iff_of_mem_body ho (hmem hx.mem_calls)).2 rfl⟩
      · obtain ⟨x, hx, hat⟩ :=
          (exists_isAt_standIn_iff ho (hmem (mem_calls_of_mem_exposed ht))).2 hagain
        exact ⟨x, .inr ⟨t, ht, hx⟩, hat⟩
  | false =>
    simp only [unfoldTraced, hcomposite, Bool.false_eq_true, if_false, false_and, or_false,
      exists_isAt_leaf_iff ho hs hcomposite]
    cases s with
    | call target => simp [not_hasInBlock_call]
    | block inner => simp [hasInBlock_block]
    | _ => cases hcomposite

/-- What is no copy is the origin only in a block at the top. -/
theorem exists_isAt_unfold_iff {s : Statement (Call c)} (hs : s ∈ n.body) :
    (∃ x ∈ callsOfBody (c.unfold p o s), x.isAt o = true) ↔
      ∃ inner, s = .block inner ∧ o ∈ callsOfBody inner := by
  cases hcomposite : s.isComposite with
  | true =>
    have horigin := isCallAt_eq_false_of_isComposite o hcomposite
    have hblock (inner : List (Statement (Call c))) : s ≠ .block inner := by
      rintro rfl
      cases hcomposite
    simp only [unfold, horigin, hcomposite, Bool.false_eq_true, if_false, if_true,
      callsOfBody_map, List.mem_map]
    simp [hblock, Call.isAt, Call.copy]
  | false =>
    simp only [unfold, hcomposite, Bool.false_eq_true, if_false,
      exists_isAt_leaf_iff ho hs hcomposite]

theorem exists_isAt_tracedBody_iff :
    (∃ x ∈ callsOfBody (c.tracedBody p o n), x.isAt o = true) ↔
      (∃ s ∈ n.body, s.HasInBlock o) ∨
        1 < path.length ∧ ∃ s ∈ n.body, s.isComposite = true ∧
          ∃ t ∈ s.exposed, t ≠ o ∧ c.LandsOn p t.invocation m := by
  simp only [tracedBody, callsOfBody_flatMap, List.mem_flatMap]
  constructor
  · rintro ⟨x, ⟨s, hs, hx⟩, hat⟩
    rcases (exists_isAt_unfoldTraced_iff ho hs).1 ⟨x, hx, hat⟩ with
      hblock | ⟨hcomposite, t, ht, hne, hlands, hlength⟩
    · exact .inl ⟨s, hs, hblock⟩
    · exact .inr ⟨hlength, s, hs, hcomposite, t, ht, hne, hlands⟩
  · rintro (⟨s, hs, hblock⟩ | ⟨hlength, s, hs, hcomposite, t, ht, hne, hlands⟩)
    · obtain ⟨x, hx, hat⟩ := (exists_isAt_unfoldTraced_iff (p := p) ho hs).2 (.inl hblock)
      exact ⟨x, ⟨s, hs, hx⟩, hat⟩
    · obtain ⟨x, hx, hat⟩ := (exists_isAt_unfoldTraced_iff ho hs).2
        (.inr ⟨hcomposite, t, ht, hne, hlands, hlength⟩)
      exact ⟨x, ⟨s, hs, hx⟩, hat⟩

theorem exists_isAt_inlinedBody_iff :
    (∃ x ∈ callsOfBody (c.inlinedBody p o n), x.isAt o = true) ↔
      ∃ inner, .block inner ∈ n.body ∧ o ∈ callsOfBody inner := by
  simp only [inlinedBody, callsOfBody_flatMap, List.mem_flatMap]
  constructor
  · rintro ⟨x, ⟨s, hs, hx⟩, hat⟩
    obtain ⟨inner, rfl, hinner⟩ := (exists_isAt_unfold_iff ho hs).1 ⟨x, hx, hat⟩
    exact ⟨inner, hs, hinner⟩
  · rintro ⟨inner, hs, hinner⟩
    obtain ⟨x, hx, hat⟩ := (exists_isAt_unfold_iff (p := p) ho hs).2 ⟨inner, rfl, hinner⟩
    exact ⟨x, ⟨_, hs, hx⟩, hat⟩

end origin

end Codebase

/-- What is inlined for a call that is written at some place of the codebase. Forgetting the sites
of copies gives it from what is traced, where each call is at the site it is written at or was
copied from. At the top, only the call itself is dropped, told apart by its site, and whatever else
stands there keeps its frame; a call or block stays as it is. The call itself stays only in a block
at the top of the body, and the site of the call is met again, in it or in a copy, just if the call
stands in some block of the body, or is nested in a method on which another call in a branch or loop
of the body lands. -/
theorem inlining_leaves_out_origin (c : Codebase) (p : Profile) {m : c.MethodRef}
    {path : List Nat} {o : Call c} {r : Inlined c} (ho : c.callAt? m path = some o)
    (hr : c.inline? p o = some r) :
    let traced := c.tracedBody p o r.method
    r.statements = traced.map Codebase.forgetCopied ∧
    (∀ x ∈ callsOfBody traced, ∃ site, x.site = some site ∧ site.call? = some x.invocation) ∧
    (∀ front back, r.method.body = front ++ .call o :: back →
      r.statements.map frame = (front ++ back).map frame) ∧
    (.call o ∉ r.method.body → r.statements.map frame = r.method.body.map frame) ∧
    ((∃ x ∈ callsOfBody r.statements, x.isAt o = true) ↔
      ∃ inner, .block inner ∈ r.method.body ∧ o ∈ callsOfBody inner) ∧
    ((∃ x ∈ callsOfBody traced, x.isAt o = true) ↔
      (∃ s ∈ r.method.body, s.HasInBlock o) ∨
        1 < path.length ∧ ∃ s ∈ r.method.body, s.isComposite = true ∧
          ∃ t ∈ s.exposed, t ≠ o ∧ c.LandsOn p t.invocation m) := by
  intro traced
  rw [Codebase.eq_inlinedBody_of_inline? hr]
  refine ⟨Codebase.inlinedBody_eq_map_forgetCopied o r.method,
    fun x hx => Codebase.exists_site_of_mem_tracedBody hx, fun front back hsplit => ?_,
    fun hnot => ?_, Codebase.exists_isAt_inlinedBody_iff ho,
    Codebase.exists_isAt_tracedBody_iff ho⟩
  · rw [Codebase.map_frame_inlinedBody, Codebase.filter_isCallAt_of_split ho hsplit]
  · rw [Codebase.map_frame_inlinedBody,
      Codebase.filter_isCallAt_of_notMem ho (List.Subset.refl _) hnot]

namespace Relay

/-- A desk whose methods call on themselves and on each other. -/
def queue : Codebase where
  types :=
    [((((TypeDecl.empty .classType "Store.Desk").withMethod
      ⟨"Serve", [], [.conditional [⟨"open", [.call ⟨"Store.Desk", "Retry", []⟩]⟩]]⟩).withMethod
      ⟨"Retry", [], [.conditional [⟨"busy", [.call ⟨"Store.Desk", "Serve", []⟩]⟩]]⟩).withMethod
      ⟨"Wait", [], [.block [.call ⟨"Store.Desk", "Wait", []⟩]]⟩).withMethod
      ⟨"Repeat", [], [.call ⟨"Store.Desk", "Repeat", []⟩, .call ⟨"Store.Desk", "Repeat", []⟩]⟩]

/-- A method of the desk. -/
def queueing (i : Fin 4) : queue.MethodRef := ⟨⟨0, by decide⟩, i⟩

/-- The call by which serving is tried again, if the desk is busy. -/
def retry : Call queue := ⟨⟨"Store.Desk", "Serve", []⟩, some ⟨queueing 1, [0, 0, 0]⟩⟩

/-- The call by which waiting goes on. -/
def waitOn : Call queue := ⟨⟨"Store.Desk", "Wait", []⟩, some ⟨queueing 2, [0, 0]⟩⟩

/-- The first of two calls by which something is repeated. -/
def repetition : Call queue := ⟨⟨"Store.Desk", "Repeat", []⟩, some ⟨queueing 3, [0]⟩⟩

/-- Of two calls alike, the one that is inlined is left out, the other stays, and the first is not
met again. -/
theorem repetition_left_out :
    ∃ r, queue.inline? .sample repetition = some r ∧
      r.statements.map frame = [.call ⟨repetition.invocation, some ⟨queueing 3, [1]⟩⟩] ∧
      ¬ ∃ x ∈ callsOfBody (queue.tracedBody .sample repetition r.method),
        x.isAt repetition = true := by
  have hcall : queue.callAt? (queueing 3) [0] = some repetition :=
    Codebase.callAt?_eq_some_iff.2 ⟨rfl, rfl⟩
  have hinline : queue.inline? .sample repetition =
      some ⟨queueing 3, [.call ⟨repetition.invocation, some ⟨queueing 3, [1]⟩⟩]⟩ := rfl
  have hbody : (queueing 3).body =
      [.call repetition, .call ⟨repetition.invocation, some ⟨queueing 3, [1]⟩⟩] := rfl
  obtain ⟨-, -, hdropped, -, -, hagain⟩ :=
    inlining_leaves_out_origin queue .sample hcall hinline
  refine ⟨_, hinline, hdropped [] _ hbody, fun hmet => ?_⟩
  rcases hagain.1 hmet with ⟨s, hs, hblock⟩ | ⟨hlength, -⟩
  · simp only [hbody, List.mem_cons, List.not_mem_nil, or_false] at hs
    rcases hs with rfl | rfl <;> exact absurd hblock not_hasInBlock_call
  · exact absurd hlength (by decide)

/-- Trying again leads to a copy of itself, where the desk is both open and busy, and waiting goes
on in the block in which it is written. -/
theorem queue_meets_origin_again :
    Codebase.ofDeclared queue.types = queue ∧
    queue.callAt? (queueing 1) [0, 0, 0] = some retry ∧
    (∃ r, queue.inline? .sample retry = some r ∧ retry.copy ∈ callsOfBody r.statements ∧
      ∃ x ∈ callsOfBody (queue.tracedBody .sample retry r.method), x.isAt retry = true) ∧
    queue.callAt? (queueing 2) [0, 0] = some waitOn ∧
    ∃ r, queue.inline? .sample waitOn = some r ∧
      ∃ x ∈ callsOfBody r.statements, x.isAt waitOn = true := by
  have hretry : queue.inline? .sample retry = some ⟨queueing 0,
      [.conditional [⟨"open", [.conditional [⟨"busy", [.call retry.copy]⟩]]⟩]]⟩ := rfl
  have hwait : queue.inline? .sample waitOn = some ⟨queueing 2, [.block [.call waitOn]]⟩ := rfl
  exact ⟨(Codebase.ofDeclared_eq_inRounds _).trans rfl,
    Codebase.callAt?_eq_some_iff.2 ⟨rfl, rfl⟩,
    ⟨_, hretry, List.mem_singleton_self _, retry, List.mem_singleton_self _, by decide⟩,
    Codebase.callAt?_eq_some_iff.2 ⟨rfl, rfl⟩,
    _, hwait, waitOn, List.mem_singleton_self _, by decide⟩

end Relay

end Ripple
