import Ripple.Proofs.Flow.Drawn

/-!
# Full inlining

`Runs` follows statements as they were read and takes every plain call straight to the body it
lands on, however often it was there before. Nothing is prepared, remembered or left out, so
that on a cycle of calls it has no outcome.

Where calls run in no cycle, the walk that guards against cycles shows the same fragments:
what is left of a call does not depend on the methods being inlined (`distill_eq_plain`), and
a body put in a branch as it is written is inlined there just as well.
-/

namespace Ripple

open Relation Statement

section runs

variable (c : Codebase) (p : Profile) (handler : c.Ref) (pinned : Option String) (trail : Trail c)

mutual

/-- What a statement shows, with the ledgers before and after, when every plain call is taken
straight to the body it lands on. -/
inductive Runs : Statement Invocation → Ledger c → List Fragment → Ledger c → Prop
  | lost {call : Invocation} {l : Ledger c} (hpub : p.publishes call = true)
      (hmessage : c.messageOf p call = none) : Runs (.call call) l [] l
  | sent {call : Invocation} {l : Ledger c} {message : c.Ref} (hpub : p.publishes call = true)
      (hmessage : c.messageOf p call = some message) :
      Runs (.call call) l (visit c p message (p.serviceOf (c.decl handler)) pinned trail l).1
        (visit c p message (p.serviceOf (c.decl handler)) pinned trail l).2
  | unresolved {call : Invocation} {l : Ledger c} (hpub : p.publishes call = false)
      (hres : c.resolve call = none) : Runs (.call call) l [] l
  | landed {call : Invocation} {m : c.MethodRef} {l l' : Ledger c} {shown : List Fragment}
      (hm : c.LandsOn p call m) (hbody : RunsAll m.method.statements l shown l') :
      Runs (.call call) l shown l'
  | conditional {arms : List (Arm String (Statement Invocation))} {l l' : Ledger c}
      {sections : List (String × List Fragment)}
      (harms : RunsSections (labelArms arms) l sections l') :
      Runs (.conditional arms) l (Fragment.group .conditional sections) l'
  | switch {subject : String} {arms : List (Arm (List String) (Statement Invocation))}
      {l l' : Ledger c} {sections : List (String × List Fragment)}
      (harms : RunsSections (labelCases arms) l sections l') :
      Runs (.switch subject arms) l (Fragment.group .case sections) l'
  | forEach {items : String} {body : Body} {l l' : Ledger c}
      {sections : List (String × List Fragment)}
      (hbody : RunsSections [(items, body)] l sections l') :
      Runs (.forEach items body) l (Fragment.group .forEach sections) l'
  | block {body : Body} {l : Ledger c} : Runs (.block body) l [] l

/-- What the statements of a body show, in order. -/
inductive RunsAll : Body → Ledger c → List Fragment → Ledger c → Prop
  | nil {l : Ledger c} : RunsAll [] l [] l
  | cons {statement : Statement Invocation} {rest : Body} {l l' l'' : Ledger c}
      {first others : List Fragment} (hfirst : Runs statement l first l')
      (hothers : RunsAll rest l' others l'') : RunsAll (statement :: rest) l (first ++ others) l''

/-- What labelled bodies show, in order. -/
inductive RunsSections :
    List (String × Body) → Ledger c → List (String × List Fragment) → Ledger c → Prop
  | nil {l : Ledger c} : RunsSections [] l [] l
  | cons {label : String} {body : Body} {rest : List (String × Body)} {l l' l'' : Ledger c}
      {first : List Fragment} {others : List (String × List Fragment)}
      (hfirst : RunsAll body l first l') (hothers : RunsSections rest l' others l'') :
      RunsSections ((label, body) :: rest) l ((label, first) :: others) l''

end

end runs

namespace Codebase

variable {c : Codebase} {p : Profile}

/-! ## What is left of a call where calls run in no cycle -/

/-- What is left of an invocation when no method is being inlined yet. -/
def plain (c : Codebase) (p : Profile) (call : Invocation) : List (Statement Invocation) :=
  c.distill p [] ⟨call, none⟩

theorem plain_of_publishes {call : Invocation} (h : p.publishes call = true) :
    c.plain p call = [.call call] :=
  distill_of_publishes h

theorem plain_of_resolve_eq_none {call : Invocation} (hpub : p.publishes call = false)
    (h : c.resolve call = none) : c.plain p call = [] :=
  distill_of_resolve_eq_none hpub h

/-- What is left of the statements of a method. -/
def plainBody (p : Profile) (m : c.MethodRef) : List (Statement Invocation) :=
  expandBody (c.plain p) m.method.statements

theorem expandBody_body (m : c.MethodRef) (f : Invocation → List (Statement Invocation)) :
    expandBody (fun call : Call c => f call.invocation) m.body =
      expandBody f m.method.statements :=
  @expandBody_mapBodyAt _ _ _ (fun path call => (⟨call, some ⟨m, path⟩⟩ : Call c)) _ f
    (fun _ _ => rfl) [] 0 m.method.statements

/-- Whether what is left of any call that lands on a method is what is left of its body, while
no method that calls lead to from it is being inlined. -/
def Settled (p : Profile) (n : c.MethodRef) : Prop :=
  ∀ inlined (call : Call c), call.Genuine → c.LandsOn p call.invocation n →
    (∀ q ∈ inlined, ¬ ReflTransGen (c.Lands p) n q) → c.distill p inlined call = plainBody p n

/-- What is left of a call that lands, if anywhere, on a settled method, is the same whichever
methods off its course are being inlined. -/
theorem distill_eq_plain {inlined : List c.MethodRef} {call : Call c} (hcall : call.Genuine)
    (hn : ∀ n, c.LandsOn p call.invocation n →
      Settled p n ∧ ∀ q ∈ inlined, ¬ ReflTransGen (c.Lands p) n q) :
    c.distill p inlined call = c.plain p call.invocation := by
  cases hpub : p.publishes call.invocation with
  | true => rw [distill_of_publishes hpub, plain_of_publishes hpub]
  | false =>
    cases hres : c.resolve call.invocation with
    | none => rw [distill_of_resolve_eq_none hpub hres, plain_of_resolve_eq_none hpub hres]
    | some n =>
      obtain ⟨hsettled, hoff⟩ := hn n ⟨hpub, hres⟩
      rw [hsettled inlined call hcall ⟨hpub, hres⟩ hoff]
      exact (hsettled [] call.copy (Call.genuine_copy call) ⟨hpub, hres⟩ (by simp)).symm

/-- On a course without cycles, the origin is in no body that calls lead to. -/
theorem isAt_eq_false_of_acyclic {n k : c.MethodRef} {origin call : Call c}
    (horigin : origin.Genuine) (hn : c.LandsOn p origin.invocation n)
    (hacyclic : ¬ TransGen (c.Lands p) n n) (hnk : ReflTransGen (c.Lands p) n k)
    (hcall : call ∈ exposedOfBody k.body) : call.isAt origin = false := by
  refine Bool.eq_false_iff.2 fun h => hacyclic ?_
  rw [(Call.genuine_of_mem_body hcall).eq_of_isAt horigin h] at hcall
  exact .tail' hnk ⟨_, MethodRef.invocation_mem hcall, hn⟩

/-- Where the origin is not in the body a call lands on, a call stands for that body as it is
written. -/
theorem expandBody_standIn {origin call : Call c} {f : Call c → List (Statement Invocation)}
    (horigin : call.isAt origin = false)
    (hbody : ∀ n, c.LandsOn p call.invocation n → ∀ next ∈ exposedOfBody n.body,
      next.isAt origin = false) :
    (∃ n, c.LandsOn p call.invocation n ∧
        expandBody f (c.standIn p origin call) = expandBody f n.body) ∨
      (∀ n, ¬ c.LandsOn p call.invocation n) ∧
        expandBody f (c.standIn p origin call) = f call := by
  rw [standIn, if_neg (by simp [horigin])]
  cases hpub : p.publishes call.invocation with
  | true =>
    refine .inr ⟨fun n => not_landsOn hpub, ?_⟩
    rw [if_pos rfl, expandBody, expand, expandBody, List.append_nil]
  | false =>
    rw [if_neg (by simp)]
    cases hres : c.resolve call.invocation with
    | none =>
      refine .inr ⟨fun n hn => by simp [hn.2] at hres, ?_⟩
      simp only [expandBody, expand, List.append_nil]
    | some n =>
      refine .inl ⟨n, ⟨hpub, hres⟩, ?_⟩
      have hall : ∀ s ∈ n.body, (!s.isCallAt origin) = true := by
        intro s hs
        cases s with
        | call target =>
          have hmem : target ∈ exposedOfBody n.body := by
            rw [exposedOfBody_eq_flatMap]
            exact List.mem_flatMap_of_mem hs (by simp [exposed])
          simp [isCallAt, hbody n ⟨hpub, hres⟩ target hmem]
        | _ => rfl
      simp only [List.filter_eq_self.2 hall]

theorem expandBody_map_copy (f : Call c → List (Statement Invocation))
    (body : List (Statement (Call c))) :
    expandBody f (body.map (·.map Call.copy)) = expandBody (fun call => f call.copy) body := by
  simp only [expandBody_eq_flatMap, List.flatMap_map, expand_map]

/-- Inlining a statement of a body and then substituting is one substitution, if the origin is
not met in it and the two ways of inlining a call come to the same. -/
theorem expandBody_unfold {origin : Call c} {s : Statement (Call c)}
    {f : Call c → List (Statement Invocation)} {g : Invocation → List (Statement Invocation)}
    (horigin : ∀ call ∈ s.exposed, call.isAt origin = false)
    (hnext : ∀ call ∈ s.exposed, ∀ n, c.LandsOn p call.invocation n →
      ∀ next ∈ exposedOfBody n.body, next.isAt origin = false)
    (hself : ∀ call ∈ s.exposed, f call = g call.invocation)
    (hcopy : ∀ call ∈ s.exposed, f call.copy = g call.invocation)
    (hbody : ∀ call ∈ s.exposed, ∀ n, c.LandsOn p call.invocation n →
      expandBody (fun next => f next.copy) n.body = g call.invocation) :
    expandBody f (c.unfold p origin s) = s.expand fun call => g call.invocation := by
  have hkept : s.isCallAt origin = false := by
    cases s with
    | call target => exact horigin target (by simp [exposed])
    | _ => rfl
  rw [unfold, if_neg (by simp [hkept])]
  cases hcomp : s.isComposite with
  | false =>
    rw [if_neg (by simp), expandBody, expandBody, List.append_nil]
    exact expand_congr hself
  | true =>
    rw [if_pos rfl, expandBody_map_copy, expandBody_replace]
    refine expand_congr fun call hcall => ?_
    obtain ⟨n, hn, hstand⟩ | ⟨-, hstand⟩ := expandBody_standIn (f := fun call => f call.copy)
      (horigin call hcall) (hnext call hcall)
    · rw [hstand, hbody call hcall n hn]
    · rw [hstand, hcopy call hcall]

theorem acyclic_of_acc {n : c.MethodRef} (hacc : Acc (flip (TransGen (c.Lands p))) n) :
    ¬ TransGen (c.Lands p) n n := by
  induction hacc with
  | intro n _ ih => exact fun h => ih n h h

/-- Where calls run in no cycle, methods are settled: no method is met while it is being
inlined, and no origin is met again. -/
theorem settled_of_acc {n : c.MethodRef} (hacc : Acc (flip (TransGen (c.Lands p))) n) :
    Settled p n := by
  induction hacc with
  | intro n hbelow ih =>
    intro inlined origin horigin hn hoff
    have hacyclic := acyclic_of_acc (.intro n hbelow)
    have hat {k : c.MethodRef} {call : Call c} (hk : ReflTransGen (c.Lands p) n k)
        (hcall : call ∈ exposedOfBody k.body) : call.isAt origin = false :=
      isAt_eq_false_of_acyclic horigin hn hacyclic hk hcall
    have hleft {k : c.MethodRef} {call : Call c} (hk : ReflTransGen (c.Lands p) n k)
        (hread : call.invocation ∈ exposedOfBody k.method.statements) (hcall : call.Genuine) :
        c.distill p (n :: inlined) call = c.plain p call.invocation := by
      refine distill_eq_plain hcall fun k' hk' => ?_
      have hnk' : TransGen (c.Lands p) n k' := .tail' hk ⟨_, hread, hk'⟩
      refine ⟨ih k' hnk', List.forall_mem_cons.2 ⟨fun h => ?_, fun q hq h => ?_⟩⟩
      · exact hacyclic (hnk'.trans_left h)
      · exact hoff q hq (hnk'.to_reflTransGen.trans h)
    rw [distill_of_notMem hn fun h => hoff n h .refl, inlinedBody, plainBody, ← expandBody_body,
      expandBody_eq_flatMap, expandBody_eq_flatMap, List.flatMap_assoc]
    refine List.flatMap_congr fun s hs => ?_
    have hbody {call : Call c} (hcall : call ∈ s.exposed) : call ∈ exposedOfBody n.body := by
      rw [exposedOfBody_eq_flatMap]
      exact List.mem_flatMap_of_mem hs hcall
    have hread {call : Call c} (hcall : call ∈ s.exposed) :
        call.invocation ∈ exposedOfBody n.method.statements :=
      MethodRef.invocation_mem (hbody hcall)
    rw [← expandBody_eq_flatMap]
    refine expandBody_unfold (fun call hcall => hat .refl (hbody hcall)) ?_ ?_ ?_ ?_
    · intro call hcall k hk next hmem
      exact hat (.single ⟨_, hread hcall, hk⟩) hmem
    · intro call hcall
      exact hleft .refl (hread hcall) (Call.genuine_of_mem_body (hbody hcall))
    · intro call hcall
      have hcopy : call.copy.invocation ∈ exposedOfBody n.method.statements := @hread call hcall
      exact hleft .refl hcopy (Call.genuine_copy call)
    · -- a body put in as it is written is inlined like any other
      intro call hcall k hk
      have hnk : c.Lands p n k := ⟨_, hread hcall, hk⟩
      have hplain : c.plain p call.invocation = plainBody p k :=
        ih k (.single hnk) [] call.copy (Call.genuine_copy call) hk (by simp)
      rw [hplain, plainBody, ← expandBody_body]
      refine expandBody_congr fun next hmem => ?_
      have hread := MethodRef.invocation_mem hmem
      exact hleft (.single hnk) hread (Call.genuine_copy next)

/-- What is left of the body of a method, where calls run in no cycle below it. -/
theorem distillBody_eq_plainBody {m : c.MethodRef}
    (hacc : Acc (flip (TransGen (c.Lands p))) m) : c.distillBody p m = plainBody p m := by
  rw [distillBody, plainBody, ← expandBody_body]
  refine expandBody_congr fun call hcall => ?_
  refine distill_eq_plain (Call.genuine_of_mem_body hcall) fun n hn => ⟨?_, by simp⟩
  exact settled_of_acc (hacc.inv (.single ⟨_, MethodRef.invocation_mem hcall, hn⟩))

/-- What is left of a call that lands on a method, where calls run in no cycle below it. -/
theorem plain_of_landsOn {n : c.MethodRef} {call : Invocation} (hn : c.LandsOn p call n)
    (hacc : Acc (flip (TransGen (c.Lands p))) n) : c.plain p call = plainBody p n :=
  settled_of_acc hacc [] ⟨call, none⟩ (by simp [Call.Genuine]) hn (by simp)

end Codebase

variable {c : Codebase} {p : Profile}
variable {handler : c.Ref} {pinned : Option String} {trail : Trail c}

/-! ## What full inlining shows -/

/-- Whether a statement has an outcome from every ledger, and shows one thing only. -/
def Shows (c : Codebase) (p : Profile) (handler : c.Ref) (pinned : Option String)
    (trail : Trail c) (s : Statement Invocation) (shown : List Fragment) : Prop :=
  ∀ l fragments, (∃ l', Runs c p handler pinned trail s l fragments l') ↔ fragments = shown

section shows

variable {reply : Invocation → List Fragment}

/-- A body shows what its statements show. -/
theorem exists_runsAll_iff {body : Body}
    (h : ∀ s ∈ body, Shows c p handler pinned trail s (s.draw reply)) (l : Ledger c)
    (fragments : List Fragment) :
    (∃ l', RunsAll c p handler pinned trail body l fragments l') ↔
      fragments = drawBody reply body := by
  induction body generalizing l fragments with
  | nil =>
    constructor
    · rintro ⟨l', ⟨⟩⟩
      rfl
    · rintro rfl
      exact ⟨l, .nil⟩
  | cons s rest ih =>
    obtain ⟨hs, hrest⟩ := List.forall_mem_cons.1 h
    constructor
    · rintro ⟨l'', hrun⟩
      cases hrun with
      | cons hfirst hothers =>
        rw [(hs _ _).1 ⟨_, hfirst⟩, (ih hrest _ _).1 ⟨_, hothers⟩, drawBody]
    · rintro rfl
      obtain ⟨l', hfirst⟩ := (hs l _).2 rfl
      obtain ⟨l'', hothers⟩ := (ih hrest l' _).2 rfl
      exact ⟨l'', .cons hfirst hothers⟩

/-- Labelled bodies show what their statements show. -/
theorem exists_runsSections_iff {sections : List (String × Body)}
    (h : ∀ part ∈ sections, ∀ s ∈ part.2, Shows c p handler pinned trail s (s.draw reply))
    (l : Ledger c) (shown : List (String × List Fragment)) :
    (∃ l', RunsSections c p handler pinned trail sections l shown l') ↔
      shown = sections.map fun part => (part.1, drawBody reply part.2) := by
  induction sections generalizing l shown with
  | nil =>
    constructor
    · rintro ⟨l', ⟨⟩⟩
      rfl
    · rintro rfl
      exact ⟨l, .nil⟩
  | cons part rest ih =>
    obtain ⟨label, body⟩ := part
    obtain ⟨hbody, hrest⟩ := List.forall_mem_cons.1 h
    constructor
    · rintro ⟨l'', hrun⟩
      cases hrun with
      | cons hfirst hothers =>
        rw [(exists_runsAll_iff hbody _ _).1 ⟨_, hfirst⟩, (ih hrest _ _).1 ⟨_, hothers⟩,
          List.map_cons]
    · rintro rfl
      obtain ⟨l', hfirst⟩ := (exists_runsAll_iff hbody l _).2 rfl
      obtain ⟨l'', hothers⟩ := (ih hrest l' _).2 rfl
      exact ⟨l'', .cons hfirst hothers⟩

/-- A statement that runs just as some labelled bodies do shows their group. -/
theorem shows_group {s : Statement Invocation} {kind : GroupKind}
    (sections : List (String × Body))
    (hparts : ∀ part ∈ sections, ∀ s ∈ part.2, Shows c p handler pinned trail s (s.draw reply))
    (hruns : ∀ l fragments l', Runs c p handler pinned trail s l fragments l' ↔
      ∃ shown, RunsSections c p handler pinned trail sections l shown l' ∧
        fragments = Fragment.group kind shown) :
    Shows c p handler pinned trail s
      (Fragment.group kind (sections.map fun part => (part.1, drawBody reply part.2))) := by
  intro l fragments
  simp only [hruns]
  constructor
  · rintro ⟨l', shown, hsections, rfl⟩
    rw [(exists_runsSections_iff hparts _ _).1 ⟨_, hsections⟩]
  · rintro rfl
    obtain ⟨l', hsections⟩ := (exists_runsSections_iff hparts l _).2 rfl
    exact ⟨l', _, hsections, rfl⟩

/-- A statement shows what its exposed calls show. -/
theorem shows_of_exposed {s : Statement Invocation}
    (h : ∀ call ∈ s.exposed, Shows c p handler pinned trail (.call call) (reply call)) :
    Shows c p handler pinned trail s (s.draw reply) := by
  induction s using Statement.induction with
  | call target => exact h target (by simp [exposed])
  | conditional arms ih =>
    simp only [exposed, exposedOfArms_eq_flatMap, exposedOfBody_eq_flatMap, List.mem_flatMap] at h
    have hdraw : drawArms reply arms =
        (labelArms arms).map fun part => (part.1, drawBody reply part.2) := by
      rw [drawArms_eq_map, labelArms, List.map_map]
      rfl
    rw [draw, hdraw]
    refine shows_group _ ?_ fun l fragments l' => ⟨?_, ?_⟩
    · simpa [labelArms] using fun arm harm s hs => ih arm harm s hs fun call hcall =>
        h call ⟨arm, harm, s, hs, hcall⟩
    · intro hrun
      cases hrun with
      | conditional harms => exact ⟨_, harms, rfl⟩
    · rintro ⟨shown, harms, rfl⟩
      exact .conditional harms
  | switch subject arms ih =>
    simp only [exposed, exposedOfCases_eq_flatMap, exposedOfBody_eq_flatMap, List.mem_flatMap] at h
    have hdraw : drawCases reply arms =
        (labelCases arms).map fun part => (part.1, drawBody reply part.2) := by
      rw [drawCases_eq_map, labelCases, List.map_map]
      rfl
    rw [draw, hdraw]
    refine shows_group _ ?_ fun l fragments l' => ⟨?_, ?_⟩
    · simpa [labelCases] using fun arm harm s hs => ih arm harm s hs fun call hcall =>
        h call ⟨arm, harm, s, hs, hcall⟩
    · intro hrun
      cases hrun with
      | switch harms => exact ⟨_, harms, rfl⟩
    · rintro ⟨shown, harms, rfl⟩
      exact .switch harms
  | forEach items body ih =>
    simp only [exposed, exposedOfBody_eq_flatMap, List.mem_flatMap] at h
    refine shows_group [(items, body)] ?_ fun l fragments l' => ⟨?_, ?_⟩
    · simpa using fun s hs => ih s hs fun call hcall => h call ⟨s, hs, hcall⟩
    · intro hrun
      cases hrun with
      | forEach hbody => exact ⟨_, hbody, rfl⟩
    · rintro ⟨shown, hbody, rfl⟩
      exact .forEach hbody
  | block body ih =>
    intro l fragments
    constructor
    · rintro ⟨l', ⟨⟩⟩
      rfl
    · rintro rfl
      exact ⟨l, .block⟩

end shows

section calls

variable {call : Invocation}

theorem shows_of_publishes (hpub : p.publishes call = true) :
    Shows c p handler pinned trail (.call call) (c.drawSent p handler trail.visits call) := by
  intro l fragments
  unfold Codebase.drawSent
  constructor
  · rintro ⟨l', hrun⟩
    cases hrun with
    | lost _ hmessage => rw [hmessage]
    | sent _ hmessage => rw [hmessage, visit_fst]
    | unresolved hplain _ => simp [hpub] at hplain
    | landed hm _ => exact absurd hm (Codebase.not_landsOn hpub)
  · rintro rfl
    cases hmessage : c.messageOf p call with
    | none => exact ⟨l, .lost hpub hmessage⟩
    | some message =>
      have hsent : Runs c p handler pinned trail (.call call) l _ _ := .sent hpub hmessage
      rw [visit_fst] at hsent
      exact ⟨_, hsent⟩

theorem shows_of_resolve_eq_none (hpub : p.publishes call = false) (hres : c.resolve call = none) :
    Shows c p handler pinned trail (.call call) [] := by
  intro l fragments
  constructor
  · rintro ⟨l', hrun⟩
    cases hrun with
    | lost hsent _ | sent hsent _ => simp [hpub] at hsent
    | unresolved _ _ => rfl
    | landed hm _ => simp [hm.2] at hres
  · rintro rfl
    exact ⟨l, .unresolved hpub hres⟩

theorem shows_of_landsOn {m : c.MethodRef} {shown : List Fragment} (hm : c.LandsOn p call m)
    (hbody : ∀ l fragments, (∃ l', RunsAll c p handler pinned trail m.method.statements l
      fragments l') ↔ fragments = shown) :
    Shows c p handler pinned trail (.call call) shown := by
  intro l fragments
  rw [← hbody l fragments]
  constructor
  · rintro ⟨l', hrun⟩
    cases hrun with
    | lost hsent _ | sent hsent _ => exact absurd hm (Codebase.not_landsOn hsent)
    | unresolved _ hres => simp [hm.2] at hres
    | landed hn hrun =>
      obtain rfl := hm.unique hn
      exact ⟨l', hrun⟩
  · rintro ⟨l', hrun⟩
    exact ⟨l', .landed hm hrun⟩

end calls

/-- Where calls run in no cycle below a method, full inlining of its statements has an outcome
and shows what is left of them. -/
theorem exists_runsAll_iff_of_acc {n : c.MethodRef}
    (hacc : Acc (flip (TransGen (c.Lands p))) n) (l : Ledger c) (fragments : List Fragment) :
    (∃ l', RunsAll c p handler pinned trail n.method.statements l fragments l') ↔
      fragments = drawBody (c.drawSent p handler trail.visits) (Codebase.plainBody p n) := by
  induction hacc generalizing l fragments with
  | intro n hbelow ih =>
    rw [Codebase.plainBody, drawBody_expandBody]
    refine exists_runsAll_iff (fun s hs => shows_of_exposed fun call hcall => ?_) l fragments
    have hread : call ∈ exposedOfBody n.method.statements := by
      rw [exposedOfBody_eq_flatMap]
      exact List.mem_flatMap_of_mem hs hcall
    cases hpub : p.publishes call with
    | true =>
      rw [Codebase.plain_of_publishes hpub, drawBody_singleton]
      exact shows_of_publishes hpub
    | false =>
      cases hres : c.resolve call with
      | none =>
        rw [Codebase.plain_of_resolve_eq_none hpub hres]
        exact shows_of_resolve_eq_none hpub hres
      | some k =>
        have hnk : c.Lands p n k := ⟨call, hread, hpub, hres⟩
        rw [Codebase.plain_of_landsOn ⟨hpub, hres⟩ (hbelow k (.single hnk))]
        exact shows_of_landsOn ⟨hpub, hres⟩ (ih k (.single hnk))

/-- Where no method that calls lead to from a body is on a cycle of calls, full inlining of its
statements has an outcome, and what it shows is what the walk of the body shows. -/
theorem runsAll_iff_eq_walkAll (m : c.MethodRef)
    (hacyclic : ∀ n, ReflTransGen (c.Lands p) m n → ¬ TransGen (c.Lands p) n n)
    (handler : c.Ref) (v : Visit) (pinned : Option String) (trail : Trail c) (l : Ledger c)
    (fragments : List Fragment) :
    (∃ l', RunsAll c p handler pinned (trail.enter v) m.method.statements l fragments l') ↔
      fragments = (walkAll c p handler pinned (trail.enter v) m.body l).1 := by
  have hacc := Codebase.acc_of_acyclic hacyclic
  rw [exists_runsAll_iff_of_acc hacc, walkAll_fst, ← Codebase.distillBody_eq_plainBody hacc]
  rfl

namespace Relay

/-- Where the desk handles an order, full inlining shows what the walk shows. -/
theorem shop_runs_as_walked :
    (∀ n, ReflTransGen (shop.Lands .sample) handling n → ¬ TransGen (shop.Lands .sample) n n) ∧
      ∃ l', RunsAll shop .sample desk none (Trail.enter {} (shop.visitOf desk placed))
        handling.method.statements {}
        (walkAll shop .sample desk none (Trail.enter {} (shop.visitOf desk placed))
          handling.body {}).1 l' := by
  have hacyclic (n : shop.MethodRef) (_ : ReflTransGen (shop.Lands .sample) handling n) :
      ¬ TransGen (shop.Lands .sample) n n := acyclic n
  exact ⟨hacyclic, (runsAll_iff_eq_walkAll handling hacyclic desk _ none {} {} _).2 rfl⟩

end Relay

end Ripple
