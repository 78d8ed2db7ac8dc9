import Ripple.Proofs.Codebase.Embedding
import Ripple.Proofs.Flow.Participants

/-!
# Flows in corresponding codebases

A faithful embedding takes the flow that a message starts in one codebase to that of the
corresponding message in the other: their bodies leave the same publishing calls, so the two
visits show the same, and the extractions are equal if the two messages have the same caller.
-/

namespace Ripple

open Statement

namespace Embedding

variable {c d : Codebase} {f : Embedding c d} {p : Profile}

/-- Corresponding messages have the same caller if the types that construct them correspond, in
whatever order they are met. -/
theorem caller?_eq {message : c.Ref}
    (horigins : (d.origins (f.ref message)).Perm ((c.origins message).map f.ref)) :
    d.caller? p (f.ref message) = c.caller? p message := by
  have hlength := horigins.length_eq
  unfold Codebase.caller?
  match hc : c.origins message, hd : d.origins (f.ref message) with
  | [], [] => rfl
  | [origin], [origin'] =>
    rw [hc, hd, List.map_singleton, List.singleton_perm_singleton] at horigins
    simp only [horigins, f.decl_ref]
  | _ :: _ :: _, _ :: _ :: _ => rfl
  | [], _ :: _ | _ :: _, [] | [_], _ :: _ :: _ | _ :: _ :: _, [_] => simp [hc, hd] at hlength

namespace Faithful

variable (h : f.Faithful p)
include h

/-! ## What bodies publish -/

/-- What is left of a call is left of the corresponding call, while the corresponding methods are
being inlined. -/
theorem distill (inlined : List c.MethodRef) (call : Call c) :
    d.distill p (inlined.map f.method) (f.call call) = c.distill p inlined call := by
  fun_induction Codebase.distill c p inlined call with
  | case1 inlined call hpub => exact Codebase.distill_of_publishes hpub
  | case2 inlined call hpub hnone =>
    refine Codebase.distill_of_resolve_eq_none (by simpa using hpub) ?_
    rw [invocation_call, h.resolve, hnone, Option.map_none]
  | case3 inlined call hpub m hm hmem =>
    exact Codebase.distill_of_mem (h.landsOn ⟨by simpa using hpub, hm⟩)
      (List.mem_map_of_mem hmem)
  | case4 inlined call hpub m hm hfree ih =>
    have hlands : c.LandsOn p call.invocation m := ⟨by simpa using hpub, hm⟩
    have hlands' : d.LandsOn p (f.call call).invocation (f.method m) := h.landsOn hlands
    have hfree' : f.method m ∉ inlined.map f.method := by
      rwa [List.mem_map_of_injective f.method_injective]
    rw [Codebase.distill_of_notMem hlands' hfree', h.inlinedBody, expandBody_map]
    exact expandBody_congr fun next _ => ih next

theorem script (handler message : c.Ref) :
    d.script p (f.ref handler) (f.ref message) = c.script p handler message := by
  unfold Codebase.script
  rw [f.decl_ref, f.handlingMethod_ref]
  cases c.handlingMethod p handler (c.decl message) with
  | none => rfl
  | some m =>
    rw [Option.map_some]
    simp only [Codebase.distillBody, f.body_method, expandBody_map]
    exact expandBody_congr fun call _ => h.distill [] call

/-! ## What visits show -/

theorem messageOf (call : Invocation) :
    d.messageOf p call = (c.messageOf p call).map f.ref := by
  rw [Codebase.messageOf, Codebase.messageOf, Option.map_bind]
  congr 1
  funext fullName
  exact h.find? fullName

theorem drawVisit (message : c.Ref) (sender : Option String) (visits : List Visit) :
    d.drawVisit p (f.ref message) sender visits = c.drawVisit p message sender visits := by
  induction hroom : p.maxDepth - visits.length generalizing message sender visits with
  | zero =>
    have hdeep : p.maxDepth ≤ visits.length := by omega
    rw [Codebase.drawVisit_of_deep hdeep, Codebase.drawVisit_of_deep hdeep]
  | succ room ih =>
    have hlt : visits.length < p.maxDepth := by omega
    rw [Codebase.drawVisit_of_lt hlt, Codebase.drawVisit_of_lt hlt, f.decl_ref, h.handlers,
      List.flatMap_map]
    refine List.flatMap_congr fun handler _ => ?_
    have harrow : d.arrowTo p sender (f.ref message) (f.ref handler) =
        c.arrowTo p sender message handler := by
      rw [Codebase.arrowTo, f.decl_ref, f.decl_ref, Codebase.arrowTo]
    have hvisit : d.visitOf (f.ref handler) (f.ref message) = c.visitOf handler message := by
      rw [Codebase.visitOf, f.fullName_ref, f.fullName_ref, Codebase.visitOf]
    have hsent (call : Invocation) :
        d.drawSent p (f.ref handler) (c.visitOf handler message :: visits) call =
          c.drawSent p handler (c.visitOf handler message :: visits) call := by
      unfold Codebase.drawSent
      rw [h.messageOf]
      cases c.messageOf p call with
      | none => rfl
      | some next =>
        rw [Option.map_some]
        simp only [f.decl_ref]
        refine ih next _ _ ?_
        rw [List.length_cons]
        omega
    rw [harrow]
    unfold Codebase.drawFollowUp
    rw [hvisit, h.script, funext hsent]

/-! ## Extractions -/

theorem extractFrom {message : c.Ref}
    (hcaller : d.caller? p (f.ref message) = c.caller? p message) :
    d.extractFrom p (f.ref message) = c.extractFrom p message := by
  have hshown : (d.freshVisit p (f.ref message)).1 = (c.freshVisit p message).1 := by
    rw [Codebase.freshVisit_fst, Codebase.freshVisit_fst, h.drawVisit]
  have hparticipants : (d.freshVisit p (f.ref message)).2.participants =
      (c.freshVisit p message).2.participants := by
    rw [Codebase.participants_freshVisit, Codebase.participants_freshVisit, hshown]
  simp only [Codebase.extractFrom, Codebase.repairCaller, hcaller, hshown, hparticipants,
    f.fullName_ref]

/-- Extracting by name gives the same in both codebases if corresponding messages have the same
caller. -/
theorem extract (hcaller : ∀ message, d.caller? p (f.ref message) = c.caller? p message)
    (fullName : String) : d.extract p fullName = c.extract p fullName := by
  rw [Codebase.extract, h.find?, Option.map_map, Codebase.extract]
  congr 1
  funext message
  exact h.extractFrom (hcaller message)

end Faithful

end Embedding

end Ripple
