import Ripple.Flow.Walk
import Ripple.Proofs.Call.Landing

/-!
# What a body publishes

Within the visit of one handler, a walk inlines calls until only publishing ones are left.
`distill` does that part of the work alone, without messages, services or a ledger: it turns a
body into a tree of publishing calls.

Three things cut it short. A method that is being inlined is not inlined again, a body within a
branch is put in as it is written, and the very call that is inlined is left out. None of them
loses a publishing call: `mem_distillBody_iff` says that the tree shows exactly the calls that
the body sends along some chain of calls.
-/

namespace Ripple

open Relation Statement

namespace Codebase

variable (c : Codebase) (p : Profile)

/-- What is left of a call while the methods of `inlined` are being inlined. -/
def distill (inlined : List c.MethodRef) (call : Call c) : List (Statement Invocation) :=
  if p.publishes call.invocation then [.call call.invocation]
  else
    match c.resolve call.invocation with
    | none => []
    | some m =>
      if _h : m ∈ inlined then []
      else expandBody (fun next => distill (m :: inlined) next) (c.inlinedBody p call m)
termination_by c.idleMethods ⟨[], inlined⟩
decreasing_by exact @idleMethods_enterInlined_lt c ⟨[], inlined⟩ _ _h

/-- What is left of a body when no method is being inlined yet. -/
def distillBody (m : c.MethodRef) : List (Statement Invocation) :=
  expandBody (c.distill p []) m.body

variable {c p}
variable {inlined : List c.MethodRef} {call : Call c} {m : c.MethodRef}

theorem distill_of_publishes (h : p.publishes call.invocation = true) :
    c.distill p inlined call = [.call call.invocation] := by
  rw [distill, if_pos h]

theorem distill_of_resolve_eq_none (hpub : p.publishes call.invocation = false)
    (h : c.resolve call.invocation = none) : c.distill p inlined call = [] := by
  rw [distill, if_neg (by simp [hpub]), h]

theorem distill_of_mem (hm : c.LandsOn p call.invocation m) (h : m ∈ inlined) :
    c.distill p inlined call = [] := by
  rw [distill, if_neg (by simp [hm.1]), hm.2]
  exact dif_pos h

theorem distill_of_notMem (hm : c.LandsOn p call.invocation m) (h : m ∉ inlined) :
    c.distill p inlined call =
      expandBody (c.distill p (m :: inlined)) (c.inlinedBody p call m) := by
  rw [distill, if_neg (by simp [hm.1]), hm.2]
  exact dif_neg h

/-- What is left of a call is the call itself, or was sent from where it lands. -/
theorem mem_distill {sent : Invocation}
    (h : sent ∈ exposedOfBody (c.distill p inlined call)) :
    p.publishes sent = true ∧ (sent = call.invocation ∨
      ∃ m, c.LandsOn p call.invocation m ∧ c.Sends p m sent) := by
  fun_induction distill c p inlined call with
  | case1 inlined call hpub =>
    obtain rfl : sent = call.invocation := by simpa [exposedOfBody, exposed] using h
    exact ⟨hpub, .inl rfl⟩
  | case2 => cases h
  | case3 => cases h
  | case4 inlined call hpub m hm hfree ih =>
    rw [exposedOfBody_expandBody, List.mem_flatMap] at h
    obtain ⟨z, hz, h⟩ := h
    have hread : z.invocation ∈ exposedOfBody m.method.statements ∨
        ∃ n, c.Lands p m n ∧ z.invocation ∈ exposedOfBody n.method.statements := by
      obtain hz | ⟨-, hz⟩ := mem_inlinedBody hz
      · exact .inl (MethodRef.invocation_mem hz)
      · exact hz
    obtain ⟨hsent, hself | ⟨k, hk, hsends⟩⟩ := ih z h
    · subst hself
      refine ⟨hsent, .inr ⟨m, ⟨by simpa using hpub, hm⟩, ?_⟩⟩
      obtain hread | ⟨n, hmn, hread⟩ := hread
      · exact ⟨m, .refl, hread, hsent⟩
      · exact ⟨n, .single hmn, hread, hsent⟩
    · refine ⟨hsent, .inr ⟨m, ⟨by simpa using hpub, hm⟩, ?_⟩⟩
      obtain hread | ⟨n, hmn, hread⟩ := hread
      · exact hsends.of_lands ⟨_, hread, hk⟩
      · exact (hsends.of_lands ⟨_, hread, hk⟩).of_lands hmn

/-- A publishing call is left of itself. -/
theorem invocation_mem_distill (h : p.publishes call.invocation = true) :
    call.invocation ∈ exposedOfBody (c.distill p inlined call) := by
  rw [distill_of_publishes h]
  simp [exposedOfBody, exposed]

/-- What is left of a call of an inlined body is left of the call that is inlined. -/
theorem mem_distill_of_mem_inlinedBody {z : Call c} {sent : Invocation}
    (hm : c.LandsOn p call.invocation m) (hfree : m ∉ inlined)
    (hz : z ∈ exposedOfBody (c.inlinedBody p call m))
    (h : sent ∈ exposedOfBody (c.distill p (m :: inlined) z)) :
    sent ∈ exposedOfBody (c.distill p inlined call) := by
  rw [distill_of_notMem hm hfree, exposedOfBody_expandBody]
  exact List.mem_flatMap_of_mem hz h

/-- A publishing call that a body sends without coming near the methods being inlined is left
when a call that lands on the body is distilled. -/
theorem mem_distill_of_avoiding {n k : c.MethodRef} {sent : Invocation} (hcall : call.Genuine)
    (hn : c.LandsOn p call.invocation n) (hfree : n ∉ inlined)
    (hchain : ReflTransGen (fun a b => c.Lands p a b ∧ b ∉ inlined) n k)
    (hread : sent ∈ exposedOfBody k.method.statements) (hsent : p.publishes sent = true) :
    sent ∈ exposedOfBody (c.distill p inlined call) := by
  -- each round enters one more method, so the methods not being inlined get fewer
  induction hidle : c.idleMethods ⟨[], inlined⟩ using Nat.strong_induction_on
    generalizing inlined call n with
  | _ idle ih =>
    subst hidle
    have hself (h : sent ∈ (exposedOfBody (c.inlinedBody p call n)).map Call.invocation) :
        sent ∈ exposedOfBody (c.distill p inlined call) := by
      obtain ⟨z, hz, rfl⟩ := List.mem_map.1 h
      exact mem_distill_of_mem_inlinedBody hn hfree hz (invocation_mem_distill hsent)
    have hnext {b : c.MethodRef} {step : Invocation} (hb : c.LandsOn p step b)
        (hbfree : b ∉ n :: inlined)
        (hbk : ReflTransGen (fun a b => c.Lands p a b ∧ b ∉ n :: inlined) b k)
        (h : step ∈ (exposedOfBody (c.inlinedBody p call n)).map Call.invocation) :
        sent ∈ exposedOfBody (c.distill p inlined call) := by
      obtain ⟨z, hz, rfl⟩ := List.mem_map.1 h
      have hidle := @idleMethods_enterInlined_lt c ⟨[], inlined⟩ n hfree
      exact mem_distill_of_mem_inlinedBody hn hfree hz
        (ih _ hidle (genuine_of_mem_inlinedBody hz) hb hbfree hbk rfl)
    obtain rfl | ⟨b, ⟨⟨step, hstep, hb⟩, hbfree⟩, hbn, hbk⟩ := exists_last_exit hchain
    · obtain h | ⟨m, hm, -⟩ := exposed_inlinedBody hcall hn hread (not_landsOn hsent)
      · exact hself h
      · exact absurd hm (not_landsOn hsent)
    replace hbk : ReflTransGen (fun a b => c.Lands p a b ∧ b ∉ n :: inlined) b k :=
      hbk.lift id fun x y ⟨⟨hxy, hy⟩, hyn⟩ => ⟨hxy, by simp [hy, hyn]⟩
    obtain h | ⟨b', hb', hoffers⟩ :=
      exposed_inlinedBody hcall hn hstep fun h => hbn (hb.unique h)
    · exact hnext hb (by simp [hbfree, hbn]) hbk h
    -- the step was within a branch, where the body of `b` stands as it is written
    obtain rfl := hb.unique hb'
    obtain rfl | ⟨b₂, ⟨⟨step₂, hstep₂, hb₂⟩, hb₂free⟩, hb₂k⟩ := hbk.cases_head
    · exact hself (hoffers sent hread (not_landsOn hsent))
    · have hb₂n : b₂ ≠ n := fun h => hb₂free (h ▸ List.mem_cons_self)
      exact hnext hb₂ hb₂free hb₂k (hoffers step₂ hstep₂ fun h => hb₂n (hb₂.unique h))

/-- What is left of a body shows exactly the publishing calls that the body sends. -/
theorem mem_distillBody_iff {sent : Invocation} :
    sent ∈ exposedOfBody (c.distillBody p m) ↔ c.Sends p m sent := by
  rw [distillBody, exposedOfBody_expandBody, List.mem_flatMap]
  constructor
  · rintro ⟨call, hcall, h⟩
    have hread := MethodRef.invocation_mem hcall
    obtain ⟨hsent, rfl | ⟨n, hn, hsends⟩⟩ := mem_distill h
    · exact ⟨m, .refl, hread, hsent⟩
    · exact hsends.of_lands ⟨_, hread, hn⟩
  · rintro ⟨k, hchain, hread, hsent⟩
    have hbody {step : Invocation} (hstep : step ∈ exposedOfBody m.method.statements) :
        ∃ call ∈ exposedOfBody m.body, call.invocation = step := by
      rwa [← m.map_invocation_exposedOfBody, List.mem_map] at hstep
    obtain rfl | ⟨n, ⟨step, hstep, hn⟩, hnk⟩ := hchain.cases_head
    · obtain ⟨call, hcall, rfl⟩ := hbody hread
      exact ⟨call, hcall, invocation_mem_distill hsent⟩
    · obtain ⟨call, hcall, rfl⟩ := hbody hstep
      refine ⟨call, hcall, mem_distill_of_avoiding (Call.genuine_of_mem_body hcall) hn
        List.not_mem_nil ?_ hread hsent⟩
      exact hnk.lift id fun x y hxy => ⟨hxy, List.not_mem_nil⟩

end Codebase

end Ripple
