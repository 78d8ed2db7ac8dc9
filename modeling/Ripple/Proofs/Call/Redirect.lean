import Ripple.Proofs.Call.Landing
import Ripple.Proofs.Codebase.Ancestry

/-!
# Calls on interfaces

A call on an interface is sent on once, to the first type that derives from the interface. That
type may be an interface itself, and then the call stays there, although a call made on it
would have been sent on again. So a call on an interface is the same as a call on the type it
is sent to just if calls on that type stay where they are (`calls_on_interface`); otherwise the
two never land on the same method.
-/

namespace Ripple

namespace Codebase

variable {c : Codebase} {p : Profile}

/-- Whether calls on the type of that full name stay there: it is no interface, or nothing
implements it. -/
def IsTerminus (c : Codebase) (fullName : String) : Prop :=
  c.isInterface fullName = true → c.implementers fullName = []

/-! ## Where a call is sent -/

section redirect

variable {call : Invocation} {chosen : c.Ref} {fullName : String}

theorem chosen?_implementation : (c.implementation fullName).chosen? =
    (c.implementers fullName).head? := by
  unfold implementation
  split
  next h => rw [h]; rfl
  next only h => rw [h]; rfl
  next first others _ h => rw [h]; rfl

theorem fullName_ne_of_mem_implementers (h : chosen ∈ c.implementers fullName) :
    c.fullName chosen ≠ fullName := by
  have hother := (List.mem_filter.1 h).2
  rw [Bool.and_eq_true, bne_iff_ne] at hother
  exact hother.1

theorem mem_implementers_of_chosen? (h : (c.implementation fullName).chosen? = some chosen) :
    chosen ∈ c.implementers fullName := by
  rw [chosen?_implementation] at h
  exact List.mem_of_mem_head? h

theorem redirect_of_chosen? (hinterface : c.isInterface call.containingType = true)
    (hchosen : (c.implementation call.containingType).chosen? = some chosen) :
    c.redirect call = call.retarget (c.fullName chosen) := by
  rw [redirect, if_pos hinterface, hchosen]

/-- Sending a call on changes its containing type only. -/
theorem redirect_eq_retarget (call : Invocation) :
    c.redirect call = call.retarget (c.redirect call).containingType := by
  unfold redirect
  split
  · split <;> rfl
  · rfl

/-- A call is not sent on just if calls on its containing type stay there. -/
theorem redirect_eq_self_iff : c.redirect call = call ↔ c.IsTerminus call.containingType := by
  constructor
  · intro hstays hinterface
    cases himplementers : c.implementers call.containingType with
    | nil => rfl
    | cons first others =>
      have hchosen : (c.implementation call.containingType).chosen? = some first := by
        rw [chosen?_implementation, himplementers, List.head?_cons]
      have hmem := mem_implementers_of_chosen? hchosen
      rw [redirect_of_chosen? hinterface hchosen] at hstays
      have hname : c.fullName first = call.containingType :=
        congrArg Invocation.containingType hstays
      exact absurd hname (fullName_ne_of_mem_implementers hmem)
  · intro hterminus
    unfold redirect
    split
    next hinterface =>
      have hnone : (c.implementation call.containingType).chosen? = none := by
        rw [chosen?_implementation, hterminus hinterface, List.head?_nil]
      rw [hnone]
    next => rfl

end redirect

/-! ## Where a call lands -/

theorem owner_of_mem_methodsOf {r : c.Ref} {m : c.MethodRef} (h : m ∈ c.methodsOf r) :
    m.owner = r := by
  obtain ⟨i, -, rfl⟩ := List.mem_map.1 h
  rfl

theorem mem_of_select {methods : List c.MethodRef} {name : String} {arity : Nat}
    {m : c.MethodRef} (h : c.select methods name arity = some m) : m ∈ methods := by
  obtain h | ⟨-, h⟩ := Option.or_eq_some_iff.1 h
  · exact (List.mem_filter.1 (List.mem_of_find?_eq_some h)).1
  · exact (List.mem_filter.1 (List.mem_of_mem_head? h)).1

/-- A call lands on a method of the type it is sent to. -/
theorem fullName_owner_of_resolve {call : Invocation} {m : c.MethodRef}
    (h : c.resolve call = some m) : c.fullName m.owner = (c.redirect call).containingType := by
  obtain ⟨r, hr, hm⟩ := Option.bind_eq_some_iff.1 h
  rw [owner_of_mem_methodsOf (mem_of_select hm)]
  exact fullName_of_find? hr

/-- A call that was sent on lands where one lands that is made there, if that one is not sent
on. -/
theorem resolve_redirect {call : Invocation} (h : c.IsTerminus (c.redirect call).containingType) :
    c.resolve (c.redirect call) = c.resolve call := by
  have hname : (c.redirect call).name = call.name := by rw [redirect_eq_retarget]; rfl
  have harguments : (c.redirect call).arguments = call.arguments := by
    rw [redirect_eq_retarget]; rfl
  rw [resolve, redirect_eq_self_iff.2 h, hname, harguments, resolve]

/-! ## What a call stands for -/

section inline

variable {origin origin' : Call c}

theorem isAt_congr (hsite : origin.site = origin'.site) (call : Call c) :
    call.isAt origin = call.isAt origin' := by
  rw [Call.isAt, Call.isAt, hsite]

theorem isCallAt_congr (hsite : origin.site = origin'.site) (s : Statement (Call c)) :
    s.isCallAt origin = s.isCallAt origin' := by
  cases s with
  | call target => exact isAt_congr hsite target
  | _ => rfl

theorem standIn_congr (hsite : origin.site = origin'.site) :
    c.standIn p origin = c.standIn p origin' := by
  funext call
  simp only [standIn, isAt_congr hsite, isCallAt_congr hsite]

theorem unfold_congr (hsite : origin.site = origin'.site) :
    c.unfold p origin = c.unfold p origin' := by
  funext s
  simp only [unfold, isCallAt_congr hsite, standIn_congr hsite]

/-- Two calls at one place, or at none, stand for the same if they land on the same method. -/
theorem inline?_congr (hsite : origin.site = origin'.site)
    (hresolve : c.resolve origin.invocation = c.resolve origin'.invocation) :
    c.inline? p origin = c.inline? p origin' := by
  rw [inline?, inline?, hresolve, unfold_congr hsite]

end inline

end Codebase

/-- Sending a call on from an interface and then again changes nothing just if calls on the type
it is sent to stay there. Then it is the same as a call on that type: it lands on the same
method, runs the same statements and stands for the same. Otherwise the two never land on
methods of the same type. -/
theorem calls_on_interface (c : Codebase) (p : Profile) (call : Invocation) (chosen : c.Ref)
    (hinterface : c.isInterface call.containingType = true)
    (hchosen : (c.implementation call.containingType).chosen? = some chosen) :
    (c.redirect (c.redirect call) = c.redirect call ↔ c.IsTerminus (c.fullName chosen)) ∧
    (c.IsTerminus (c.fullName chosen) →
      c.resolve call = c.resolve (call.retarget (c.fullName chosen)) ∧
      c.bodyOf call = c.bodyOf (call.retarget (c.fullName chosen)) ∧
      ∀ site, c.inline? p ⟨call, site⟩ = c.inline? p ⟨call.retarget (c.fullName chosen), site⟩) ∧
    (¬ c.IsTerminus (c.fullName chosen) →
      ∀ m ∈ c.resolve call, ∀ n ∈ c.resolve (call.retarget (c.fullName chosen)),
        c.fullName m.owner ≠ c.fullName n.owner) := by
  have hsent := Codebase.redirect_of_chosen? hinterface hchosen
  refine ⟨?_, fun hterminus => ?_, fun hfurther m hm n hn howners => ?_⟩
  · rw [hsent]
    exact Codebase.redirect_eq_self_iff
  · have hresolve : c.resolve call = c.resolve (call.retarget (c.fullName chosen)) := by
      rw [← hsent]
      refine (Codebase.resolve_redirect ?_).symm
      rw [hsent]
      exact hterminus
    refine ⟨hresolve, ?_, fun site => Codebase.inline?_congr rfl hresolve⟩
    rw [Codebase.bodyOf, Codebase.bodyOf, hresolve]
  · -- the call on the type itself is sent on, away from that type
    rw [Codebase.fullName_owner_of_resolve hm, Codebase.fullName_owner_of_resolve hn,
      hsent] at howners
    have hstays : c.redirect (call.retarget (c.fullName chosen)) =
        call.retarget (c.fullName chosen) := by
      rw [Codebase.redirect_eq_retarget, ← howners]
      rfl
    exact hfurther (Codebase.redirect_eq_self_iff.1 hstays)

namespace Relay

/-- A counter, an express counter that is one too, and a till that is an express counter. -/
def counters : List TypeDecl :=
  [TypeDecl.empty .interfaceType "Store.Counter",
    (TypeDecl.empty .interfaceType "Store.Express").withBase "Store.Counter",
    ((TypeDecl.empty .classType "Store.Till").withBase "Store.Express").withMethod
      ⟨"Serve", [], [.call relayed]⟩]

/-- The store with its counters. -/
def hall : Codebase where
  types :=
    [TypeDecl.empty .interfaceType "Store.Counter",
      (TypeDecl.empty .interfaceType "Store.Express").withBase "Store.Counter",
      (((TypeDecl.empty .classType "Store.Till").withBase "Store.Express").withBase
        "Store.Counter").withMethod ⟨"Serve", [], [.call relayed]⟩]

theorem ofDeclared_counters : Codebase.ofDeclared counters = hall :=
  (Codebase.ofDeclared_eq_inRounds _).trans rfl

/-- A call on an express counter is the same as one on the till. -/
theorem hall_serves_express : ∃ till,
    hall.isInterface "Store.Express" = true ∧
    (hall.implementation "Store.Express").chosen? = some till ∧
    hall.IsTerminus (hall.fullName till) ∧ hall.fullName till = "Store.Till" ∧
    hall.resolve ⟨"Store.Express", "Serve", []⟩ =
      hall.resolve ⟨hall.fullName till, "Serve", []⟩ := by
  have hinterface : hall.isInterface "Store.Express" = true := by decide
  have hchosen : (hall.implementation "Store.Express").chosen?.map hall.fullName =
      some "Store.Till" := by decide
  have hclass : hall.isInterface "Store.Till" = false := by decide
  obtain ⟨till, hchosen, hname⟩ := Option.map_eq_some_iff.1 hchosen
  have hterminus : hall.IsTerminus (hall.fullName till) := by
    intro h
    rw [hname, hclass] at h
    cases h
  exact ⟨till, hinterface, hchosen, hterminus, hname,
    ((calls_on_interface hall .sample ⟨"Store.Express", "Serve", []⟩ till hinterface
      hchosen).2.1 hterminus).1⟩

/-- A call on a counter is sent to the express counter and lands nowhere, while a call on the
express counter is sent on to the till. -/
theorem hall_serves_no_counter :
    Codebase.ofDeclared counters = hall ∧ hall.isInterface "Store.Counter" = true ∧
    (hall.implementation "Store.Counter").chosen?.map hall.fullName = some "Store.Express" ∧
    (hall.resolve ⟨"Store.Counter", "Serve", []⟩).isSome = false ∧
    (hall.resolve ⟨"Store.Express", "Serve", []⟩).isSome = true ∧
    hall.redirect (hall.redirect ⟨"Store.Counter", "Serve", []⟩) ≠
      hall.redirect ⟨"Store.Counter", "Serve", []⟩ := by
  refine ⟨ofDeclared_counters, by decide, by decide, by decide, by decide, ?_⟩
  have honce : hall.redirect ⟨"Store.Counter", "Serve", []⟩ = ⟨"Store.Express", "Serve", []⟩ := by
    decide
  have htwice : hall.redirect ⟨"Store.Express", "Serve", []⟩ = ⟨"Store.Till", "Serve", []⟩ := by
    decide
  rw [honce, htwice]
  decide

end Relay

end Ripple
