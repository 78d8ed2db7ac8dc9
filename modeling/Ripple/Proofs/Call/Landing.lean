import Ripple.Call.Inlining
import Ripple.Proofs.Code.Path
import Ripple.Proofs.Codebase.Ancestry
import Mathlib.Data.Fintype.EquivFin
import Mathlib.Data.List.Permutation
import Mathlib.Logic.Relation

/-!
# Which methods calls lead to

`Lands` relates a method to those that the calls of its body land on, `Sends` a method to the
publishing calls that it or a method down such a chain of calls makes. Calls in blocks do not
count, and calls that publish lead nowhere.

Inlining works on calls that know where they are written. `Call.Genuine` says that a call
knows it rightly; bodies, and the statements that inlining puts together, hold only such calls.
-/

namespace Ripple

open Relation Statement

namespace Codebase

variable (c : Codebase) (p : Profile)

/-- Whether a call publishes nothing and lands on that method. -/
def LandsOn (call : Invocation) (n : c.MethodRef) : Prop :=
  p.publishes call = false ∧ c.resolve call = some n

/-- Whether some call in the body of the first method lands on the second. -/
def Lands (m n : c.MethodRef) : Prop :=
  ∃ call ∈ exposedOfBody m.method.statements, c.LandsOn p call n

/-- Whether calls lead from a method to one whose body publishes by that very call. -/
def Sends (m : c.MethodRef) (call : Invocation) : Prop :=
  ∃ n, ReflTransGen (c.Lands p) m n ∧
    call ∈ exposedOfBody n.method.statements ∧ p.publishes call = true

variable {c p}

theorem LandsOn.unique {call : Invocation} {m n : c.MethodRef} (hm : c.LandsOn p call m)
    (hn : c.LandsOn p call n) : m = n :=
  Option.some.inj (hm.2.symm.trans hn.2)

theorem not_landsOn {call : Invocation} {m : c.MethodRef} (h : p.publishes call = true) :
    ¬ c.LandsOn p call m := by
  intro hm
  simp [hm.1] at h

theorem Sends.of_lands {m n : c.MethodRef} {call : Invocation} (hmn : c.Lands p m n)
    (hn : c.Sends p n call) : c.Sends p m call := by
  obtain ⟨k, hk, hcall⟩ := hn
  exact ⟨k, .head hmn hk, hcall⟩

instance : Finite c.MethodRef :=
  @Finite.of_fintype _ (Fintype.ofList c.methodRefs mem_methodRefs)

/-- Where no method that calls lead to is on a cycle of calls, chains of calls end. -/
theorem acc_of_acyclic {m : c.MethodRef}
    (hacyclic : ∀ n, ReflTransGen (c.Lands p) m n → ¬ TransGen (c.Lands p) n n) :
    Acc (flip (TransGen (c.Lands p))) m := by
  let below (b a : c.MethodRef) : Prop := ReflTransGen (c.Lands p) m a ∧ TransGen (c.Lands p) a b
  have : IsTrans c.MethodRef below := ⟨fun _ _ _ hab hbc => ⟨hbc.1, hbc.2.trans hab.2⟩⟩
  have : Std.Irrefl below := ⟨fun n hn => hacyclic n hn.1 hn.2⟩
  have hwf : WellFounded below := Finite.wellFounded_of_trans_of_irrefl below
  have hacc (n : c.MethodRef) : ReflTransGen (c.Lands p) m n →
      Acc (flip (TransGen (c.Lands p))) n := by
    induction n using hwf.induction with
    | _ n ih =>
      intro hn
      exact ⟨n, fun k hk => ih k ⟨hn, hk⟩ (hn.trans hk.to_reflTransGen)⟩
  exact hacc m .refl

/-- Where every call leads to a method of lower rank, no method is on a cycle of calls. -/
theorem acyclic_of_rank (rank : c.MethodRef → Nat)
    (hrank : ∀ m ∈ c.methodRefs, ∀ call ∈ exposedOfBody m.method.statements,
      ∀ n ∈ c.resolve call, rank n < rank m) (n : c.MethodRef) : ¬ TransGen (c.Lands p) n n := by
  have hlt {a b : c.MethodRef} (hab : TransGen (c.Lands p) a b) : rank b < rank a := by
    induction hab with
    | single h =>
      obtain ⟨call, hcall, hb⟩ := h
      exact hrank a (mem_methodRefs a) call hcall _ hb.2
    | tail _ h ih =>
      obtain ⟨call, hcall, hb⟩ := h
      exact (hrank _ (mem_methodRefs _) call hcall _ hb.2).trans ih
  exact fun h => Nat.lt_irrefl _ (hlt h)

/-- A chain that ends away from its start leaves the start for good at some point. -/
theorem exists_last_exit {α : Type} {r : α → α → Prop} {a b : α} (h : ReflTransGen r a b) :
    b = a ∨ ∃ next, r a next ∧ next ≠ a ∧ ReflTransGen (fun x y => r x y ∧ y ≠ a) next b := by
  induction h with
  | refl => exact .inl rfl
  | @tail x y _ hxy ih =>
    by_cases hy : y = a
    · exact .inl hy
    refine .inr ?_
    obtain rfl | ⟨next, hnext, hne, hchain⟩ := ih
    · exact ⟨y, hxy, hy, .refl⟩
    · exact ⟨next, hnext, hne, hchain.tail ⟨hxy, hy⟩⟩

/-! ## Bodies -/

theorem MethodRef.map_exposedOfBody_body {β : Type} (m : c.MethodRef) {e : Call c → β}
    {g : Invocation → β} (heg : ∀ call path, e ⟨call, some ⟨m, path⟩⟩ = g call) :
    (exposedOfBody m.body).map e = (exposedOfBody m.method.statements).map g :=
  map_exposedOfBody_mapBodyAt (fun path call => heg call path) [] 0 _

/-- The calls of a body, less their sites, are those of the method as it was read. -/
theorem MethodRef.map_invocation_exposedOfBody (m : c.MethodRef) :
    (exposedOfBody m.body).map Call.invocation = exposedOfBody m.method.statements := by
  rw [m.map_exposedOfBody_body (g := id) fun _ _ => rfl, List.map_id]

theorem MethodRef.invocation_mem {m : c.MethodRef} {call : Call c}
    (hcall : call ∈ exposedOfBody m.body) :
    call.invocation ∈ exposedOfBody m.method.statements := by
  rw [← m.map_invocation_exposedOfBody]
  exact List.mem_map_of_mem hcall

end Codebase

namespace Call

variable {c : Codebase} {p : Profile}

/-- Whether a call, if it says where it is written, is exposed there. -/
def Genuine (call : Call c) : Prop :=
  ∀ site, call.site = some site → call ∈ exposedOfBody site.method.body

@[simp] theorem invocation_copy (call : Call c) : call.copy.invocation = call.invocation := rfl

theorem genuine_copy (call : Call c) : call.copy.Genuine := by
  intro site hsite
  cases hsite

/-- The calls of a body know where they are written. -/
theorem genuine_of_mem_body {m : c.MethodRef} {call : Call c}
    (hcall : call ∈ exposedOfBody m.body) : call.Genuine := by
  intro site hsite
  have hmethod : call.site.map Site.method = some m := by
    have h := List.mem_map_of_mem (f := fun x : Call c => x.site.map Site.method) hcall
    rw [m.map_exposedOfBody_body (g := fun _ => some m) fun _ _ => rfl] at h
    obtain ⟨_, _, h⟩ := List.mem_map.1 h
    exact h.symm
  rw [hsite] at hmethod
  obtain rfl : site.method = m := Option.some.inj hmethod
  exact hcall

/-- Genuine calls at one place are one call. -/
theorem Genuine.eq_of_isAt {call origin : Call c} (hcall : call.Genuine)
    (horigin : origin.Genuine) (h : call.isAt origin) : call = origin := by
  obtain ⟨site, hsite⟩ : ∃ site, call.site = some site := by
    rw [isAt, Bool.and_eq_true] at h
    exact Option.isSome_iff_exists.1 h.1
  have hsame : origin.site = some site := by
    rw [isAt, Bool.and_eq_true, beq_iff_eq] at h
    rw [← h.2, hsite]
  exact eq_of_mem_callsOfBody_mapBodyAt (fun x : Call c => (x.site.map Site.path).getD [])
    (fun _ _ => rfl) (mem_callsOfBody_of_mem_exposedOfBody (hcall site hsite))
    (mem_callsOfBody_of_mem_exposedOfBody (horigin site hsame)) (by rw [hsite, hsame])

end Call

/-! ## Inlining -/

namespace Codebase

variable {c : Codebase} {p : Profile}

theorem mem_standIn {origin call z : Call c} (hz : z ∈ exposedOfBody (c.standIn p origin call)) :
    z = call ∨ ∃ n, c.LandsOn p call.invocation n ∧ z ∈ exposedOfBody n.body := by
  unfold standIn at hz
  split at hz
  · cases hz
  split at hz
  · exact .inl (by simpa [exposedOfBody, exposed] using hz)
  next hpub =>
    split at hz
    next n hn =>
      rw [exposedOfBody_eq_flatMap, List.mem_flatMap] at hz
      obtain ⟨s, hs, hz⟩ := hz
      refine .inr ⟨n, ⟨by simpa using hpub, hn⟩, ?_⟩
      rw [exposedOfBody_eq_flatMap]
      exact List.mem_flatMap_of_mem (List.mem_of_mem_filter hs) hz
    · exact .inl (by simpa [exposedOfBody, exposed] using hz)

/-- The statements that inlining `origin` puts in place of those of `m`. -/
def inlinedBody (p : Profile) (origin : Call c) (m : c.MethodRef) : List (Statement (Call c)) :=
  m.body.flatMap (c.unfold p origin)

theorem exposedOfBody_map_copy (body : List (Statement (Call c))) :
    exposedOfBody (body.map (·.map Call.copy)) = (exposedOfBody body).map Call.copy := by
  simp only [exposedOfBody_eq_flatMap, List.flatMap_map, exposed_map, List.map_flatMap]

/-- A branch or loop is not the call that is being inlined. -/
theorem isCallAt_eq_false_of_isComposite (origin : Call c) {s : Statement (Call c)}
    (hs : s.isComposite = true) : s.isCallAt origin = false := by
  cases s with
  | call target => cases hs
  | _ => rfl

theorem exposedOfBody_unfold_of_isComposite {origin : Call c} {s : Statement (Call c)}
    (hs : s.isComposite = true) :
    exposedOfBody (c.unfold p origin s) =
      (s.exposed.flatMap fun call => exposedOfBody (c.standIn p origin call)).map Call.copy := by
  have horigin := isCallAt_eq_false_of_isComposite origin hs
  rw [unfold, if_neg (by simp [horigin]), if_pos hs, exposedOfBody_map_copy,
    exposedOfBody_replace]

theorem exposedOfBody_unfold_of_not_isComposite {origin : Call c} {s : Statement (Call c)}
    (hs : s.isComposite = false) :
    exposedOfBody (c.unfold p origin s) = s.exposed.filter (!·.isAt origin) := by
  cases s with
  | call target => cases h : target.isAt origin <;> simp [unfold, isCallAt, isComposite, h,
      exposedOfBody, exposed]
  | block body => simp [unfold, isCallAt, isComposite, exposedOfBody, exposed]
  | conditional arms => cases hs
  | switch subject arms => cases hs
  | forEach items body => cases hs

/-- What inlining exposes was exposed in the body, or in one that a call of the body lands
on. -/
theorem mem_inlinedBody {origin z : Call c} {m : c.MethodRef}
    (hz : z ∈ exposedOfBody (c.inlinedBody p origin m)) :
    z ∈ exposedOfBody m.body ∨ z.site = none ∧ (z.invocation ∈ exposedOfBody m.method.statements ∨
      ∃ n, c.Lands p m n ∧ z.invocation ∈ exposedOfBody n.method.statements) := by
  rw [inlinedBody, exposedOfBody_flatMap, List.mem_flatMap] at hz
  obtain ⟨s, hs, hz⟩ := hz
  have hbody {call : Call c} (hcall : call ∈ s.exposed) : call ∈ exposedOfBody m.body := by
    rw [exposedOfBody_eq_flatMap]
    exact List.mem_flatMap_of_mem hs hcall
  cases hcomp : s.isComposite with
  | false =>
    rw [exposedOfBody_unfold_of_not_isComposite hcomp] at hz
    exact .inl (hbody (List.mem_of_mem_filter hz))
  | true =>
    rw [exposedOfBody_unfold_of_isComposite hcomp, List.mem_map] at hz
    obtain ⟨w, hw, rfl⟩ := hz
    obtain ⟨call, hcall, hw⟩ := List.mem_flatMap.1 hw
    have hread := MethodRef.invocation_mem (hbody hcall)
    refine .inr ⟨rfl, ?_⟩
    obtain rfl | ⟨n, hn, hw⟩ := mem_standIn hw
    · exact .inl hread
    · rw [Call.invocation_copy]
      exact .inr ⟨n, ⟨_, hread, hn⟩, MethodRef.invocation_mem hw⟩

theorem genuine_of_mem_inlinedBody {origin z : Call c} {m : c.MethodRef}
    (hz : z ∈ exposedOfBody (c.inlinedBody p origin m)) : z.Genuine := by
  obtain hz | ⟨hsite, -⟩ := mem_inlinedBody hz
  · exact Call.genuine_of_mem_body hz
  · intro site h
    rw [hsite] at h
    cases h

/-- A call that is not the origin stands for itself, or for the calls of the body it lands on,
less the origin. -/
theorem exposed_standIn {origin call : Call c} (horigin : call.isAt origin = false) :
    call ∈ exposedOfBody (c.standIn p origin call) ∨
      ∃ n, c.LandsOn p call.invocation n ∧ ∀ next ∈ exposedOfBody n.body,
        next.isAt origin = false → next ∈ exposedOfBody (c.standIn p origin call) := by
  rw [standIn, if_neg (by simp [horigin])]
  by_cases hpub : p.publishes call.invocation = true
  · rw [if_pos hpub]
    exact .inl (by simp [exposedOfBody, exposed])
  rw [if_neg hpub]
  cases hres : c.resolve call.invocation with
  | none => exact .inl (by simp [exposedOfBody, exposed])
  | some n =>
    refine .inr ⟨n, ⟨by simpa using hpub, hres⟩, fun next hnext hnorigin => ?_⟩
    simp only [exposedOfBody_eq_flatMap, List.mem_flatMap] at hnext ⊢
    obtain ⟨s, hs, hnext⟩ := hnext
    refine ⟨s, List.mem_filter.2 ⟨hs, ?_⟩, hnext⟩
    cases s with
    | call target =>
      obtain rfl : next = target := by simpa [exposed] using hnext
      simp [isCallAt, hnorigin]
    | _ => rfl

/-- A call of the body that is not the origin is exposed when the body is inlined, or what
stands in for it is. -/
theorem exposed_or_standIn_exposed {origin call : Call c} {m : c.MethodRef}
    (hcall : call ∈ exposedOfBody m.body) (horigin : call.isAt origin = false) :
    call ∈ exposedOfBody (c.inlinedBody p origin m) ∨
      ∀ z ∈ exposedOfBody (c.standIn p origin call),
        z.copy ∈ exposedOfBody (c.inlinedBody p origin m) := by
  rw [exposedOfBody_eq_flatMap, List.mem_flatMap] at hcall
  obtain ⟨s, hs, hcall⟩ := hcall
  have hshow {z : Call c} (hz : z ∈ exposedOfBody (c.unfold p origin s)) :
      z ∈ exposedOfBody (c.inlinedBody p origin m) := by
    rw [inlinedBody, exposedOfBody_flatMap]
    exact List.mem_flatMap_of_mem hs hz
  cases hcomp : s.isComposite with
  | false =>
    refine .inl (hshow ?_)
    rw [exposedOfBody_unfold_of_not_isComposite hcomp]
    exact List.mem_filter.2 ⟨hcall, by simp [horigin]⟩
  | true =>
    refine .inr fun z hz => hshow ?_
    rw [exposedOfBody_unfold_of_isComposite hcomp]
    exact List.mem_map_of_mem (List.mem_flatMap_of_mem hcall hz)

/-- A call of the body that does not go back to the method is exposed when the body is inlined,
or else every such call of the body it lands on is. -/
theorem exposed_inlinedBody {origin : Call c} {m : c.MethodRef} (horigin : origin.Genuine)
    (hm : c.LandsOn p origin.invocation m) {call : Invocation}
    (hcall : call ∈ exposedOfBody m.method.statements) (hback : ¬ c.LandsOn p call m) :
    call ∈ (exposedOfBody (c.inlinedBody p origin m)).map Call.invocation ∨
      ∃ n, c.LandsOn p call n ∧ ∀ next ∈ exposedOfBody n.method.statements,
        ¬ c.LandsOn p next m →
          next ∈ (exposedOfBody (c.inlinedBody p origin m)).map Call.invocation := by
  have hother {n : c.MethodRef} {x : Call c} (hx : x ∈ exposedOfBody n.body)
      (hxm : ¬ c.LandsOn p x.invocation m) : x.isAt origin = false := by
    refine Bool.eq_false_iff.2 fun h => hxm ?_
    rw [(Call.genuine_of_mem_body hx).eq_of_isAt horigin h]
    exact hm
  rw [← m.map_invocation_exposedOfBody, List.mem_map] at hcall
  obtain ⟨x, hx, rfl⟩ := hcall
  obtain hself | hstand := exposed_or_standIn_exposed (p := p) hx (hother hx hback)
  · exact .inl (List.mem_map_of_mem hself)
  have hcopy (z : Call c) (hz : z ∈ exposedOfBody (c.standIn p origin x)) :
      z.invocation ∈ (exposedOfBody (c.inlinedBody p origin m)).map Call.invocation := by
    rw [← z.invocation_copy]
    exact List.mem_map_of_mem (hstand z hz)
  obtain hself | ⟨n, hn, hnext⟩ := exposed_standIn (p := p) (hother hx hback)
  · exact .inl (hcopy x hself)
  · refine .inr ⟨n, hn, fun next hmem hback => ?_⟩
    rw [← n.map_invocation_exposedOfBody, List.mem_map] at hmem
    obtain ⟨y, hy, rfl⟩ := hmem
    exact hcopy y (hnext y hy (hother hy hback))

end Codebase

/-! ## An example -/

/-- Conventions for examples, under which `Publish` publishes its first argument. -/
def Profile.sample : Profile where
  commandType := "Command"
  eventType := "Event"
  handlerCallbackType := "Handler"
  bodyMarker := "FromBody"
  eventHandlerMethod := "Handle"
  commandHandlerMethod := "Execute"
  publishOperations := [⟨"Publish", 0⟩]
  skippedSegments := []
  externalActor := "Client"
  unknownService := "Unknown"
  commandColor := "blue"
  eventColor := "green"
  maxDepth := 2

namespace Relay

/-- The call by which the desk publishes an order. -/
def relayed : Invocation := ⟨"Bus", "Publish", [⟨"Shop.Placed", "placed"⟩]⟩

/-- An order, and a desk that, for an order in a rush, calls on itself to publish it again. -/
def shop : Codebase where
  types :=
    [(TypeDecl.empty .classType "Shop.Placed").withBase "Event",
      (((TypeDecl.empty .classType "Store.Desk").withBase "Handler").withMethod
        ⟨"Handle", [⟨"Shop.Placed", "placed", []⟩],
          [.conditional [⟨"rush", [.call ⟨"Store.Desk", "Announce", []⟩]⟩]]⟩).withMethod
        ⟨"Announce", [], [.call relayed]⟩]

theorem ofDeclared_shop : Codebase.ofDeclared shop.types = shop :=
  (Codebase.ofDeclared_eq_inRounds _).trans rfl

/-- The order. -/
def placed : shop.Ref := ⟨0, by decide⟩

/-- The desk. -/
def desk : shop.Ref := ⟨1, by decide⟩

/-- How the desk handles an order. -/
def handling : shop.MethodRef := ⟨desk, ⟨0, by decide⟩⟩

/-- How the desk publishes an order. -/
def announcing : shop.MethodRef := ⟨desk, ⟨1, by decide⟩⟩

theorem handling_sends_relayed : shop.Sends .sample handling relayed :=
  ⟨announcing, .single ⟨⟨"Store.Desk", "Announce", []⟩, by decide, by decide, by decide⟩,
    by decide, by decide⟩

theorem acyclic (n : shop.MethodRef) : ¬ TransGen (shop.Lands .sample) n n :=
  Codebase.acyclic_of_rank (fun m => 2 - m.index.val) (by decide) n

end Relay

end Ripple
