import Ripple.Call.Inlining
import Ripple.Proofs.Call.Redirect
import Ripple.Proofs.Call.Search
import Ripple.Proofs.Code.Place

/-!
# Sites

A site leads to the call that is written there (`Site.call?`), and it has a place in the whole
codebase: the position of the type, the position of the method in it, and the path to the call.
The calls that bodies know the sites of are just those (`mem_callsOfBody_body`), each at one site,
and they are met in the order of their places: the types as given, in each its methods, and in each
of these the calls as they are written (`pairwise_writtenCalls`).
-/

namespace Ripple

open Statement

variable {c : Codebase}

namespace Site

/-- The call that is written at a site. -/
def call? (site : Site c) : Option Invocation :=
  callInBody? site.method.method.statements site.path

/-- The positions of the type and of the method, and the path in the method. -/
def place (site : Site c) : List Nat :=
  site.method.owner.val :: site.method.index.val :: site.path

end Site

/-- The place where a call is written; none for a copy. -/
def Call.place (call : Call c) : List Nat := (call.site.map Site.place).getD []

namespace Codebase

/-! ## Calls and their sites -/

/-- The calls of a body are those written at the sites of the method. -/
theorem mem_callsOfBody_body {m : c.MethodRef} {x : Call c} : x ∈ callsOfBody m.body ↔
    ∃ path, x.site = some ⟨m, path⟩ ∧ (⟨m, path⟩ : Site c).call? = some x.invocation := by
  simp only [MethodRef.body, mem_callsOfBody_mapBodyAt_iff, List.nil_append]
  constructor
  · rintro ⟨path, call, hcall, rfl⟩
    exact ⟨path, rfl, hcall⟩
  · rintro ⟨path, hsite, hcall⟩
    obtain ⟨call, site⟩ := x
    exact ⟨path, call, hcall, congrArg (Call.mk call) hsite⟩

/-- Looking for the call at a place finds the one that is written there. -/
theorem callAt?_eq_some_iff {m : c.MethodRef} {path : List Nat} {x : Call c} :
    c.callAt? m path = some x ↔
      x.site = some ⟨m, path⟩ ∧ (⟨m, path⟩ : Site c).call? = some x.invocation := by
  have hsite {y : Call c} (hy : c.callAt? m path = some y) :
      y.site = some ⟨m, path⟩ ∧ (⟨m, path⟩ : Site c).call? = some y.invocation := by
    have hplace : y.site = some ⟨m, path⟩ := by simpa using List.find?_some hy
    obtain ⟨path', hsite, hcall⟩ := mem_callsOfBody_body.1 (List.mem_of_find?_eq_some hy)
    rw [hplace, Option.some.injEq] at hsite
    exact ⟨hplace, hsite ▸ hcall⟩
  refine ⟨hsite, fun ⟨hplace, hcall⟩ => ?_⟩
  have hfound : (c.callAt? m path).isSome = true :=
    List.find?_isSome.2 ⟨x, mem_callsOfBody_body.2 ⟨path, hplace, hcall⟩, by simp [hplace]⟩
  obtain ⟨y, hy⟩ := Option.isSome_iff_exists.1 hfound
  obtain ⟨hplace', hcall'⟩ := hsite hy
  obtain ⟨_, _⟩ := x
  obtain ⟨_, _⟩ := y
  simp_all

/-! ## Calls in the order of their places -/

/-- Every call of the codebase with its site. -/
def writtenCalls (c : Codebase) : List (Call c) :=
  c.methodRefs.flatMap fun m => callsOfBody m.body

theorem map_invocation_callsOfBody_body (m : c.MethodRef) :
    (callsOfBody m.body).map Call.invocation = m.method.calls := by
  rw [MethodRef.body, map_callsOfBody_mapBodyAt (e := Call.invocation) (g := id)
    (fun _ _ => rfl), List.map_id, Method.calls]

theorem map_invocation_writtenCalls (c : Codebase) :
    c.writtenCalls.map Call.invocation = c.calls := by
  rw [writtenCalls, methodRefs, calls, List.map_flatMap, List.flatMap_assoc, ← c.map_decl_refs,
    List.flatMap_map]
  refine List.flatMap_congr fun r _ => ?_
  rw [← map_method_methodsOf, List.flatMap_map]
  exact List.flatMap_congr fun m _ => map_invocation_callsOfBody_body m

theorem mem_writtenCalls {x : Call c} :
    x ∈ c.writtenCalls ↔ ∃ site : Site c, x.site = some site ∧ site.call? = some x.invocation := by
  simp only [writtenCalls, List.mem_flatMap, mem_callsOfBody_body]
  constructor
  · rintro ⟨m, -, path, hsite, hcall⟩
    exact ⟨⟨m, path⟩, hsite, hcall⟩
  · rintro ⟨site, hsite, hcall⟩
    exact ⟨site.method, mem_methodRefs _, site.path, hsite, hcall⟩

theorem place_of_mem_body {m : c.MethodRef} {x : Call c} (hx : x ∈ callsOfBody m.body) :
    x.place = m.owner.val :: m.index.val :: (x.site.map Site.path).getD [] := by
  obtain ⟨path, hsite, -⟩ := mem_callsOfBody_body.1 hx
  simp [Call.place, hsite, Site.place]

theorem pairwise_callsOfBody_body (m : c.MethodRef) :
    (callsOfBody m.body).Pairwise fun x y => x.place < y.place := by
  have hpaths := pairwise_callsOfBody_mapBodyAt
    (h := fun path call => (⟨call, some ⟨m, path⟩⟩ : Call c))
    (fun x => (x.site.map Site.path).getD []) (fun _ _ => rfl) m.method.statements []
  refine hpaths.imp_of_mem fun hx hy hxy => ?_
  rw [place_of_mem_body hx, place_of_mem_body hy]
  simpa using hxy

/-- Calls are met in the order of their places. -/
theorem pairwise_writtenCalls (c : Codebase) :
    c.writtenCalls.Pairwise fun x y => x.place < y.place := by
  rw [writtenCalls, methodRefs, List.flatMap_assoc]
  refine pairwise_flatMap_of_step [] Fin.val (List.pairwise_lt_finRange _)
    (fun r _ x hx => ?_) fun r _ => ?_
  · obtain ⟨m, hm, hx⟩ := List.mem_flatMap.1 hx
    simp [place_of_mem_body hx, owner_of_mem_methodsOf hm]
  · rw [methodsOf, List.flatMap_map]
    refine pairwise_flatMap_of_step [r.val] Fin.val
      (List.pairwise_lt_finRange _) (fun i _ x hx => ?_) fun i _ => pairwise_callsOfBody_body _
    simp [place_of_mem_body hx]

end Codebase

end Ripple
