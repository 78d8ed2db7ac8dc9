import Ripple.Call.Dispatch
import Ripple.Proofs.Codebase.Overriding

/-!
# Dispatch as a search in the hierarchy

A call lands where a search in the declarations would take it: among the methods that the named
type declares and, behind them, those that its bases declare, in order. A populated type lacks the
methods of its bases that are overridden, but these have the name and the number of parameters of
one that comes before them, so that the search never gets to them.
-/

namespace Ripple

open TypeDecl

/-- Among methods in order, the first of that name and number of parameters, else the first of that
name. -/
def Method.search (name : String) (arity : Nat) (methods : List Method) : Option Method :=
  (methods.find? fun m => m.name == name && m.parameters.length == arity).or
    (methods.find? (·.name == name))

theorem Method.search_eq_none_iff {name : String} {arity : Nat} {methods : List Method} :
    search name arity methods = none ↔ ∀ m ∈ methods, m.name ≠ name := by
  rw [search, Option.or_eq_none_iff, List.find?_eq_none, List.find?_eq_none]
  simp only [Bool.and_eq_true, beq_iff_eq, not_and]
  exact ⟨fun h => h.2, fun h => ⟨fun m hm hname => absurd hname (h m hm), h⟩⟩

/-- The methods that a type or one of its lenders declares, its own first. -/
def TypeDecl.hierarchyMethods (declared : List TypeDecl) (t : TypeDecl) : List Method :=
  t.methods ++ (lenders declared t).flatMap methods

/-- What is overridden is not missed in a search. -/
theorem TypeDecl.search_complete (name : String) (arity : Nat) (declared : List TypeDecl)
    (t : TypeDecl) : Method.search name arity (complete declared t).methods =
      Method.search name arity (hierarchyMethods declared t) := by
  have hsignature {a b : Method} (h : a.sameSignature b = true) :
      a.name = b.name ∧ a.parameters.length = b.parameters.length := by
    simp only [Method.sameSignature, Bool.and_eq_true, beq_iff_eq] at h
    exact ⟨h.1, by simpa using congrArg List.length h.2⟩
  have hfind {q : Method → Bool} (hq : ∀ a b : Method, a.sameSignature b = true → q a = q b) :
      (complete declared t).methods.find? q = (hierarchyMethods declared t).find? q :=
    MemberKind.methodKind.find?_complete hq declared t
  rw [Method.search, Method.search, hfind, hfind]
  · intro a b hab
    rw [(hsignature hab).1]
  · intro a b hab
    rw [(hsignature hab).1, (hsignature hab).2]

namespace Codebase

variable {c : Codebase}

theorem map_method_methodsOf (r : c.Ref) : (c.methodsOf r).map MethodRef.method =
    (c.decl r).methods := by
  rw [methodsOf, List.map_map]
  exact List.map_getElem_finRange _

theorem map_method_select (methods : List c.MethodRef) (name : String) (arity : Nat) :
    (c.select methods name arity).map MethodRef.method =
      Method.search name arity (methods.map MethodRef.method) := by
  simp only [select, Method.search, List.find?_filter, List.head?_filter, List.find?_map,
    Option.map_or, Function.comp_def, Bool.decide_and, Bool.decide_eq_true]

theorem map_decl_find?_ofDeclared (declared : List TypeDecl) (name : String) :
    ((ofDeclared declared).find? name).map (ofDeclared declared).decl =
      (first? declared name).map (complete declared) :=
  (map_decl_find? _ name).trans (first?_map (fullName_complete declared) declared name)

theorem map_method_resolve (declared : List TypeDecl) (call : Invocation) :
    ((ofDeclared declared).resolve call).map MethodRef.method =
      (first? declared ((ofDeclared declared).redirect call).containingType).bind fun d =>
        Method.search call.name call.arguments.length (hierarchyMethods declared d) := by
  have hpopulated (r : (ofDeclared declared).Ref) :
      ((ofDeclared declared).select ((ofDeclared declared).methodsOf r) call.name
          call.arguments.length).map MethodRef.method =
        Method.search call.name call.arguments.length ((ofDeclared declared).decl r).methods := by
    rw [map_method_select, map_method_methodsOf]
  calc ((ofDeclared declared).resolve call).map MethodRef.method
      = (((ofDeclared declared).find? ((ofDeclared declared).redirect call).containingType).map
          (ofDeclared declared).decl).bind fun t =>
            Method.search call.name call.arguments.length t.methods := by
        rw [resolve, Option.map_bind, Option.bind_map]
        exact congrArg _ (funext hpopulated)
    _ = (first? declared ((ofDeclared declared).redirect call).containingType).bind fun d =>
          Method.search call.name call.arguments.length (complete declared d).methods := by
        rw [map_decl_find?_ofDeclared, Option.bind_map]
        rfl
    _ = _ := by simp only [search_complete]

end Codebase

open Codebase

/-- In a populated codebase a call lands on a method equal to the one that a search in the
declarations finds: the first with the invoked name and as many parameters as there are arguments,
or else the first with that name, among the methods that the type behind the call declares and those
that its bases declare, in order. It lands nowhere just if there is no such type or no method of
that name, and its body is the one of that method. -/
theorem resolve_searches_declarations (declared : List TypeDecl) (call : Invocation) :
    let c := ofDeclared declared
    let target := (c.redirect call).containingType
    let found := (first? declared target).bind fun d =>
      Method.search call.name call.arguments.length (hierarchyMethods declared d)
    (c.resolve call).map MethodRef.method = found ∧
    (c.resolve call = none ↔ first? declared target = none ∨ ∃ d, first? declared target = some d ∧
      ∀ m ∈ hierarchyMethods declared d, m.name ≠ call.name) ∧
    c.bodyOf call = (found.map (·.statements)).getD [] := by
  intro c target found
  have hfound : (c.resolve call).map MethodRef.method = found := map_method_resolve declared call
  refine ⟨hfound, ?_, ?_⟩
  · rw [← Option.map_eq_none_iff (f := MethodRef.method), hfound]
    simp only [found]
    cases first? declared target with
    | none => simp
    | some d => simpa using Method.search_eq_none_iff
  · rw [← hfound, bodyOf]
    cases c.resolve call <;> rfl

end Ripple
