import Ripple.Proofs.Call.Redirect
import Ripple.Proofs.Code.Mapping
import Ripple.Messaging.Handler

/-!
# Codebases within codebases

An embedding takes each type of one codebase to a type of another that is declared the same, and
no two to one. It takes methods to methods and calls to calls along with their sites, so what is
decided by looking at one type alone goes past it: which of its methods a call selects, and
which handles a message.

An embedding is faithful if names, interfaces and messages lead to corresponding types in the
two codebases. Then what calls land on and what they stand for go past it as well.
-/

namespace Ripple

open Statement

/-- A way to see the types of one codebase as types of another. -/
structure Embedding (c d : Codebase) where
  ref : c.Ref → d.Ref
  decl_ref : ∀ r, d.decl (ref r) = c.decl r
  injective : Function.Injective ref

namespace Embedding

variable {c d : Codebase} (f : Embedding c d)

theorem fullName_ref (r : c.Ref) : d.fullName (f.ref r) = c.fullName r :=
  congrArg TypeDecl.fullName (f.decl_ref r)

theorem decl_comp_ref : d.decl ∘ f.ref = c.decl := funext f.decl_ref

/-- A codebase whose types are picked from another embeds into it. -/
theorem exists_map_refs_eq {picked : List d.Ref} (hnodup : picked.Nodup)
    (htypes : picked.map d.decl = c.types) : ∃ f : Embedding c d, c.refs.map f.ref = picked := by
  have hlength : c.types.length = picked.length := by rw [← htypes, List.length_map]
  have hdecl (r : c.Ref) : d.decl picked[r.cast hlength] = c.decl r := by
    simp only [Codebase.decl, ← htypes, List.getElem_map, Fin.getElem_fin, Fin.val_cast]
  have hinjective : Function.Injective fun r : c.Ref => picked[r.cast hlength] := by
    intro r r' h
    have hsame := (List.Nodup.getElem_inj_iff hnodup).1 h
    exact Fin.ext hsame
  refine ⟨⟨_, hdecl, hinjective⟩, List.ext_getElem ?_ fun i _ _ => ?_⟩
  · simp [Codebase.refs, hlength]
  · simp [Codebase.refs]

/-! ## Methods -/

/-- The same method, seen in the other codebase. -/
def method (m : c.MethodRef) : d.MethodRef :=
  ⟨f.ref m.owner, m.index.cast (by rw [f.decl_ref])⟩

theorem method_injective : Function.Injective f.method := by
  rintro ⟨owner, index⟩ ⟨owner', index'⟩ h
  obtain rfl : owner = owner' := f.injective (congrArg Codebase.MethodRef.owner h)
  have hindex := congrArg (fun m : d.MethodRef => m.index.val) h
  obtain rfl : index = index' := Fin.ext hindex
  rfl

@[simp] theorem method_method (m : c.MethodRef) : (f.method m).method = m.method := by
  simp only [Codebase.MethodRef.method, method, f.decl_ref]
  rfl

theorem methodsOf_ref (r : c.Ref) : d.methodsOf (f.ref r) = (c.methodsOf r).map f.method := by
  have hcast {n k : Nat} (h : n = k) : List.finRange k = (List.finRange n).map (Fin.cast h) := by
    subst h
    simp
  have hlength : (c.decl r).methods.length = (d.decl (f.ref r)).methods.length := by
    rw [f.decl_ref]
  rw [Codebase.methodsOf, Codebase.methodsOf, hcast hlength, List.map_map, List.map_map]
  rfl

/-! ## Calls -/

/-- The same place, seen in the other codebase. -/
def site (s : Site c) : Site d := ⟨f.method s.method, s.path⟩

/-- The same call, seen in the other codebase. -/
def call (x : Call c) : Call d := ⟨x.invocation, x.site.map f.site⟩

theorem site_injective : Function.Injective f.site := by
  rintro ⟨m, path⟩ ⟨m', path'⟩ h
  obtain ⟨hm, rfl⟩ := Site.mk.inj h
  obtain rfl := f.method_injective hm
  rfl

@[simp] theorem invocation_call (x : Call c) : (f.call x).invocation = x.invocation := rfl

@[simp] theorem isAt_call (x origin : Call c) :
    (f.call x).isAt (f.call origin) = x.isAt origin := by
  have hsame : (f.call x).site = (f.call origin).site ↔ x.site = origin.site :=
    (Option.map_injective f.site_injective).eq_iff
  have hsome : (f.call x).site.isSome = x.site.isSome := Option.isSome_map
  rw [Bool.eq_iff_iff, Call.isAt, Call.isAt, Bool.and_eq_true, Bool.and_eq_true, beq_iff_eq,
    beq_iff_eq, hsame, hsome]

@[simp] theorem isCallAt_map_call (origin : Call c) (s : Statement (Call c)) :
    (s.map f.call).isCallAt (f.call origin) = s.isCallAt origin := by
  cases s with
  | call target => exact f.isAt_call target origin
  | _ => rfl

theorem body_method (m : c.MethodRef) : (f.method m).body = m.body.map (·.map f.call) := by
  rw [Codebase.MethodRef.body, Codebase.MethodRef.body, map_mapBodyAt, f.method_method]
  rfl

theorem select_map (methods : List c.MethodRef) (name : String) (arity : Nat) :
    d.select (methods.map f.method) name arity = (c.select methods name arity).map f.method := by
  have hnamed : (methods.map f.method).filter (·.method.name == name) =
      (methods.filter (·.method.name == name)).map f.method := by
    rw [List.filter_map]
    congr 1
    exact List.filter_congr fun m _ => by rw [Function.comp_apply, f.method_method]
  have harity : (·.method.parameters.length == arity) ∘ f.method =
      (·.method.parameters.length == arity) := by
    funext m
    rw [Function.comp_apply, f.method_method]
  simp only [Codebase.select, hnamed, List.find?_map, harity, List.head?_map, Option.map_or]

theorem handlingMethod_ref (p : Profile) (handler : c.Ref) (message : TypeDecl) :
    d.handlingMethod p (f.ref handler) message =
      (c.handlingMethod p handler message).map f.method := by
  rw [Codebase.handlingMethod, f.methodsOf_ref, List.find?_map, Codebase.handlingMethod]
  congr 2
  funext m
  rw [Function.comp_apply, f.method_method]

/-! ## Names and interfaces -/

section find?

variable {f} (hfind : ∀ fullName, d.find? fullName = (c.find? fullName).map f.ref)
include hfind

theorem isInterface_eq (fullName : String) : d.isInterface fullName = c.isInterface fullName := by
  rw [Codebase.isInterface, hfind, Option.any_map, Codebase.isInterface]
  congr 1
  funext r
  rw [f.decl_ref]

/-- Calls on interfaces are sent to types of the same name if the first implementers
correspond. -/
theorem redirect_eq (hfirst : ∀ fullName, c.isInterface fullName = true →
      (d.implementers fullName).head? = ((c.implementers fullName).head?).map f.ref)
    (call : Invocation) : d.redirect call = c.redirect call := by
  rw [Codebase.redirect, isInterface_eq hfind, Codebase.redirect]
  split
  next hinterface =>
    rw [Codebase.chosen?_implementation, hfirst _ hinterface, Codebase.chosen?_implementation]
    cases (c.implementers call.containingType).head? with
    | none => rfl
    | some chosen => simp only [Option.map_some, f.fullName_ref]
  next => rfl

end find?

/-! ## Faithful embeddings -/

/-- Whether names and messages lead to corresponding types, and interfaces to types of the same
name. -/
structure Faithful (f : Embedding c d) (p : Profile) : Prop where
  find? : ∀ fullName, d.find? fullName = (c.find? fullName).map f.ref
  redirect : ∀ call, d.redirect call = c.redirect call
  handlers : ∀ message, d.handlers p (c.decl message) = (c.handlers p (c.decl message)).map f.ref

variable {f} {p : Profile}

/-- An embedding is faithful if names lead to corresponding types and so does going through all
types for the implementers of an interface and for the handlers of a message. -/
theorem faithful_of_choices (hfind : ∀ fullName, d.find? fullName = (c.find? fullName).map f.ref)
    (himplementers : ∀ r, (c.decl r).isInterface = true →
      d.implementers (c.fullName r) = (c.implementers (c.fullName r)).map f.ref)
    (hevents : ∀ message, d.eventHandlers p (c.decl message) =
      (c.eventHandlers p (c.decl message)).map f.ref)
    (hcommands : ∀ message,
      (d.refs.filter fun r => p.isCommandHandler (d.decl r) (c.decl message)) =
        (c.refs.filter fun r => p.isCommandHandler (c.decl r) (c.decl message)).map f.ref) :
    f.Faithful p where
  find? := hfind
  redirect := by
    refine redirect_eq hfind fun fullName hinterface => ?_
    obtain ⟨r, hr, hkind⟩ := (Option.any_eq_true _ _).1 hinterface
    rw [← Codebase.fullName_of_find? hr, himplementers r hkind, List.head?_map]
  handlers message := by
    have hcommand : d.commandHandler p (c.decl message) =
        (c.commandHandler p (c.decl message)).map f.ref := by
      rw [Codebase.commandHandler, ← List.head?_filter, hcommands, List.head?_map,
        List.head?_filter, Codebase.commandHandler]
    rw [Codebase.handlers, hevents, hcommand, Codebase.handlers, List.map_append,
      Option.toList_map]

namespace Faithful

variable (h : f.Faithful p)
include h

theorem resolve (call : Invocation) : d.resolve call = (c.resolve call).map f.method := by
  rw [Codebase.resolve, h.redirect, h.find?, Option.bind_map, Codebase.resolve, Option.map_bind]
  congr 1
  funext r
  simp only [Function.comp_apply, methodsOf_ref, select_map]

theorem standIn (origin call : Call c) :
    d.standIn p (f.call origin) (f.call call) =
      (c.standIn p origin call).map (·.map f.call) := by
  unfold Codebase.standIn
  rw [isAt_call, invocation_call, h.resolve]
  split
  · rfl
  split
  · rfl
  cases c.resolve call.invocation with
  | none => rfl
  | some m =>
    simp only [Option.map_some, body_method, List.filter_map]
    congr 1
    exact List.filter_congr fun s _ => by rw [Function.comp_apply, isCallAt_map_call]

theorem unfold (origin : Call c) (s : Statement (Call c)) :
    d.unfold p (f.call origin) (s.map f.call) = (c.unfold p origin s).map (·.map f.call) := by
  unfold Codebase.unfold
  rw [isCallAt_map_call, isComposite_map]
  split
  · rfl
  split
  · rw [replace_map (h.standIn origin), List.map_map, List.map_map]
    refine List.map_congr_left fun t _ => ?_
    rw [Function.comp_apply, Function.comp_apply, map_map, map_map]
    rfl
  · rfl

theorem inlinedBody (origin : Call c) (m : c.MethodRef) :
    d.inlinedBody p (f.call origin) (f.method m) =
      (c.inlinedBody p origin m).map (·.map f.call) := by
  rw [Codebase.inlinedBody, body_method, List.flatMap_map, Codebase.inlinedBody, List.map_flatMap]
  exact List.flatMap_congr fun s _ => h.unfold origin s

theorem landsOn {call : Invocation} {m : c.MethodRef} (hm : c.LandsOn p call m) :
    d.LandsOn p call (f.method m) :=
  ⟨hm.1, by rw [h.resolve, hm.2, Option.map_some]⟩

end Faithful

end Embedding

end Ripple
