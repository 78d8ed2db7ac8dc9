import Ripple.Messaging.Handler
import Ripple.Proofs.Call.Landing
import Ripple.Proofs.Call.Search
import Ripple.Proofs.Codebase.Ancestry
import Ripple.Proofs.Text.SimpleName

/-!
# Handling events

A method handles an event by its own name and by the type of a parameter, which must be the simple
name of the event inside some scope. A parameter of just the event's type is one of these where the
full name of the event has a scope, and then every class with such a method is found; where it has
none, that parameter does not count (`found_by_parameter_type`).

What a class handles, the classes that derive from it handle too: they implement what it implements,
and have each of its methods or an override, which takes the same (`event_handling_is_inherited`).
-/

namespace Ripple

open TypeDecl

/-! ## Methods that handle an event -/

namespace Profile

variable {p : Profile} {message : TypeDecl}

theorem handlesEvent_iff {m : Method} :
    p.handlesEvent m message = true ↔ m.name = p.eventHandlerMethod ∧
      ∃ q ∈ m.parameters, Name.isScoped q.typeName message.name = true := by
  rw [handlesEvent, Bool.and_eq_true, beq_iff_eq, Method.takes, List.any_eq_true]
  rfl

/-- An override handles what the method does that it overrides. -/
theorem handlesEvent_of_sameSignature {m m' : Method} (h : m'.sameSignature m = true)
    (hm : p.handlesEvent m message = true) : p.handlesEvent m' message = true := by
  simp only [Method.sameSignature, Bool.and_eq_true, beq_iff_eq] at h
  obtain ⟨hname, htypes⟩ := h
  obtain ⟨hhandle, q, hq, hscoped⟩ := handlesEvent_iff.1 hm
  have hmem : q.typeName ∈ m'.parameters.map (·.typeName) := htypes ▸ List.mem_map_of_mem hq
  obtain ⟨q', hq', htype⟩ := List.mem_map.1 hmem
  exact handlesEvent_iff.2 ⟨hname.trans hhandle, q', hq', htype ▸ hscoped⟩

theorem isEventHandler_iff {t : TypeDecl} :
    p.isEventHandler t message = true ↔ t.isClass = true ∧
      t.implements p.handlerCallbackType = true ∧
      ∃ m ∈ t.methods, p.handlesEvent m message = true := by
  rw [isEventHandler, Bool.and_eq_true, Bool.and_eq_true, List.any_eq_true, and_assoc]

end Profile

namespace Codebase

variable {c : Codebase} {p : Profile} {message : TypeDecl} {r : c.Ref}

theorem mem_eventHandlers_iff :
    r ∈ c.eventHandlers p message ↔ p.isEventHandler (c.decl r) message = true := by
  rw [eventHandlers, List.mem_filter, and_iff_right (mem_refs r)]

/-- A type has a method to run for an event if one of its methods handles it. -/
theorem isSome_handlingMethod_iff (hevent : p.kindOf message = .event) :
    (c.handlingMethod p r message).isSome = true ↔
      ∃ m ∈ (c.decl r).methods, p.handlesEvent m message = true := by
  rw [handlingMethod, List.find?_isSome, ← map_method_methodsOf]
  simp only [Profile.isHandlingMethod, hevent, List.mem_map, exists_exists_and_eq_and]

/-- An event handler for an event has a method to run for it. -/
theorem isSome_handlingMethod_of_mem (hevent : p.kindOf message = .event)
    (h : r ∈ c.eventHandlers p message) : (c.handlingMethod p r message).isSome = true :=
  (isSome_handlingMethod_iff hevent).2
    (Profile.isEventHandler_iff.1 (mem_eventHandlers_iff.1 h)).2.2

end Codebase

open Codebase

/-! ## Parameters of the type of the event -/

/-- A class that implements the handler callback and has a handle method with a parameter of just
the type of a message is found as an event handler if the full name of the message has a scope, a
dot in front of any generic arguments. Otherwise that parameter does not count: the class is found
only if a handle method has another one, whose type has all of that name behind a dot. An event has
a method to run for it in the class just if the class is found. -/
theorem found_by_parameter_type {c : Codebase} {p : Profile} {message r : c.Ref}
    (hclass : (c.decl r).isClass = true)
    (hcallback : (c.decl r).implements p.handlerCallbackType = true) {m : Method}
    (hm : m ∈ (c.decl r).methods) (hname : m.name = p.eventHandlerMethod) {q : Parameter}
    (hq : q ∈ m.parameters) (htype : q.typeName = c.fullName message) :
    (r ∈ c.eventHandlers p (c.decl message) ↔ ¬ Name.IsUnscoped (c.fullName message).toList ∨
      ∃ m' ∈ (c.decl r).methods, m'.name = p.eventHandlerMethod ∧ ∃ q' ∈ m'.parameters,
        ∃ scope, q'.typeName.toList = scope ++ '.' :: (c.fullName message).toList) ∧
    (p.kindOf (c.decl message) = .event →
      ((c.handlingMethod p r (c.decl message)).isSome = true ↔
        r ∈ c.eventHandlers p (c.decl message))) := by
  have hfound : r ∈ c.eventHandlers p (c.decl message) ↔
      ∃ m' ∈ (c.decl r).methods, p.handlesEvent m' (c.decl message) = true := by
    rw [mem_eventHandlers_iff, Profile.isEventHandler_iff, and_iff_right hclass,
      and_iff_right hcallback]
  refine ⟨hfound.trans ?_, fun hevent => (isSome_handlingMethod_iff hevent).trans hfound.symm⟩
  by_cases hscope : Name.IsUnscoped (c.fullName message).toList
  · -- without a scope the simple name is all of the full name
    have hwhole : (c.decl message).name = c.fullName message :=
      (Name.simple_eq_iff hscope).2 (.inl rfl)
    simp only [Profile.handlesEvent_iff, hwhole, Name.isScoped_iff, not_not_intro hscope, false_or]
  · refine iff_of_true ⟨m, hm, ?_⟩ (.inl hscope)
    refine Profile.handlesEvent_iff.2 ⟨hname, q, hq, ?_⟩
    rw [htype]
    exact Name.isScoped_simple_iff.2 hscope

namespace Relay

/-- The desk, which takes an order by its full name, is found for it. -/
theorem desk_takes_order :
    (shop.decl desk).isClass = true ∧ (shop.decl desk).implements "Handler" = true ∧
    handling.method ∈ (shop.decl desk).methods ∧ handling.method.name = "Handle" ∧
    ⟨"Shop.Placed", "placed", []⟩ ∈ handling.method.parameters ∧
    shop.fullName placed = "Shop.Placed" ∧ Profile.sample.kindOf (shop.decl placed) = .event ∧
    desk ∈ shop.eventHandlers .sample (shop.decl placed) ∧
    (shop.handlingMethod .sample desk (shop.decl placed)).isSome = true := by
  have hclass : (shop.decl desk).isClass = true := rfl
  have hcallback : (shop.decl desk).implements "Handler" = true := by decide
  have hm : handling.method ∈ (shop.decl desk).methods := List.getElem_mem _
  have hq : ⟨"Shop.Placed", "placed", []⟩ ∈ handling.method.parameters := List.mem_singleton_self _
  have hscope : ¬ Name.IsUnscoped (shop.fullName placed).toList := by
    unfold Name.IsUnscoped
    decide
  have hevent : Profile.sample.kindOf (shop.decl placed) = .event := by decide
  obtain ⟨hfound, hmethod⟩ :=
    @found_by_parameter_type shop .sample placed desk hclass hcallback _ hm rfl _ hq rfl
  have hdesk := hfound.2 (.inl hscope)
  exact ⟨hclass, hcallback, hm, rfl, hq, rfl, hevent, hdesk, (hmethod hevent).2 hdesk⟩

/-- Two events without a scope, one of which has a generic argument with one, and a desk that takes
both. -/
def stall : Codebase where
  types :=
    [(TypeDecl.empty .classType "Placed").withBase "Event",
      (TypeDecl.empty .classType "Batch<Shop.Item>").withBase "Event",
      (((TypeDecl.empty .classType "Store.Desk").withBase "Handler").withMethod
        ⟨"Handle", [⟨"Placed", "placed", []⟩], []⟩).withMethod
        ⟨"Handle", [⟨"Batch<Shop.Item>", "batch", []⟩], []⟩]

/-- The desk is found for neither event, and has no method to run for them. -/
theorem stall_overlooks_unscoped :
    Codebase.ofDeclared stall.types = stall ∧
    ∃ stallDesk : stall.Ref, (stall.decl stallDesk).isClass = true ∧
      (stall.decl stallDesk).implements "Handler" = true ∧
      ∀ event : stall.Ref, stall.fullName event ∈ ["Placed", "Batch<Shop.Item>"] →
        Profile.sample.kindOf (stall.decl event) = .event ∧
        (∃ m ∈ (stall.decl stallDesk).methods, m.name = "Handle" ∧
          ∃ q ∈ m.parameters, q.typeName = stall.fullName event) ∧
        stallDesk ∉ stall.eventHandlers .sample (stall.decl event) ∧
        (stall.handlingMethod .sample stallDesk (stall.decl event)).isSome = false :=
  ⟨(ofDeclared_eq_inRounds _).trans rfl, ⟨2, by decide⟩, by decide, by decide, by decide⟩

end Relay

/-! ## Deriving from a class that handles an event -/

namespace TypeDecl

variable {declared : List TypeDecl} {t base : TypeDecl}

/-- Of each member that a class has, its own or inherited, a type that derives from it has the same:
its own, where it is the one that lends it to the class. -/
theorem MemberKind.any_complete_of_ancestor {α : Type} (k : MemberKind α)
    (hnames : (declared.map fullName).Nodup) (ht : t ∈ declared) (hbase : base ∈ declared)
    (hderives : base.fullName ∈ ancestors declared t) (hinterface : base.isInterface = false)
    {m : α} (hm : m ∈ k.of (complete declared base)) :
    (k.of (complete declared t)).any (k.same · m) = true := by
  have hfirst {u : TypeDecl} (hu : u ∈ declared) : first? declared u.fullName = some u :=
    (find?_key_eq_some_iff hnames).2 ⟨hu, rfl⟩
  obtain ⟨hother, n, hn⟩ := ((ancestry_ancestors declared t).mem_iff _).1 hderives
  rcases k.mem_of_mem_complete hm with hown | ⟨lender, hlender, hlent, hclass, hm⟩
  · exact k.any_complete hderives (hfirst hbase) hinterface hown
  by_cases hsame : lender.fullName = t.fullName
  · rw [hsame, hfirst ht] at hlent
    obtain rfl := Option.some.inj hlent
    exact List.any_eq_true.2 ⟨m, (k.prefix_complete declared t).subset hm, k.same_refl m⟩
  · obtain ⟨-, n', hn'⟩ := ((ancestry_ancestors declared base).mem_iff _).1 hlender
    have hancestor : lender.fullName ∈ ancestors declared t :=
      ((ancestry_ancestors declared t).mem_iff _).2
        ⟨hsame, hn.trans (hfirst ht) (hfirst hbase) hother hn'⟩
    exact k.any_complete hancestor hlent hclass hm

/-- A class handles as an event what any class does that it derives from. -/
theorem isEventHandler_complete_of_ancestor {p : Profile} {message : TypeDecl}
    (hnames : (declared.map fullName).Nodup) (ht : t ∈ declared) (hbase : base ∈ declared)
    (hclass : (complete declared t).isClass = true)
    (hderives : base.fullName ∈ (complete declared t).baseTypes)
    (h : p.isEventHandler (complete declared base) message = true) :
    p.isEventHandler (complete declared t) message = true := by
  obtain ⟨hbaseClass, hcallback, m, hm, hhandles⟩ := Profile.isEventHandler_iff.1 h
  have himplements : (complete declared t).implements base.fullName = true := by
    simp [implements, hderives]
  have hinterface : base.isInterface = false := by
    rw [isClass, kind_complete, beq_iff_eq] at hbaseClass
    simp [isInterface, hbaseClass]
  rw [baseTypes_complete] at hderives
  obtain ⟨m', hm', hsame⟩ := List.any_eq_true.1
    (MemberKind.methodKind.any_complete_of_ancestor hnames ht hbase hderives hinterface hm)
  exact Profile.isEventHandler_iff.2 ⟨hclass,
    implements_trans hnames ht hbase himplements hcallback, m', hm',
    Profile.handlesEvent_of_sameSignature hsame hhandles⟩

end TypeDecl

/-- Where names are distinct, a class handles as an event what any class does that it derives from,
whether that class implements the handler callback and declares the handle method itself or inherits
them. For an event, both have a method to run. -/
theorem event_handling_is_inherited {declared : List TypeDecl} (p : Profile)
    (hnames : (declared.map TypeDecl.fullName).Nodup) (message : TypeDecl)
    {t base : (ofDeclared declared).Ref}
    (hclass : ((ofDeclared declared).decl t).isClass = true)
    (hderives : (ofDeclared declared).fullName base ∈ ((ofDeclared declared).decl t).baseTypes)
    (hbase : base ∈ (ofDeclared declared).eventHandlers p message) :
    t ∈ (ofDeclared declared).eventHandlers p message ∧
    (p.kindOf message = .event →
      ((ofDeclared declared).handlingMethod p t message).isSome = true ∧
      ((ofDeclared declared).handlingMethod p base message).isSome = true) := by
  have hdecl (r : (ofDeclared declared).Ref) :
      ∃ u ∈ declared, complete declared u = (ofDeclared declared).decl r :=
    List.mem_map.1 (List.getElem_mem r.isLt)
  obtain ⟨u, hu, hcomplete⟩ := hdecl t
  obtain ⟨v, hv, hcomplete'⟩ := hdecl base
  rw [Codebase.fullName, ← hcomplete, ← hcomplete', fullName_complete] at hderives
  have ht : t ∈ (ofDeclared declared).eventHandlers p message := by
    rw [mem_eventHandlers_iff, ← hcomplete'] at hbase
    rw [← hcomplete] at hclass
    rw [mem_eventHandlers_iff, ← hcomplete]
    exact isEventHandler_complete_of_ancestor hnames hu hv hclass hderives hbase
  exact ⟨ht, fun hevent => ⟨isSome_handlingMethod_of_mem hevent ht,
    isSome_handlingMethod_of_mem hevent hbase⟩⟩

namespace Relay

/-- An order, a clerk that handles it, a desk that derives from the clerk, and a kiosk that derives
from the desk and is a base of the clerk in turn. -/
def staff : List TypeDecl :=
  [(TypeDecl.empty .classType "Shop.Placed").withBase "Event",
    (((TypeDecl.empty .classType "Store.Clerk").withBase "Handler").withBase
      "Store.Kiosk").withMethod ⟨"Handle", [⟨"Shop.Placed", "placed", []⟩], []⟩,
    (TypeDecl.empty .classType "Store.Desk").withBase "Store.Clerk",
    (TypeDecl.empty .classType "Store.Kiosk").withBase "Store.Desk"]

/-- The staff, each with what it inherits. -/
def house : Codebase where
  types :=
    [(TypeDecl.empty .classType "Shop.Placed").withBase "Event",
      ((((TypeDecl.empty .classType "Store.Clerk").withBase "Handler").withBase
        "Store.Kiosk").withBase "Store.Desk").withMethod
        ⟨"Handle", [⟨"Shop.Placed", "placed", []⟩], []⟩,
      ((((TypeDecl.empty .classType "Store.Desk").withBase "Store.Clerk").withBase
        "Handler").withBase "Store.Kiosk").withMethod
        ⟨"Handle", [⟨"Shop.Placed", "placed", []⟩], []⟩,
      ((((TypeDecl.empty .classType "Store.Kiosk").withBase "Store.Desk").withBase
        "Store.Clerk").withBase "Handler").withMethod
        ⟨"Handle", [⟨"Shop.Placed", "placed", []⟩], []⟩]

/-- The kiosk handles orders because the desk does, which declares nothing itself. -/
theorem kiosk_handles_orders :
    ofDeclared staff = house ∧ (staff.map fullName).Nodup ∧ ∃ order kiosk counter : house.Ref,
      (house.decl kiosk).isClass = true ∧
      house.fullName counter ∈ (house.decl kiosk).baseTypes ∧
      counter ∈ house.eventHandlers .sample (house.decl order) ∧
      Profile.sample.kindOf (house.decl order) = .event ∧
      kiosk ∈ house.eventHandlers .sample (house.decl order) ∧
      (house.handlingMethod .sample kiosk (house.decl order)).isSome = true := by
  have hpopulated : ofDeclared staff = house := (ofDeclared_eq_inRounds _).trans rfl
  have hnames : (staff.map fullName).Nodup := by decide
  have hinherited := @event_handling_is_inherited staff .sample hnames
  rw [hpopulated] at hinherited
  let order : house.Ref := ⟨0, by decide⟩
  have hclass : (house.decl ⟨3, by decide⟩).isClass = true := rfl
  have hderives : house.fullName ⟨2, by decide⟩ ∈ (house.decl ⟨3, by decide⟩).baseTypes := by decide
  have hcounter : ⟨2, by decide⟩ ∈ house.eventHandlers .sample (house.decl order) := by decide
  have hevent : Profile.sample.kindOf (house.decl order) = .event := by decide
  obtain ⟨hkiosk, hmethods⟩ := hinherited _ hclass hderives hcounter
  exact ⟨hpopulated, hnames, order, _, _, hclass, hderives, hcounter, hevent, hkiosk,
    (hmethods hevent).1⟩

end Relay

end Ripple
