import Ripple.Proofs.Codebase.Population
import Ripple.Proofs.Flow.Gathering
import Ripple.Proofs.Flow.Participants
import Ripple.Proofs.Text.ByteOrder

/-!
# Command diagrams

There is one diagram for each simple name of a command, and names are in the order of their
bytes. A diagram lists the services of the commands of its name by their scopes, and shows the
flow of the first of them that has a handler. That one is looked up again by its full name, which
may find an earlier type of that name; but a type is the handler of a message by the full name of
the message alone, so the flow starts with an arrow under the name of the diagram.
-/

namespace Ripple

open Fragment Relation Text

namespace Codebase

variable {c : Codebase} {p : Profile}

/-! ## Names -/

section names

variable {name other : String} {names : List String}

theorem mem_insertName : other ∈ insertName name names ↔ other = name ∨ other ∈ names := by
  induction names with
  | nil => simp [insertName]
  | cons first rest ih =>
    unfold insertName
    split
    · simp
    · split
      next hsame =>
        obtain rfl := beq_iff_eq.1 hsame
        simp
      next =>
        rw [List.mem_cons, ih, List.mem_cons]
        tauto

theorem pairwise_insertName (h : names.Pairwise (· < ·)) :
    (insertName name names).Pairwise (· < ·) := by
  induction names with
  | nil => exact List.pairwise_singleton _ name
  | cons first rest ih =>
    obtain ⟨hfirst, hrest⟩ := List.pairwise_cons.1 h
    unfold insertName
    split
    next hlt =>
      refine List.pairwise_cons.2 ⟨fun other hother => ?_, h⟩
      obtain rfl | hother := List.mem_cons.1 hother
      · exact hlt
      · exact hlt.trans (hfirst other hother)
    next hle =>
      split
      next => exact h
      next hne =>
        refine List.pairwise_cons.2 ⟨fun other hother => ?_, ih hrest⟩
        obtain rfl | hother := mem_insertName.1 hother
        · exact lt_of_le_of_ne (not_lt.1 hle) fun hsame => hne (beq_iff_eq.2 hsame.symm)
        · exact hfirst other hother

theorem mem_commandNames :
    name ∈ c.commandNames p ↔ ∃ r ∈ c.commands p, (c.decl r).name = name := by
  have hfold (l : List c.Ref) (names : List String) :
      name ∈ l.foldl (fun names r => insertName (c.decl r).name names) names ↔
        name ∈ names ∨ ∃ r ∈ l, (c.decl r).name = name := by
    induction l generalizing names with
    | nil => simp
    | cons r rest ih =>
      rw [List.foldl_cons, ih, mem_insertName, List.exists_mem_cons_iff]
      tauto
  rw [commandNames, hfold]
  simp

theorem pairwise_commandNames : (c.commandNames p).Pairwise (· < ·) := by
  have hfold (l : List c.Ref) {names : List String} (h : names.Pairwise (· < ·)) :
      (l.foldl (fun names r => insertName (c.decl r).name names) names).Pairwise (· < ·) := by
    induction l generalizing names with
    | nil => exact h
    | cons r rest ih => exact ih (pairwise_insertName h)
  exact hfold _ .nil

end names

/-! ## Sorting by scope -/

/-- Whether a list is a group of types sorted by scope: in the order of the bytes of their scopes,
and within one scope as before. -/
structure SortedByScope (c : Codebase) (group sorted : List c.Ref) : Prop where
  perm : sorted.Perm group
  ordered : sorted.Pairwise fun a b =>
    bytes (c.decl a).scope < bytes (c.decl b).scope ∨ (c.decl a).scope = (c.decl b).scope
  stable : ∀ scope, sorted.filter (fun r => (c.decl r).scope == scope) =
    group.filter fun r => (c.decl r).scope == scope

theorem sortedByScope_sortByScope (group : List c.Ref) :
    c.SortedByScope group (c.sortByScope group) := by
  have htrans (a b d : c.Ref) (hab : decide ((c.decl a).scope ≤ (c.decl b).scope) = true)
      (hbd : decide ((c.decl b).scope ≤ (c.decl d).scope) = true) :
      decide ((c.decl a).scope ≤ (c.decl d).scope) = true :=
    decide_eq_true ((of_decide_eq_true hab).trans (of_decide_eq_true hbd))
  have htotal (a b : c.Ref) : (decide ((c.decl a).scope ≤ (c.decl b).scope) ||
      decide ((c.decl b).scope ≤ (c.decl a).scope)) = true := by
    simpa using le_total (c.decl a).scope (c.decl b).scope
  refine ⟨List.mergeSort_perm _ _, ?_, fun scope => ?_⟩
  · refine (List.pairwise_mergeSort htrans htotal group).imp fun hle => ?_
    rw [bytes_lt_bytes_iff]
    exact lt_or_eq_of_le (of_decide_eq_true hle)
  · -- the types of one scope are a sorted part of the group
    have hsame : (group.filter fun r => (c.decl r).scope == scope).Pairwise fun a b =>
        decide ((c.decl a).scope ≤ (c.decl b).scope) = true := by
      refine List.pairwise_of_forall_mem_list fun a ha b hb => ?_
      have ha' := beq_iff_eq.1 (List.mem_filter.1 ha).2
      have hb' := beq_iff_eq.1 (List.mem_filter.1 hb).2
      rw [ha', hb']
      exact decide_eq_true le_rfl
    have hsublist := (List.sublist_mergeSort htrans htotal hsame List.filter_sublist).filter
      fun r => (c.decl r).scope == scope
    rw [List.filter_filter] at hsublist
    simp only [Bool.and_self] at hsublist
    refine (hsublist.eq_of_length ?_).symm
    exact (((List.mergeSort_perm group _).filter _).length_eq).symm

/-! ## The first command with a handler -/

section handled

variable {message other : c.Ref} {group : List c.Ref} {r : c.Ref}

/-- Types of one full name have the same command handler. -/
theorem commandHandler_congr (h : c.fullName message = c.fullName other) :
    c.commandHandler p (c.decl message) = c.commandHandler p (c.decl other) := by
  have h' : (c.decl message).fullName = (c.decl other).fullName := h
  have hhandler (t : TypeDecl) :
      p.isCommandHandler t (c.decl message) = p.isCommandHandler t (c.decl other) := by
    simp only [Profile.isCommandHandler, Profile.bindsFromBody, h']
  simp only [commandHandler, hhandler]

theorem isSome_firstHandled : (c.firstHandled p group).isSome = true ↔
    ∃ r ∈ group, (c.commandHandler p (c.decl r)).isSome = true :=
  List.find?_isSome

/-- In a group in order, the first command with a handler is the one no other precedes. -/
theorem firstHandled_eq_some_of_forall (hgroup : group.Pairwise (· < ·)) (hr : r ∈ group)
    (hhandled : (c.commandHandler p (c.decl r)).isSome = true)
    (hfirst : ∀ other ∈ group, other < r → (c.commandHandler p (c.decl other)).isSome = false) :
    c.firstHandled p group = some r := by
  obtain ⟨before, after, rfl⟩ := List.append_of_mem hr
  refine List.find?_eq_some_iff_append.2 ⟨hhandled, before, after, rfl, fun other hother => ?_⟩
  have hlt := (List.pairwise_append.1 hgroup).2.2 other hother r List.mem_cons_self
  rw [hfirst other (List.mem_append_left _ hother) hlt]
  rfl

/-- The flow of a message that has a command handler starts with an arrow under its name. -/
theorem extractFrom_starts_with_arrow (hdepth : 1 ≤ p.maxDepth)
    (h : (c.commandHandler p (c.decl message)).isSome = true) :
    ∃ a rest, (c.extractFrom p message).fragments = .arrow a :: rest ∧
      a.label = (c.decl message).name := by
  obtain ⟨handler, hhandler⟩ := Option.isSome_iff_exists.1 h
  have hmem : handler ∈ c.handlers p (c.decl message) := by
    rw [handlers, hhandler]
    exact List.mem_append_right _ List.mem_cons_self
  obtain ⟨first, others, hhandlers⟩ := List.exists_cons_of_ne_nil (List.ne_nil_of_mem hmem)
  have hwalked : ∃ rest, (c.freshVisit p message).1 =
      .arrow (c.arrowTo p none message first) :: rest := by
    have hlt : ([] : List Visit).length < p.maxDepth := hdepth
    rw [freshVisit_fst, drawVisit_of_lt hlt, hhandlers, List.flatMap_cons]
    exact ⟨_, rfl⟩
  obtain ⟨rest, hwalked⟩ := hwalked
  cases hnamed : c.namedCaller? p message with
  | none =>
    rw [extractFrom_of_not_named hnamed]
    exact ⟨_, rest, hwalked, rfl⟩
  | some service =>
    rw [(extractFrom_of_named hnamed).2]
    simp only [hwalked, withFirstSource]
    exact ⟨_, rest, rfl, rfl⟩

end handled

/-! ## One diagram -/

/-- Whether a diagram is the one that a group of commands of its name is to have. -/
structure IsDiagramOf (c : Codebase) (p : Profile) (group : List c.Ref) (d : CommandDiagram) :
    Prop where
  definedIn : ∃ sorted, c.SortedByScope group sorted ∧
    d.definedIn = sorted.filterMap fun r => p.serviceOf (c.decl r)
  isSome : d.extraction.isSome = true ↔
    ∃ r ∈ group, (c.commandHandler p (c.decl r)).isSome = true
  first : ∀ r ∈ group, (c.commandHandler p (c.decl r)).isSome = true →
    (∀ other ∈ group, other < r → (c.commandHandler p (c.decl other)).isSome = false) →
      d.extraction = c.extract p (c.fullName r)
  opening : 1 ≤ p.maxDepth → ∀ e ∈ d.extraction,
    ∃ a rest, e.fragments = .arrow a :: rest ∧ a.label = d.name

variable {name : String} {group : List c.Ref}

theorem isDiagramOf_commandDiagram (hgroup : group.Pairwise (· < ·))
    (hname : ∀ r ∈ group, (c.decl r).name = name) :
    c.IsDiagramOf p group (c.commandDiagram p name group) where
  definedIn := ⟨_, sortedByScope_sortByScope group, rfl⟩
  isSome := by
    rw [← isSome_firstHandled]
    simp only [commandDiagram]
    cases c.firstHandled p group with
    | none => exact Iff.rfl
    | some r =>
      have hfind : (c.find? (c.fullName r)).isSome = true :=
        List.find?_isSome.2 ⟨r, mem_refs r, beq_self_eq_true _⟩
      obtain ⟨found, hfound⟩ := Option.isSome_iff_exists.1 hfind
      simp only [Option.bind_some, extract, hfound, Option.map_some, Option.isSome_some]
  first r hr hhandled hfirst := by
    simp only [commandDiagram, firstHandled_eq_some_of_forall hgroup hr hhandled hfirst,
      Option.bind_some]
  opening hdepth e he := by
    obtain ⟨r, hr, hextract⟩ := Option.bind_eq_some_iff.1 he
    obtain ⟨found, hfound, rfl⟩ := Option.map_eq_some_iff.1 hextract
    have hsame := fullName_of_find? hfound
    have hhandled := List.find?_some (p := fun r => (c.commandHandler p (c.decl r)).isSome) hr
    rw [← commandHandler_congr hsame] at hhandled
    obtain ⟨a, rest, hfragments, hlabel⟩ := extractFrom_starts_with_arrow hdepth hhandled
    refine ⟨a, rest, hfragments, hlabel.trans ?_⟩
    exact (congrArg Name.simple hsame).trans (hname r (List.mem_of_find?_eq_some hr))

end Codebase

open Codebase

/-- The command diagrams are one for each simple name of a command, names in the order of their
bytes, each that of the commands of its name in their order; and extracting flows side by side
gives no others, whichever task ends first. -/
theorem one_diagram_per_command_name (c : Codebase) (p : Profile) :
    ((c.extractCommands p).map (·.name)).Pairwise (bytes · < bytes ·) ∧
    (∀ name, name ∈ (c.extractCommands p).map (·.name) ↔
      ∃ r, c.fullName r ≠ p.commandType ∧ (c.decl r).implements p.commandType = true ∧
        (c.decl r).name = name) ∧
    (∀ d ∈ c.extractCommands p,
      c.IsDiagramOf p (c.refs.filter fun r => c.isCommand p r && (c.decl r).name == d.name) d) ∧
    ∀ pending, ReflTransGen (c.Ends p) (c.launch p) pending →
      (∀ diagrams, gather pending = some diagrams → diagrams = c.extractCommands p) ∧
        ∃ later, ReflTransGen (c.Ends p) pending later ∧
          gather later = some (c.extractCommands p) := by
  have hnames : (c.extractCommands p).map (·.name) = c.commandNames p := by
    rw [extractCommands, commandGroups, List.map_map, List.map_map]
    exact List.map_id' _
  refine ⟨?_, fun name => ?_, fun d hd => ?_, fun pending h => gather_of_launch h⟩
  · rw [hnames]
    exact pairwise_commandNames.imp fun hlt => bytes_lt_bytes_iff.2 hlt
  · rw [hnames, mem_commandNames]
    simp [commands, isCommand, mem_refs, and_assoc]
  · obtain ⟨⟨name, group⟩, hgroup, rfl⟩ := List.mem_map.1 hd
    obtain ⟨-, -, rfl, rfl⟩ := List.mem_map.1 hgroup
    have hfilter : c.commandsNamed p name =
        c.refs.filter fun r => c.isCommand p r && (c.decl r).name == name := by
      rw [commandsNamed, commands, List.filter_filter]
      exact List.filter_congr fun r _ => Bool.and_comm _ _
    show c.IsDiagramOf p (c.refs.filter fun r => c.isCommand p r && (c.decl r).name == name)
      (c.commandDiagram p name (c.commandsNamed p name))
    rw [← hfilter]
    refine isDiagramOf_commandDiagram ?_ fun r hr => beq_iff_eq.1 (List.mem_filter.1 hr).2
    rw [hfilter]
    exact (List.pairwise_lt_finRange _).filter _

namespace Relay

/-- Two services that know the same command, and a page that takes the one of the shop. -/
def counter : Codebase where
  types :=
    [(TypeDecl.empty .classType "Store.Ship").withBase "Command",
     (TypeDecl.empty .classType "Shop.Ship").withBase "Command",
     (TypeDecl.empty .classType "Shop.Page").withMethod
       ⟨"Take", [⟨"Shop.Ship", "order", ["FromBody"]⟩], []⟩]

theorem counter_definedIn :
    counter.definedIn .sample [⟨0, by decide⟩, ⟨1, by decide⟩] = ["Shop", "Store"] := by
  have hscopes : ¬ (counter.decl ⟨0, by decide⟩).scope ≤ (counter.decl ⟨1, by decide⟩).scope := by
    decide
  have hsorted : counter.sortByScope [⟨0, by decide⟩, ⟨1, by decide⟩] =
      [⟨1, by decide⟩, ⟨0, by decide⟩] := by
    simp [sortByScope, List.mergeSort, hscopes]
  rw [Codebase.definedIn, hsorted]
  decide

/-- The one diagram lists the shop before the store, and shows the flow of the command that the
page takes, though the other one comes first. -/
theorem counter_diagram :
    ∃ d ∈ counter.extractCommands .sample, d.name = "Ship" ∧ d.definedIn = ["Shop", "Store"] ∧
      d.extraction = counter.extract .sample "Shop.Ship" ∧ 1 ≤ Profile.sample.maxDepth ∧
      ∃ e ∈ d.extraction, ∃ a rest, e.fragments = .arrow a :: rest ∧ a.label = "Ship" := by
  have hgroups : counter.commandGroups .sample =
      [("Ship", [⟨0, by decide⟩, ⟨1, by decide⟩])] := by decide
  let d := counter.commandDiagram .sample "Ship" [⟨0, by decide⟩, ⟨1, by decide⟩]
  have hd : d ∈ counter.extractCommands .sample := by
    rw [extractCommands, hgroups]
    exact List.mem_cons_self
  have hdiagram := (one_diagram_per_command_name counter .sample).2.2.1 d hd
  have hextraction := hdiagram.first ⟨1, by decide⟩ (by decide) (by decide) (by decide)
  have hdepth : 1 ≤ Profile.sample.maxDepth := by decide
  obtain ⟨e, he⟩ := Option.isSome_iff_exists.1
    (hdiagram.isSome.2 ⟨⟨1, by decide⟩, by decide, by decide⟩)
  exact ⟨d, hd, rfl, counter_definedIn, hextraction, hdepth, e, he, hdiagram.opening hdepth e he⟩

end Relay

end Ripple
