import Ripple.Proofs.Codebase.Ancestry
import Ripple.Proofs.Flow.Transport
import Ripple.Flow.Commands

/-!
# Repeated declarations

A name stands for its first declaration, and each later one is announced as a repetition. It is
not dropped, though: it keeps its place among the types, and whoever goes through all of them
meets it. So a repetition counts just where it implements an interface, handles a message,
constructs one, or is a command itself (`populated_with_repetitions`).
-/

namespace Ripple

section find

variable {α : Type} {l : List α} {q q' : α → Bool} {a b : α}

theorem find?_filter_of_forall {keep : α → Bool} (h : ∀ a ∈ l.find? q, keep a = true) :
    (l.filter keep).find? q = l.find? q := by
  rw [List.find?_filter]
  cases hfind : l.find? q with
  | none =>
    rw [List.find?_eq_none] at hfind ⊢
    intro a ha hboth
    exact hfind a ha (of_decide_eq_true hboth).2
  | some a =>
    obtain ⟨hq, before, after, rfl, hbefore⟩ := List.find?_eq_some_iff_append.1 hfind
    refine List.find?_eq_some_iff_append.2
      ⟨decide_eq_true ⟨h a hfind, hq⟩, before, after, rfl, fun b hb => ?_⟩
    have := hbefore b hb
    simp_all

/-- Two searches that each accept what the other finds find the same. -/
theorem find?_eq_find? (ha : l.find? q = some a) (hb : l.find? q' = some b) (hqb : q b = true)
    (hqa : q' a = true) : a = b := by
  induction l with
  | nil => cases ha
  | cons x rest ih =>
    rw [List.find?_cons] at ha hb
    cases hx : q x with
    | true =>
      obtain rfl : x = a := by simpa [hx] using ha
      simpa [hqa] using hb
    | false =>
      have hx' : q' x = false := by
        by_contra hx'
        obtain rfl : x = b := by simpa [hx'] using hb
        rw [hx] at hqb
        cases hqb
      rw [hx] at ha
      rw [hx'] at hb
      exact ih ha hb

end find

namespace TypeDecl

variable {declared : List TypeDecl}

/-! ## Dropping repetitions -/

/-- The declarations without those whose full name came before. -/
def firsts (declared : List TypeDecl) : List TypeDecl :=
  go [] declared
where
  /-- Walks the declarations, knowing the names that came before. -/
  go (before : List String) : List TypeDecl → List TypeDecl
    | [] => []
    | t :: rest =>
      if before.contains t.fullName then go before rest
      else t :: go (t.fullName :: before) rest

section go

variable {before : List String} {t : TypeDecl} {rest : List TypeDecl}

theorem firsts.go_of_mem (h : t.fullName ∈ before) : go before (t :: rest) = go before rest := by
  rw [go, if_pos (List.contains_iff_mem.2 h)]

theorem firsts.go_of_notMem (h : t.fullName ∉ before) :
    go before (t :: rest) = t :: go (t.fullName :: before) rest := by
  rw [go, if_neg (List.contains_iff_mem.not.2 h)]

theorem firsts.go_congr {before before' : List String}
    (h : ∀ name, name ∈ before ↔ name ∈ before') (types : List TypeDecl) :
    go before types = go before' types := by
  induction types generalizing before before' with
  | nil => rfl
  | cons t rest ih =>
    by_cases hmem : t.fullName ∈ before
    · rw [go_of_mem hmem, go_of_mem ((h _).1 hmem), ih h]
    · have hcons : ∀ name, name ∈ t.fullName :: before ↔ name ∈ t.fullName :: before' := by
        intro name
        rw [List.mem_cons, List.mem_cons, h]
      rw [go_of_notMem hmem, go_of_notMem (mt (h _).2 hmem), ih hcons]

end go

/-- As many declarations are dropped as are announced. -/
theorem length_firsts_add (declared : List TypeDecl) :
    (firsts declared).length + (Codebase.repeatedNames declared).length = declared.length := by
  have hgo (before : List String) : (firsts.go before declared).length +
      (Codebase.repeatedNames.go before declared).length = declared.length := by
    induction declared generalizing before with
    | nil => rfl
    | cons t rest ih =>
      by_cases hmem : t.fullName ∈ before
      · have := ih before
        rw [firsts.go_of_mem hmem, Codebase.repeatedNames.go,
          if_pos (List.contains_iff_mem.2 hmem), List.length_cons, List.length_cons]
        omega
      · have := ih (t.fullName :: before)
        rw [firsts.go_of_notMem hmem, Codebase.repeatedNames.go,
          if_neg (List.contains_iff_mem.not.2 hmem), List.length_cons, List.length_cons]
        omega
  exact hgo []

theorem firsts_map {g : TypeDecl → TypeDecl} (hg : ∀ t, (g t).fullName = t.fullName) :
    firsts (declared.map g) = (firsts declared).map g := by
  have hgo (before : List String) :
      firsts.go before (declared.map g) = (firsts.go before declared).map g := by
    induction declared generalizing before with
    | nil => rfl
    | cons t rest ih =>
      rw [List.map_cons, firsts.go, firsts.go, hg, ih, ih]
      split <;> rfl
  exact hgo []

end TypeDecl

namespace Codebase

open TypeDecl

/-- Whether a type is the first of its name. -/
def isFirst (c : Codebase) (r : c.Ref) : Bool := c.find? (c.fullName r) == some r

/-- Whether a type is the first of its name, which is none of `before`. -/
def isFirstAfter (c : Codebase) (before : List String) (r : c.Ref) : Bool :=
  !before.contains (c.fullName r) && c.isFirst r

/-! ## The first type of each name -/

section cons

variable {t : TypeDecl} {rest : List TypeDecl}

theorem refs_cons : (⟨t :: rest⟩ : Codebase).refs =
    Fin.mk 0 (Nat.succ_pos _) :: (⟨rest⟩ : Codebase).refs.map Fin.succ :=
  List.finRange_succ

theorem fullName_zero : (⟨t :: rest⟩ : Codebase).fullName ⟨0, Nat.succ_pos _⟩ = t.fullName := rfl

theorem fullName_succ (r : (⟨rest⟩ : Codebase).Ref) :
    (⟨t :: rest⟩ : Codebase).fullName r.succ = (⟨rest⟩ : Codebase).fullName r := rfl

theorem find?_cons (name : String) : (⟨t :: rest⟩ : Codebase).find? name =
    if t.fullName = name then some ⟨0, Nat.succ_pos _⟩
    else ((⟨rest⟩ : Codebase).find? name).map Fin.succ := by
  rw [find?, refs_cons, List.find?_cons, fullName_zero, List.find?_map]
  by_cases hname : t.fullName = name
  · rw [beq_iff_eq.2 hname, if_pos hname]
  · rw [beq_eq_false_iff_ne.2 hname, if_neg hname]
    rfl

theorem isFirst_zero : (⟨t :: rest⟩ : Codebase).isFirst ⟨0, Nat.succ_pos _⟩ = true := by
  rw [isFirst, find?_cons, fullName_zero, if_pos rfl, beq_self_eq_true]

theorem isFirst_succ (r : (⟨rest⟩ : Codebase).Ref) :
    (⟨t :: rest⟩ : Codebase).isFirst r.succ = true ↔
      t.fullName ≠ (⟨rest⟩ : Codebase).fullName r ∧ (⟨rest⟩ : Codebase).isFirst r = true := by
  rw [isFirst, beq_iff_eq, find?_cons, fullName_succ, isFirst, beq_iff_eq]
  by_cases hsame : t.fullName = (⟨rest⟩ : Codebase).fullName r
  · simp [hsame, Fin.ext_iff]
  · simp [hsame, Option.map_eq_some_iff]

theorem isFirstAfter_zero (before : List String) :
    (⟨t :: rest⟩ : Codebase).isFirstAfter before ⟨0, Nat.succ_pos _⟩ =
      !before.contains t.fullName := by
  rw [isFirstAfter, isFirst_zero, fullName_zero, Bool.and_true]

theorem isFirstAfter_succ (before : List String) (r : (⟨rest⟩ : Codebase).Ref) :
    (⟨t :: rest⟩ : Codebase).isFirstAfter before r.succ =
      (⟨rest⟩ : Codebase).isFirstAfter (t.fullName :: before) r := by
  rw [Bool.eq_iff_iff]
  simp only [isFirstAfter, Bool.and_eq_true, Bool.not_eq_true', List.contains_eq_mem,
    decide_eq_false_iff_not, fullName_succ, isFirst_succ, List.mem_cons, not_or]
  tauto

end cons

theorem map_decl_filter_isFirstAfter (types : List TypeDecl) (before : List String) :
    ((⟨types⟩ : Codebase).refs.filter ((⟨types⟩ : Codebase).isFirstAfter before)).map
      (⟨types⟩ : Codebase).decl = firsts.go before types := by
  -- past `t` the same positions are kept as after a walk that has met the name of `t`
  induction types generalizing before with
  | nil => rfl
  | cons t rest ih =>
    have hrest : (((⟨rest⟩ : Codebase).refs.map Fin.succ).filter
          ((⟨t :: rest⟩ : Codebase).isFirstAfter before)).map (⟨t :: rest⟩ : Codebase).decl =
        firsts.go (t.fullName :: before) rest := by
      rw [← ih, List.filter_map, List.map_map, ← funext (isFirstAfter_succ before)]
      rfl
    rw [refs_cons, List.filter_cons, isFirstAfter_zero]
    by_cases hmem : t.fullName ∈ before
    · have hsame : ∀ name, name ∈ t.fullName :: before ↔ name ∈ before := by
        intro name
        rw [List.mem_cons, or_iff_right_of_imp]
        rintro rfl
        exact hmem
      rw [if_neg (by simpa using hmem), hrest, firsts.go_congr hsame, firsts.go_of_mem hmem]
    · rw [if_pos (by simpa using hmem), List.map_cons, hrest, firsts.go_of_notMem hmem]
      rfl

/-- Dropping repetitions leaves the types that are the first of their name. -/
theorem map_decl_filter_isFirst (c : Codebase) :
    (c.refs.filter c.isFirst).map c.decl = firsts c.types :=
  map_decl_filter_isFirstAfter c.types []

theorem isFirst_of_find? {c : Codebase} {name : String} {r : c.Ref} (h : c.find? name = some r) :
    c.isFirst r = true := by
  rw [isFirst, fullName_of_find? h, h, beq_self_eq_true]

theorem find?_filter_isFirst (c : Codebase) (name : String) :
    (c.refs.filter c.isFirst).find? (c.fullName · == name) = c.find? name :=
  find?_filter_of_forall fun _ hr => isFirst_of_find? hr

/-- A name stands for the same declaration with and without the repetitions. -/
theorem first?_firsts (declared : List TypeDecl) (name : String) :
    first? (firsts declared) name = first? declared name := by
  have hfind := (⟨declared⟩ : Codebase).map_decl_find? name
  rw [← find?_filter_isFirst] at hfind
  rw [← hfind, ← map_decl_filter_isFirst ⟨declared⟩, first?, List.find?_map]
  rfl

/-- Populating without the repetitions gives the same types without the repetitions. -/
theorem types_ofDeclared_firsts (declared : List TypeDecl) :
    (ofDeclared (firsts declared)).types = firsts (ofDeclared declared).types := by
  rw [ofDeclared_congr (first?_firsts declared), ofDeclared,
    firsts_map (fullName_complete declared)]

/-- Whether no repetition counts: none implements an interface, handles or constructs a message,
or is a command. -/
structure IdleRepetitions (c : Codebase) (p : Profile) : Prop where
  implementers : ∀ interface : c.Ref, (c.decl interface).isInterface = true →
    ∀ r ∈ c.implementers (c.fullName interface), c.isFirst r = true
  eventHandlers : ∀ message : c.Ref,
    ∀ r ∈ c.eventHandlers p (c.decl message), c.isFirst r = true
  commandHandlers : ∀ message r : c.Ref,
    p.isCommandHandler (c.decl r) (c.decl message) = true → c.isFirst r = true
  constructions : ∀ message r : c.Ref, ∀ call ∈ (c.decl r).methods.flatMap Method.calls,
    constructs (c.decl message).name call = true → c.isFirst r = true
  commands : ∀ r ∈ c.commands p, c.isFirst r = true

end Codebase

theorem flatMap_filter_of_nil {α β : Type} {l : List α} {g : α → List β} (keep : α → Bool)
    (h : ∀ a ∈ l, keep a = false → g a = []) : (l.filter keep).flatMap g = l.flatMap g := by
  induction l with
  | nil => rfl
  | cons a rest ih =>
    have hrest := ih fun b hb => h b (List.mem_cons_of_mem a hb)
    rw [List.flatMap_cons, List.filter_cons]
    cases hkeep : keep a with
    | false => simpa [h a List.mem_cons_self hkeep] using hrest
    | true => rw [if_pos rfl, List.flatMap_cons, hrest]

namespace Embedding

open TypeDecl

variable {c d : Codebase} {p : Profile}

/-- The types without the repetitions, among all types. -/
theorem exists_of_firsts (htypes : d.types = firsts c.types) :
    ∃ f : Embedding d c, d.refs.map f.ref = c.refs.filter c.isFirst := by
  have hnodup : (c.refs.filter c.isFirst).Nodup := (List.nodup_finRange _).filter _
  refine exists_map_refs_eq hnodup ?_
  rw [c.map_decl_filter_isFirst, htypes]

variable {f : Embedding d c}

theorem foldl_addDistinct_map (known l : List d.Ref) :
    (l.map f.ref).foldl c.addDistinct (known.map f.ref) =
      (l.foldl d.addDistinct known).map f.ref := by
  induction l generalizing known with
  | nil => rfl
  | cons r rest ih =>
    have hstep : c.addDistinct (known.map f.ref) (f.ref r) = (d.addDistinct known r).map f.ref := by
      simp only [Codebase.addDistinct, List.any_map, Function.comp_def, fullName_ref]
      split <;> simp
    rw [List.map_cons, List.foldl_cons, hstep, ih, List.foldl_cons]

section refs

variable (hrefs : d.refs.map f.ref = c.refs.filter c.isFirst)
include hrefs

theorem find?_of_firsts (fullName : String) :
    c.find? fullName = (d.find? fullName).map f.ref := by
  rw [← Codebase.find?_filter_isFirst, ← hrefs, List.find?_map, Codebase.find?]
  congr 2
  funext r
  rw [Function.comp_apply, f.fullName_ref]

/-! ## Going through all types -/

theorem map_filter_refs (q : TypeDecl → Bool) :
    (d.refs.filter fun r => q (d.decl r)).map f.ref =
      (c.refs.filter fun r => q (c.decl r)).filter c.isFirst := by
  have hdecl : (fun r => q (d.decl r)) = (fun r => q (c.decl r)) ∘ f.ref := by
    rw [← f.decl_comp_ref]
    rfl
  rw [hdecl, ← List.filter_map, hrefs, List.filter_filter, List.filter_filter]
  simp only [Bool.and_comm]

theorem filter_refs_of_firsts {q : TypeDecl → Bool}
    (hfirst : ∀ r, q (c.decl r) = true → c.isFirst r = true) :
    (c.refs.filter fun r => q (c.decl r)) =
      (d.refs.filter fun r => q (d.decl r)).map f.ref := by
  rw [map_filter_refs hrefs]
  exact (List.filter_eq_self.2 fun r hr => hfirst r (List.mem_filter.1 hr).2).symm

/-- Going through all types finds the same with and without the repetitions just if it finds no
repetition. -/
theorem map_decl_filter_refs_iff (q : TypeDecl → Bool) :
    (d.refs.filter fun r => q (d.decl r)).map d.decl =
        (c.refs.filter fun r => q (c.decl r)).map c.decl ↔
      ∀ r ∈ c.refs.filter (fun r => q (c.decl r)), c.isFirst r = true := by
  have hsame : (d.refs.filter fun r => q (d.decl r)).map d.decl =
      ((c.refs.filter fun r => q (c.decl r)).filter c.isFirst).map c.decl := by
    rw [← map_filter_refs hrefs, List.map_map, f.decl_comp_ref]
  rw [hsame]
  constructor
  · -- a repetition that is found makes the list longer
    intro hsame
    have hlength := congrArg List.length hsame
    rw [List.length_map, List.length_map] at hlength
    exact List.length_filter_eq_length_iff.1 hlength
  · intro hfirst
    rw [List.filter_eq_self.2 hfirst]

/-- The first type of some kind is the same with and without the repetitions just if it is no
repetition. -/
theorem map_decl_find?_iff (q : TypeDecl → Bool) :
    (d.refs.find? fun r => q (d.decl r)).map d.decl =
        (c.refs.find? fun r => q (c.decl r)).map c.decl ↔
      ∀ r ∈ c.refs.find? fun r => q (c.decl r), c.isFirst r = true := by
  have hfind : (d.refs.find? fun r => q (d.decl r)).map d.decl =
      ((c.refs.filter c.isFirst).find? fun r => q (c.decl r)).map c.decl := by
    rw [← hrefs, List.find?_map, Option.map_map, ← f.decl_comp_ref]
    rfl
  rw [hfind]
  constructor
  · intro hsame r hr
    rw [hr, Option.map_some, Option.map_eq_some_iff] at hsame
    obtain ⟨r', hr', hdecl'⟩ := hsame
    have hfirst : c.isFirst r' = true := (List.mem_filter.1 (List.mem_of_find?_eq_some hr')).2
    have hname : c.fullName r' = c.fullName r := congrArg TypeDecl.fullName hdecl'
    have hq : q (c.decl r') = true := by
      rw [hdecl']
      simpa using List.find?_some hr
    -- each is the first of its kind, and of the other's kind too
    have heq : r = r' :=
      find?_eq_find? hr (beq_iff_eq.1 hfirst) hq (beq_iff_eq.2 hname.symm)
    rwa [heq]
  · intro hfirst
    rw [find?_filter_of_forall hfirst]

/-! ## Idle repetitions -/

variable (hidle : c.IdleRepetitions p)
include hidle

theorem faithful_of_firsts : f.Faithful p := by
  refine faithful_of_choices (find?_of_firsts hrefs) ?_ ?_ ?_
  · intro r hinterface
    refine filter_refs_of_firsts hrefs
      (q := fun t => t.fullName != d.fullName r && t.implements (d.fullName r)) fun r' hr' => ?_
    have hfirst := hidle.implementers (f.ref r) (by rwa [f.decl_ref])
    rw [f.fullName_ref] at hfirst
    exact hfirst r' (List.mem_filter.2 ⟨Codebase.mem_refs r', hr'⟩)
  · intro message
    refine filter_refs_of_firsts hrefs (q := (p.isEventHandler · (d.decl message))) fun r hr => ?_
    rw [← f.decl_ref] at hr
    exact hidle.eventHandlers _ r (List.mem_filter.2 ⟨Codebase.mem_refs r, hr⟩)
  · intro message
    exact filter_refs_of_firsts hrefs (q := (p.isCommandHandler · (d.decl message)))
      fun r hr => hidle.commandHandlers (f.ref message) r (by rwa [f.decl_ref])

theorem origins_of_firsts (message : d.Ref) :
    c.origins (f.ref message) = (d.origins message).map f.ref := by
  have hcalls (e : Codebase) : e.calls.filter (Codebase.constructs (d.decl message).name) =
      e.refs.flatMap fun r => ((e.decl r).methods.flatMap Method.calls).filter
        (Codebase.constructs (d.decl message).name) := by
    rw [Codebase.calls, ← e.map_decl_refs, List.flatMap_map, List.filter_flatMap]
  have hsame : c.calls.filter (Codebase.constructs (d.decl message).name) =
      d.calls.filter (Codebase.constructs (d.decl message).name) := by
    -- the calls of a repetition construct no message
    rw [hcalls, hcalls, ← flatMap_filter_of_nil c.isFirst, ← hrefs, List.flatMap_map]
    · simp only [f.decl_ref]
    · intro r _ hrepeated
      rw [List.filter_eq_nil_iff]
      intro call hcall hconstructs
      rw [← f.decl_ref] at hconstructs
      have hfirst := hidle.constructions _ r call hcall hconstructs
      rw [hrepeated] at hfirst
      cases hfirst
  rw [Codebase.origins, f.decl_ref, hsame, funext (find?_of_firsts hrefs), ← List.map_filterMap,
    Codebase.origins]
  exact foldl_addDistinct_map [] _

theorem commandGroups_of_firsts :
    c.commandGroups p = (d.commandGroups p).map fun group => (group.1, group.2.map f.ref) := by
  have hcommands : c.commands p = (d.commands p).map f.ref :=
    filter_refs_of_firsts hrefs
      (q := fun t => t.fullName != p.commandType && t.implements p.commandType)
      fun r hr => hidle.commands r (List.mem_filter.2 ⟨Codebase.mem_refs r, hr⟩)
  have hnames : c.commandNames p = d.commandNames p := by
    rw [Codebase.commandNames, hcommands, List.foldl_map, Codebase.commandNames]
    simp only [f.decl_ref]
  have hnamed (name : String) : c.commandsNamed p name = (d.commandsNamed p name).map f.ref := by
    rw [Codebase.commandsNamed, hcommands, List.filter_map, Codebase.commandsNamed]
    simp only [Function.comp_def, f.decl_ref]
  rw [Codebase.commandGroups, hnames, Codebase.commandGroups, List.map_map]
  exact List.map_congr_left fun name _ => by rw [hnamed, Function.comp_apply]

end refs

end Embedding

/-- With repetitions a codebase holds as many types more as were announced, though every name
stands for the same type. What goes through all types finds the same just if it finds no
repetition. Where no repetition counts, commands are grouped the same and every message starts
the same flow. -/
theorem populated_with_repetitions {declared : List TypeDecl} {c d : Codebase} (p : Profile)
    (hc : Codebase.ofDeclared declared = c)
    (hd : Codebase.ofDeclared (TypeDecl.firsts declared) = d) :
    (c.size = d.size + (Codebase.repeatedNames declared).length ∧
      ∀ name, (c.find? name).map c.decl = (d.find? name).map d.decl) ∧
    (∀ interface, (d.implementers interface).map d.decl = (c.implementers interface).map c.decl ↔
      ∀ r ∈ c.implementers interface, c.isFirst r = true) ∧
    (∀ message, (d.eventHandlers p message).map d.decl = (c.eventHandlers p message).map c.decl ↔
      ∀ r ∈ c.eventHandlers p message, c.isFirst r = true) ∧
    (∀ message, (d.commandHandler p message).map d.decl =
        (c.commandHandler p message).map c.decl ↔
      ∀ r ∈ c.commandHandler p message, c.isFirst r = true) ∧
    ((d.commands p).map d.decl = (c.commands p).map c.decl ↔
      ∀ r ∈ c.commands p, c.isFirst r = true) ∧
    (c.IdleRepetitions p →
      (d.commandGroups p).map (fun group => (group.1, group.2.map d.decl)) =
          (c.commandGroups p).map (fun group => (group.1, group.2.map c.decl)) ∧
        ∀ name, (∀ sent ∈ d.find? name, ∀ sent' ∈ c.find? name,
            (d.origins sent).map d.decl = (c.origins sent').map c.decl) ∧
          d.extract p name = c.extract p name) := by
  have htypes : d.types = TypeDecl.firsts c.types := by
    rw [← hc, ← hd, Codebase.types_ofDeclared_firsts]
  obtain ⟨f, hrefs⟩ := Embedding.exists_of_firsts htypes
  refine ⟨⟨?_, fun name => ?_⟩, fun interface => ?_, fun message => ?_, fun message => ?_, ?_,
    fun hidle => ⟨?_, fun name => ⟨fun sent hsent sent' hsent' => ?_, ?_⟩⟩⟩
  · have hlength := TypeDecl.length_firsts_add declared
    rw [Codebase.size, Codebase.size, ← hc, ← hd, Codebase.ofDeclared, Codebase.ofDeclared,
      List.length_map, List.length_map]
    omega
  · rw [Embedding.find?_of_firsts hrefs, Option.map_map, f.decl_comp_ref]
  · exact Embedding.map_decl_filter_refs_iff hrefs
      fun t => t.fullName != interface && t.implements interface
  · exact Embedding.map_decl_filter_refs_iff hrefs (p.isEventHandler · message)
  · exact Embedding.map_decl_find?_iff hrefs (p.isCommandHandler · message)
  · exact Embedding.map_decl_filter_refs_iff hrefs
      fun t => t.fullName != p.commandType && t.implements p.commandType
  · rw [Embedding.commandGroups_of_firsts hrefs hidle, List.map_map]
    refine List.map_congr_left fun group _ => ?_
    simp only [Function.comp_apply, List.map_map, Function.comp_def, f.decl_ref]
  · rw [Embedding.find?_of_firsts hrefs, hsent] at hsent'
    obtain rfl : f.ref sent = sent' := Option.some.inj hsent'
    rw [Embedding.origins_of_firsts hrefs hidle, List.map_map, f.decl_comp_ref]
  · have hcaller (message : d.Ref) : c.caller? p (f.ref message) = d.caller? p message :=
      Embedding.caller?_eq (.of_eq (Embedding.origins_of_firsts hrefs hidle message))
    exact ((Embedding.faithful_of_firsts hrefs hidle).extract hcaller name).symm

namespace Relay

/-- The shop, with the desk declared once more but without members. -/
def reopened : Codebase where
  types := shop.types ++ [TypeDecl.empty .classType "Store.Desk"]

theorem ofDeclared_reopened : Codebase.ofDeclared reopened.types = reopened :=
  (Codebase.ofDeclared_eq_inRounds _).trans rfl

/-- The empty desk does not count. -/
theorem reopened_runs_as_shop :
    Codebase.ofDeclared reopened.types = reopened ∧
    Codebase.ofDeclared (TypeDecl.firsts reopened.types) = shop ∧
    Codebase.repeatedNames reopened.types = ["Store.Desk"] ∧
    reopened.IdleRepetitions .sample ∧
    shop.extract .sample "Shop.Placed" = reopened.extract .sample "Shop.Placed" := by
  have hfirsts : Codebase.ofDeclared (TypeDecl.firsts reopened.types) = shop := by
    have hdropped : TypeDecl.firsts reopened.types = shop.types := rfl
    rw [hdropped, ofDeclared_shop]
  have hidle : reopened.IdleRepetitions .sample :=
    ⟨by decide, by decide, by decide, by decide, by decide⟩
  obtain ⟨-, -, -, -, -, hsame⟩ := populated_with_repetitions .sample ofDeclared_reopened hfirsts
  exact ⟨ofDeclared_reopened, hfirsts, rfl, hidle, ((hsame hidle).2 "Shop.Placed").2⟩

/-- The shop, with the desk declared twice. -/
def doubled : Codebase where
  types := shop.types ++ [shop.decl desk]

/-- The second desk is announced, and handles every order once more. -/
theorem doubled_handles_twice :
    Codebase.repeatedNames doubled.types = ["Store.Desk"] ∧
    (Codebase.ofDeclared doubled.types).size = 3 ∧
    (Codebase.ofDeclared (TypeDecl.firsts doubled.types)).size = 2 ∧
    ((Codebase.ofDeclared doubled.types).eventHandlers .sample (shop.decl placed)).length = 2 ∧
    ((Codebase.ofDeclared (TypeDecl.firsts doubled.types)).eventHandlers .sample
      (shop.decl placed)).length = 1 ∧
    (Codebase.ofDeclared doubled.types).extract .sample "Shop.Placed" ≠
      (Codebase.ofDeclared (TypeDecl.firsts doubled.types)).extract .sample "Shop.Placed" := by
  have hdoubled : Codebase.ofDeclared doubled.types = doubled :=
    (Codebase.ofDeclared_eq_inRounds _).trans rfl
  have hfirsts : Codebase.ofDeclared (TypeDecl.firsts doubled.types) = shop := by
    have hdropped : TypeDecl.firsts doubled.types = shop.types := rfl
    rw [hdropped, ofDeclared_shop]
  rw [hdoubled, hfirsts]
  refine ⟨rfl, rfl, rfl, by decide, by decide, fun hsame => ?_⟩
  have hlengths : (doubled.extract .sample "Shop.Placed").map (·.fragments.length) ≠
      (shop.extract .sample "Shop.Placed").map (·.fragments.length) := by
    have htwice : (doubled.extract .sample "Shop.Placed").map (·.fragments.length) = some 4 := by
      cbv
    have honce : (shop.extract .sample "Shop.Placed").map (·.fragments.length) = some 2 := by
      cbv
    rw [htwice, honce]
    decide
  exact hlengths (by rw [hsame])

end Relay

end Ripple
