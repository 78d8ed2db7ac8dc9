import Ripple.Flow.Extraction
import Ripple.Proofs.Flow.Chain
import Ripple.Proofs.Flow.Invariant

/-!
# Participants and arrows

A walk collects its participants on the side, while the tree of fragments is put together from
the innermost out and empty sections are dropped. Still the two agree: the participants are
those from before and then the targets of the arrows, each where it first occurs, since
whatever joins the participants has its arrow and no arrow is dropped.

An extraction starts with no participants. Naming the caller puts it in front and on the first
arrow, so that participants stay exactly those that some arrow leaves from or goes to, the
external actor apart.
-/

namespace Ripple

/-! ## Joining -/

/-- The names of `present`, then those of `newcomers` that are not among them, each where it
first occurs. -/
def joined (present newcomers : List String) : List String :=
  present ++ (newcomers.filter (· ∉ present)).eraseDups

section joined

variable {present : List String} {name : String}

@[simp] theorem joined_nil : joined present [] = present := by
  simp [joined]

@[simp] theorem joined_from_nil (newcomers : List String) :
    joined [] newcomers = newcomers.eraseDups := by
  simp [joined]

@[simp] theorem mem_joined {newcomers : List String} :
    name ∈ joined present newcomers ↔ name ∈ present ∨ name ∈ newcomers := by
  by_cases h : name ∈ present <;> simp [joined, h]

theorem joined_append (xs ys : List String) :
    joined present (xs ++ ys) = joined (joined present xs) ys := by
  have hkept : (ys.filter (· ∉ present)).removeAll (xs.filter (· ∉ present)) =
      ys.filter (· ∉ joined present xs) := by
    rw [List.removeAll, List.filter_filter]
    refine List.filter_congr fun y _ => ?_
    by_cases h : y ∈ present <;> simp [h]
  rw [joined, List.filter_append, List.eraseDups_append, hkept, ← List.append_assoc]
  rfl

theorem joined_singleton :
    joined present [name] = if name ∈ present then present else present ++ [name] := by
  unfold joined
  split
  next h => simp [h]
  next h => simp [h, List.eraseDups_cons]

theorem nodup_joined (h : present.Nodup) (newcomers : List String) :
    (joined present newcomers).Nodup := by
  induction newcomers generalizing present with
  | nil => simpa using h
  | cons name rest ih =>
    rw [← List.singleton_append, joined_append]
    refine ih ?_
    rw [joined_singleton]
    split
    · exact h
    next hnew => exact List.nodup_append_comm.1 (List.nodup_cons.2 ⟨hnew, h⟩)

end joined

namespace Ledger

variable {c : Codebase} (l : Ledger c)

theorem participants_activate (service : Option String) :
    (l.activate service).participants = l.participants := by
  unfold activate
  split
  · split <;> rfl
  · rfl

theorem participants_deactivate (service pinned : Option String) :
    (l.deactivate service pinned).participants = l.participants := by
  unfold deactivate
  split <;> rfl

theorem participants_join (participant : String) :
    (l.join participant).participants = joined l.participants [participant] := by
  rw [joined_singleton, join]
  simp only [List.contains_iff_mem]
  split <;> rfl

theorem participants_opened (p : Profile) (handler message : c.Ref) (trail : Trail c) :
    (l.opened p handler message trail).participants =
      joined l.participants [p.participant (p.serviceOf (c.decl handler))] :=
  (participants_join _ _).trans (by rw [participants_activate])

theorem participants_closed (p : Profile) (handler message : c.Ref) (pinned : Option String)
    (trail : Trail c) :
    (l.closed p handler message pinned trail).participants = l.participants :=
  participants_deactivate _ _ _

end Ledger

namespace Fragment

/-- Where the arrows of a diagram go to, depth first, in source order. -/
def targetsOf (fragments : List Fragment) : List String := (arrowsOf fragments).map (·.target)

end Fragment

open Fragment

variable {c : Codebase} {p : Profile}

/-- Every step adds to the participants what its arrows go to. -/
theorem participantsInvariant :
    WalkInvariant c p fun _ _ l arrows l' =>
      l'.participants = joined l.participants (arrows.map (·.target)) where
  nil _ _ _ := joined_nil.symm
  append h h' := by rw [h', h, List.map_append, joined_append]
  record _ := joined_nil.symm
  leave _ _ _ h := h
  leaveInlined _ h := h
  handle {trail pinned l l' arrows sender message handler} _ _ h := by
    rw [Ledger.participants_closed, h, Ledger.participants_opened, ← joined_append]
    rfl

theorem participants_visit (message : c.Ref) (sender pinned : Option String) (trail : Trail c)
    (l : Ledger c) :
    (visit c p message sender pinned trail l).2.participants =
      joined l.participants (targetsOf (visit c p message sender pinned trail l).1) :=
  participantsInvariant.visit message sender pinned trail l

/-! ## The arrows of a visit -/

namespace Codebase

variable {message : c.Ref} {sender : Option String} {visits : List Visit}

/-- What a visit shows is nothing or begins with an arrow. -/
theorem drawVisit_eq_nil_or_arrow_cons (message : c.Ref) (sender : Option String)
    (visits : List Visit) :
    c.drawVisit p message sender visits = [] ∨
      ∃ a rest, c.drawVisit p message sender visits = .arrow a :: rest := by
  by_cases hlt : visits.length < p.maxDepth
  · rw [drawVisit_of_lt hlt]
    cases c.handlers p (c.decl message) with
    | nil => exact .inl rfl
    | cons handler rest => exact .inr ⟨_, _, rfl⟩
  · exact .inl (drawVisit_of_deep (Nat.not_lt.1 hlt))

/-- An arrow of a visit leaves from the sender, from the external actor, or from where another
arrow of the visit goes to. -/
theorem source_of_mem_arrowsOf_drawVisit {a : Arrow}
    (ha : a ∈ arrowsOf (c.drawVisit p message sender visits)) :
    a.source = sender.getD p.externalActor ∨ a.source = p.externalActor ∨
      a.source ∈ targetsOf (c.drawVisit p message sender visits) := by
  induction hroom : p.maxDepth - visits.length generalizing message sender visits with
  | zero =>
    have hlt := (mem_arrowsOf_drawVisit.1 ha).1
    omega
  | succ room ih =>
    obtain ⟨hlt, handler, hhandler, rfl | ⟨hfree, next, hnext, ha⟩⟩ := mem_arrowsOf_drawVisit.1 ha
    · exact .inl rfl
    have hroom' : p.maxDepth - (c.visitOf handler message :: visits).length = room := by
      rw [List.length_cons]
      omega
    refine .inr ?_
    obtain hsource | hsource | hsource := ih ha hroom'
    · -- the sender further in is the service that the arrow to the handler goes to
      cases hservice : p.serviceOf (c.decl handler) with
      | none => exact .inl (by rw [hsource, hservice, Option.getD_none])
      | some service =>
        refine .inr (List.mem_map.2 ⟨c.arrowTo p sender message handler, ?_, ?_⟩)
        · exact mem_arrowsOf_drawVisit.2 ⟨hlt, handler, hhandler, .inl rfl⟩
        · rw [hsource, arrowTo, hservice]
          rfl
    · exact .inl hsource
    · obtain ⟨a', ha', htarget⟩ := List.mem_map.1 hsource
      exact .inr (List.mem_map.2 ⟨a', mem_arrowsOf_drawVisit.2
        ⟨hlt, handler, hhandler, .inr ⟨hfree, next, hnext, ha'⟩⟩, htarget⟩)

end Codebase

/-! ## Naming the caller -/

namespace Fragment

variable {fragments : List Fragment}

theorem targetsOf_withFirstSource (source : String) (fragments : List Fragment) :
    targetsOf (withFirstSource source fragments) = targetsOf fragments := by
  induction fragments with
  | nil => rfl
  | cons fragment rest ih =>
    cases fragment with
    | arrow a => rfl
    | alt sections =>
      simp only [targetsOf, withFirstSource, arrowsOf, List.map_append] at ih ⊢
      rw [ih]

theorem withFirstSource_eq_nil_iff {source : String} :
    withFirstSource source fragments = [] ↔ fragments = [] := by
  cases fragments with
  | nil => exact Iff.rfl
  | cons fragment rest => cases fragment <;> simp [withFirstSource]

/-- With a new first source, each arrow has that source or is one from before. -/
theorem source_or_mem_of_mem_withFirstSource {source : String} {a : Arrow}
    (ha : a ∈ arrowsOf (withFirstSource source fragments)) :
    a.source = source ∨ a ∈ arrowsOf fragments := by
  induction fragments with
  | nil => cases ha
  | cons fragment rest ih =>
    cases fragment with
    | arrow b =>
      obtain rfl | ha := List.mem_cons.1 ha
      · exact .inl rfl
      · exact .inr (List.mem_cons_of_mem _ ha)
    | alt sections =>
      obtain ha | ha := List.mem_append.1 ha
      · exact .inr (List.mem_append_left _ ha)
      · exact (ih ha).imp_right (List.mem_append_right _)

/-- The new first source is that of an arrow, if there is one outside groups. -/
theorem exists_mem_withFirstSource {source : String} (h : fragments.any isArrow = true) :
    ∃ a ∈ arrowsOf (withFirstSource source fragments), a.source = source := by
  induction fragments with
  | nil => cases h
  | cons fragment rest ih =>
    cases fragment with
    | arrow b => exact ⟨{ b with source }, List.mem_cons_self, rfl⟩
    | alt sections =>
      obtain ⟨a, ha, hsource⟩ := ih h
      exact ⟨a, List.mem_append_right _ ha, hsource⟩

end Fragment

namespace Codebase

variable (c p) in
/-- The caller that the extraction of a message names: the one known, if the diagram has an
arrow to name it on. -/
def namedCaller? (message : c.Ref) : Option String :=
  (c.caller? p message).filter fun _ => (c.freshVisit p message).1.any isArrow

variable {message : c.Ref} {service : String}

theorem extractFrom_of_named (h : c.namedCaller? p message = some service) :
    (c.freshVisit p message).1.any isArrow = true ∧
      c.extractFrom p message =
        { message := c.fullName message
          participants := service :: (c.freshVisit p message).2.participants.filter (· != service)
          fragments := withFirstSource service (c.freshVisit p message).1 } := by
  obtain ⟨hcaller, harrow⟩ := Option.filter_eq_some_iff.1 h
  refine ⟨harrow, ?_⟩
  simp only [extractFrom, repairCaller, hcaller, Extraction.withCaller, harrow, if_true]

theorem extractFrom_of_not_named (h : c.namedCaller? p message = none) :
    c.extractFrom p message =
      { message := c.fullName message
        participants := (c.freshVisit p message).2.participants
        fragments := (c.freshVisit p message).1 } := by
  simp only [extractFrom, repairCaller]
  cases hcaller : c.caller? p message with
  | none => rfl
  | some service =>
    rw [namedCaller?, hcaller, Option.filter_eq_none_iff] at h
    simp only [Extraction.withCaller]
    rw [if_neg (h service rfl)]

theorem freshVisit_fst (message : c.Ref) :
    (c.freshVisit p message).1 = c.drawVisit p message none [] :=
  visit_fst message none {}

theorem participants_freshVisit (message : c.Ref) :
    (c.freshVisit p message).2.participants = (targetsOf (c.freshVisit p message).1).eraseDups :=
  (participants_visit message none none {} {}).trans (joined_from_nil _)

/-- The participants of an extraction are where its arrows go to, each where it first occurs,
but with the caller in front where one is named. -/
theorem participants_extractFrom (message : c.Ref) :
    (c.extractFrom p message).participants =
      match c.namedCaller? p message with
      | none => (targetsOf (c.extractFrom p message).fragments).eraseDups
      | some service =>
        service ::
          (targetsOf (c.extractFrom p message).fragments).eraseDups.filter (· != service) := by
  cases hnamed : c.namedCaller? p message with
  | none => rw [extractFrom_of_not_named hnamed, participants_freshVisit]
  | some service =>
    rw [(extractFrom_of_named hnamed).2, participants_freshVisit]
    simp only [targetsOf_withFirstSource]

theorem mem_participants_extractFrom {name : String} :
    name ∈ (c.extractFrom p message).participants ↔
      c.namedCaller? p message = some name ∨
        name ∈ targetsOf (c.extractFrom p message).fragments := by
  rw [participants_extractFrom]
  cases c.namedCaller? p message with
  | none => simp
  | some service =>
    by_cases h : name = service
    · simp [h]
    · simp [h, Ne.symm h]

theorem nodup_participants_extractFrom (message : c.Ref) :
    (c.extractFrom p message).participants.Nodup := by
  have htargets (names : List String) : names.eraseDups.Nodup := by
    simpa using nodup_joined List.nodup_nil names
  rw [participants_extractFrom]
  cases c.namedCaller? p message with
  | none => exact htargets _
  | some service => exact List.nodup_cons.2 ⟨by simp, (htargets _).filter _⟩

theorem targetsOf_extractFrom_eq_nil_iff :
    targetsOf (c.extractFrom p message).fragments = [] ↔
      (c.extractFrom p message).fragments = [] := by
  have hwalked : targetsOf (c.freshVisit p message).1 = [] ↔ (c.freshVisit p message).1 = [] := by
    rw [freshVisit_fst]
    obtain h | ⟨a, rest, h⟩ := c.drawVisit_eq_nil_or_arrow_cons (p := p) message none []
    · simp [h, targetsOf]
    · simp [h, targetsOf, arrowsOf_arrow_cons]
  cases hnamed : c.namedCaller? p message with
  | none => simpa only [extractFrom_of_not_named hnamed] using hwalked
  | some service =>
    simpa only [(extractFrom_of_named hnamed).2, targetsOf_withFirstSource,
      withFirstSource_eq_nil_iff] using hwalked

/-- Nobody takes part only where nothing is shown. -/
theorem participants_extractFrom_eq_nil_iff :
    (c.extractFrom p message).participants = [] ↔ (c.extractFrom p message).fragments = [] := by
  rw [← targetsOf_extractFrom_eq_nil_iff]
  constructor
  · intro h
    refine List.eq_nil_iff_forall_not_mem.2 fun name hname => ?_
    have hmem := mem_participants_extractFrom.2 (.inr hname)
    rw [h] at hmem
    cases hmem
  · intro h
    refine List.eq_nil_iff_forall_not_mem.2 fun name hname => ?_
    obtain hnamed | hname := mem_participants_extractFrom.1 hname
    · -- a caller is named only where there is an arrow
      obtain ⟨harrow, hextract⟩ := extractFrom_of_named hnamed
      rw [targetsOf_extractFrom_eq_nil_iff, hextract, withFirstSource_eq_nil_iff] at h
      rw [h] at harrow
      cases harrow
    · rw [h] at hname
      cases hname

/-- An arrow of an extraction leaves from a participant or from the external actor. -/
theorem source_of_mem_arrowsOf_extractFrom {a : Arrow}
    (ha : a ∈ arrowsOf (c.extractFrom p message).fragments) :
    a.source = p.externalActor ∨ a.source ∈ (c.extractFrom p message).participants := by
  have hwalked (ha : a ∈ arrowsOf (c.freshVisit p message).1) :
      a.source = p.externalActor ∨ a.source ∈ targetsOf (c.freshVisit p message).1 := by
    rw [freshVisit_fst] at ha ⊢
    exact (source_of_mem_arrowsOf_drawVisit ha).elim .inl id
  rw [mem_participants_extractFrom]
  cases hnamed : c.namedCaller? p message with
  | none =>
    rw [extractFrom_of_not_named hnamed] at ha ⊢
    exact (hwalked ha).imp_right .inr
  | some service =>
    rw [(extractFrom_of_named hnamed).2] at ha ⊢
    rw [targetsOf_withFirstSource]
    obtain rfl | ha := source_or_mem_of_mem_withFirstSource ha
    · exact .inr (.inl rfl)
    · exact (hwalked ha).imp_right .inr

/-- A participant of an extraction is at an end of some arrow. -/
theorem exists_arrow_of_mem_participants {name : String}
    (h : name ∈ (c.extractFrom p message).participants) :
    ∃ a ∈ arrowsOf (c.extractFrom p message).fragments, a.source = name ∨ a.target = name := by
  obtain hnamed | htarget := mem_participants_extractFrom.1 h
  · obtain ⟨harrow, hextract⟩ := extractFrom_of_named hnamed
    rw [hextract]
    obtain ⟨a, ha, hsource⟩ := exists_mem_withFirstSource harrow
    exact ⟨a, ha, .inl hsource⟩
  · obtain ⟨a, ha, htarget⟩ := List.mem_map.1 htarget
    exact ⟨a, ha, .inr htarget⟩

end Codebase

/-- A visit adds to the participants the targets of its arrows that are new, each where it first
occurs. So the participants of an extraction are, without repetition, where its arrows go to,
behind the caller where one is named; there are none only where nothing is shown; and they are
just the ends of its arrows, less the external actor. -/
theorem participants_agree_with_arrows (c : Codebase) (p : Profile) :
    (∀ message sender pinned trail (l : Ledger c),
      (visit c p message sender pinned trail l).2.participants = l.participants ++
        ((targetsOf (visit c p message sender pinned trail l).1).filter
          (· ∉ l.participants)).eraseDups) ∧
    ∀ fullName e, c.extract p fullName = some e →
      e.participants.Nodup ∧
      (∃ message, c.find? fullName = some message ∧
        e.participants =
          match c.namedCaller? p message with
          | none => (targetsOf e.fragments).eraseDups
          | some service => service :: (targetsOf e.fragments).eraseDups.filter (· != service)) ∧
      (e.participants = [] ↔ e.fragments = []) ∧
      (∀ a ∈ arrowsOf e.fragments, a.target ∈ e.participants ∧
        (a.source ≠ p.externalActor → a.source ∈ e.participants)) ∧
      ∀ name ∈ e.participants, ∃ a ∈ arrowsOf e.fragments, a.source = name ∨ a.target = name := by
  refine ⟨participants_visit, fun fullName e he => ?_⟩
  obtain ⟨message, hmessage, rfl⟩ := Option.map_eq_some_iff.1 he
  refine ⟨Codebase.nodup_participants_extractFrom message,
    ⟨message, hmessage, Codebase.participants_extractFrom message⟩,
    Codebase.participants_extractFrom_eq_nil_iff, fun a ha => ⟨?_, fun hactor => ?_⟩,
    fun name hname => Codebase.exists_arrow_of_mem_participants hname⟩
  · exact Codebase.mem_participants_extractFrom.2 (.inr (List.mem_map_of_mem ha))
  · exact (Codebase.source_of_mem_arrowsOf_extractFrom ha).resolve_left hactor

namespace Relay

/-- The shop, and a page that constructs orders. -/
def market : Codebase where
  types := shop.types ++
    [(TypeDecl.empty .classType "Web.Page").withMethod
      ⟨"Order", [], [.call ⟨"Shop.Placed", "Placed", []⟩]⟩]

/-- The service of the order is named as the caller, and the store, where both arrows go to and
one comes from, takes part once. -/
theorem market_participants :
    ∃ e, market.extract .sample "Shop.Placed" = some e ∧ e.participants = ["Shop", "Store"] ∧
      e.participants.Nodup ∧
      ∃ a ∈ arrowsOf e.fragments, a.source = "Store" ∧ a.source ≠ "Client" ∧
        a.source ∈ e.participants := by
  have hextract : market.extract .sample "Shop.Placed" =
      some { message := "Shop.Placed", participants := ["Shop", "Store"], fragments :=
        [.arrow ⟨"Shop", "Store", "Placed", "green"⟩, .alt [⟨some .conditional, "rush",
          [.arrow ⟨"Store", "Store", "Placed", "green"⟩]⟩]] } := by cbv
  obtain ⟨hnodup, -, -, harrows, -⟩ :=
    (participants_agree_with_arrows market .sample).2 _ _ hextract
  have hagain : ⟨"Store", "Store", "Placed", "green"⟩ ∈
      arrowsOf [.arrow ⟨"Shop", "Store", "Placed", "green"⟩, .alt [⟨some .conditional, "rush",
        [.arrow ⟨"Store", "Store", "Placed", "green"⟩]⟩]] := by decide
  have hactor : "Store" ≠ "Client" := by decide
  exact ⟨_, hextract, rfl, hnodup, _, hagain, rfl, hactor, (harrows _ hagain).2 hactor⟩

end Relay

end Ripple
