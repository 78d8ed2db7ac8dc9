import Ripple.Proofs.Flow.Participants

/-!
# Naming the caller

Naming the caller of a flow is one edit in two places: the source of the first arrow that stands
outside groups, and the front of the participants (`NamesCaller`). It is made just if exactly one
type constructs the message, the service of that type is known, and there is such an arrow;
otherwise neither place is touched. This holds of any fragments and participants, not only of
those that a walk gives (`repairCaller_edits_entry`).
-/

namespace Ripple

namespace Fragment

variable {fragments front back : List Fragment} {source : String}

/-- Groups are passed over, whatever they hold. -/
theorem withFirstSource_append (hfront : ∀ f ∈ front, f.isArrow = false) :
    withFirstSource source (front ++ back) = front ++ withFirstSource source back := by
  induction front with
  | nil => rfl
  | cons f rest ih =>
    have hrest := ih fun g hg => hfront g (List.mem_cons_of_mem _ hg)
    cases f with
    | arrow a => cases hfront (.arrow a) List.mem_cons_self
    | alt sections => rw [List.cons_append, withFirstSource, hrest, List.cons_append]

/-- The first arrow outside groups, with what is before and after it. -/
theorem exists_first_arrow (h : fragments.any isArrow = true) :
    ∃ front a back, fragments = front ++ .arrow a :: back ∧ ∀ f ∈ front, f.isArrow = false := by
  induction fragments with
  | nil => cases h
  | cons f rest ih =>
    cases f with
    | arrow a => exact ⟨[], a, rest, rfl, by simp⟩
    | alt sections =>
      obtain ⟨front, a, back, rfl, hfront⟩ := ih (by simpa [isArrow] using h)
      exact ⟨.alt sections :: front, a, back, rfl, List.forall_mem_cons.2 ⟨rfl, hfront⟩⟩

end Fragment

namespace Extraction

/-- Whether `named` is the flow `e` with `service` named as its caller: the first arrow outside
groups leaves from the service, which takes part first, and all else is as it was. -/
structure NamesCaller (service : String) (e named : Extraction) : Prop where
  fragments : ∃ front a back, e.fragments = front ++ .arrow a :: back ∧
    (∀ f ∈ front, f.isArrow = false) ∧
    named.fragments = front ++ .arrow { a with source := service } :: back
  participants : named.participants = service :: e.participants.filter (· != service)
  message : named.message = e.message

variable {service : String} {e : Extraction}

theorem withCaller_of_arrow (h : e.fragments.any Fragment.isArrow = true) :
    e.NamesCaller service (e.withCaller service) := by
  obtain ⟨front, a, back, hsplit, hfront⟩ := Fragment.exists_first_arrow h
  rw [withCaller, if_pos h]
  refine ⟨⟨front, a, back, hsplit, hfront, ?_⟩, rfl, rfl⟩
  simp only [hsplit, Fragment.withFirstSource_append hfront, Fragment.withFirstSource]

theorem withCaller_of_no_arrow (h : ∀ f ∈ e.fragments, f.isArrow = false) :
    e.withCaller service = e := by
  rw [withCaller, if_neg]
  simpa using h

namespace NamesCaller

variable {named : Extraction}

/-- There is an arrow outside groups, before and after. -/
theorem any_isArrow (h : e.NamesCaller service named) :
    named.fragments.any Fragment.isArrow = true := by
  obtain ⟨front, a, back, -, -, hnamed⟩ := h.fragments
  simp [hnamed, Fragment.isArrow]

/-- Naming the same caller again changes nothing. -/
theorem withCaller_eq (h : e.NamesCaller service named) : named.withCaller service = named := by
  obtain ⟨front, a, back, -, hfront, hnamed⟩ := h.fragments
  rw [withCaller, if_pos h.any_isArrow]
  have hfragments : Fragment.withFirstSource service named.fragments = named.fragments := by
    simp only [hnamed, Fragment.withFirstSource_append hfront, Fragment.withFirstSource]
  have hparticipants :
      service :: named.participants.filter (· != service) = named.participants := by
    simp [h.participants]
  rw [hfragments, hparticipants]

theorem nodup (h : e.NamesCaller service named) (hnodup : e.participants.Nodup) :
    named.participants.Nodup := by
  rw [h.participants, List.nodup_cons]
  exact ⟨by simp, hnodup.filter _⟩

end NamesCaller

end Extraction

namespace Codebase

variable {c : Codebase} {p : Profile} {message : c.Ref}

/-- The sender of a message is known just if one type alone constructs it and has a service. -/
theorem caller?_eq_some_iff {service : String} :
    c.caller? p message = some service ↔
      ∃ origin, c.origins message = [origin] ∧ p.serviceOf (c.decl origin) = some service := by
  rw [caller?]
  split
  next origin horigins => simp [horigins]
  next hmany =>
    simp only [reduceCtorEq, false_iff, not_exists, not_and]
    exact fun origin horigins => absurd horigins (hmany origin)

theorem repairCaller_of_caller {service : String} {e : Extraction} {a : Arrow}
    (hcaller : c.caller? p message = some service) (ha : .arrow a ∈ e.fragments) :
    e.NamesCaller service (c.repairCaller p message e) := by
  rw [repairCaller, hcaller]
  exact Extraction.withCaller_of_arrow (List.any_eq_true.2 ⟨_, ha, rfl⟩)

theorem repairCaller_eq_self {e : Extraction}
    (h : ∀ service, c.caller? p message = some service → ∀ a, .arrow a ∉ e.fragments) :
    c.repairCaller p message e = e := by
  rw [repairCaller]
  split
  next service hcaller =>
    refine Extraction.withCaller_of_no_arrow fun f hf => ?_
    cases f with
    | arrow a => exact absurd hf (h service hcaller a)
    | alt sections => rfl
  next => rfl

/-- A repaired flow has its caller named or is the flow as it was. -/
theorem namesCaller_or_repairCaller_eq (c : Codebase) (p : Profile) (message : c.Ref)
    (e : Extraction) :
    (∃ service, c.caller? p message = some service ∧
      e.NamesCaller service (c.repairCaller p message e)) ∨ c.repairCaller p message e = e := by
  by_cases h : ∃ service a, c.caller? p message = some service ∧ .arrow a ∈ e.fragments
  · obtain ⟨service, a, hcaller, ha⟩ := h
    exact .inl ⟨service, hcaller, repairCaller_of_caller hcaller ha⟩
  · exact .inr (repairCaller_eq_self fun service hcaller a ha => h ⟨service, a, hcaller, ha⟩)

theorem repairCaller_repairCaller (e : Extraction) :
    c.repairCaller p message (c.repairCaller p message e) = c.repairCaller p message e := by
  rcases namesCaller_or_repairCaller_eq c p message e with ⟨service, hcaller, hnamed⟩ | hsame
  · have hagain := hnamed.withCaller_eq
    generalize c.repairCaller p message e = named at hagain
    rw [repairCaller, hcaller]
    exact hagain
  · rw [hsame, hsame]

end Codebase

/-- A flow is changed only where exactly one type constructs the message, that type has a service,
and some arrow stands outside groups. Then the first such arrow leaves from the service, which is
put in front of the other participants, and all else stays as it is. Repairing again changes
nothing more, and participants that were distinct stay so. -/
theorem repairCaller_edits_entry (c : Codebase) (p : Profile) (message : c.Ref) (e : Extraction) :
    (∀ origin service a, c.origins message = [origin] →
      p.serviceOf (c.decl origin) = some service → .arrow a ∈ e.fragments →
        e.NamesCaller service (c.repairCaller p message e)) ∧
    ((¬ ∃ origin service a, c.origins message = [origin] ∧
        p.serviceOf (c.decl origin) = some service ∧ .arrow a ∈ e.fragments) →
      c.repairCaller p message e = e) ∧
    c.repairCaller p message (c.repairCaller p message e) = c.repairCaller p message e ∧
    (e.participants.Nodup → (c.repairCaller p message e).participants.Nodup) := by
  refine ⟨fun origin service a horigins hservice ha => ?_, fun hnone => ?_,
    Codebase.repairCaller_repairCaller e, fun hnodup => ?_⟩
  · exact Codebase.repairCaller_of_caller
      (Codebase.caller?_eq_some_iff.2 ⟨origin, horigins, hservice⟩) ha
  · refine Codebase.repairCaller_eq_self fun service hcaller a ha => hnone ?_
    obtain ⟨origin, horigins, hservice⟩ := Codebase.caller?_eq_some_iff.1 hcaller
    exact ⟨origin, service, a, horigins, hservice, ha⟩
  · rcases Codebase.namesCaller_or_repairCaller_eq c p message e with ⟨service, -, hnamed⟩ | hsame
    · exact hnamed.nodup hnodup
    · rwa [hsame]

namespace Relay

/-- A flow that begins with a loop, as no walk gives it. -/
def looped : Extraction where
  message := "Shop.Placed"
  participants := ["Store", "Shop", "Depot"]
  fragments :=
    [.alt [⟨some .forEach, "orders", [.arrow ⟨"Store", "Depot", "Packed", "green"⟩]⟩],
      .arrow ⟨"Client", "Store", "Placed", "green"⟩]

/-- The arrow behind the loop gets the service of the order as its source. The desk, which nobody
constructs, has no caller. -/
theorem market_names_caller :
    ∃ order desk origin : market.Ref, market.fullName order = "Shop.Placed" ∧
      market.origins order = [origin] ∧
      Profile.sample.serviceOf (market.decl origin) = some "Shop" ∧
      .arrow ⟨"Client", "Store", "Placed", "green"⟩ ∈ looped.fragments ∧
      looped.participants.Nodup ∧
      looped.NamesCaller "Shop" (market.repairCaller .sample order looped) ∧
      (market.repairCaller .sample order looped).participants.Nodup ∧
      market.origins desk = [] ∧ market.repairCaller .sample desk looped = looped := by
  have horigins : market.origins ⟨0, by decide⟩ = [⟨0, by decide⟩] := by decide
  have hdesk : market.origins ⟨1, by decide⟩ = [] := by decide
  have harrow : .arrow ⟨"Client", "Store", "Placed", "green"⟩ ∈ looped.fragments :=
    List.mem_cons_of_mem _ List.mem_cons_self
  have hdistinct : looped.participants.Nodup := by decide
  obtain ⟨hnames, -, -, hnodup⟩ :=
    repairCaller_edits_entry market .sample ⟨0, by decide⟩ looped
  obtain ⟨-, hsame, -⟩ := repairCaller_edits_entry market .sample ⟨1, by decide⟩ looped
  refine ⟨⟨0, by decide⟩, ⟨1, by decide⟩, ⟨0, by decide⟩, by decide, horigins, by decide, harrow,
    hdistinct, hnames _ _ _ horigins (by decide) harrow, hnodup hdistinct, hdesk, hsame ?_⟩
  rintro ⟨origin, service, a, horigin, -⟩
  rw [hdesk] at horigin
  cases horigin

end Relay

end Ripple
