import Ripple.Proofs.Codebase.Ancestry
import Ripple.Proofs.Flow.Frames
import Ripple.Proofs.Flow.Participants

/-!
# Where arrows leave from

Inside the visit to a handler, arrows leave from the handler's service. That is where the arrow for
the visit itself arrived, whatever was shown in between. Where the service is not known the two
differ: the visit arrives at the participant for unknown services, but what the handler publishes
leaves from the external actor (`arrows_leave_from_arrivals`).
-/

namespace Ripple

open Fragment

variable {c : Codebase} {p : Profile}

/-- Whether arrows, each with the visits going on once its visit is opened, are linked: inside a
visit each comes after the arrow of that visit, with only arrows of visits inside it in between, and
leaves from the service where that one arrived, or from the external actor if that is unknown. -/
def Linked (p : Profile) (shown : List (List Visit × Arrow)) : Prop :=
  ∀ before v u outer a after, shown = before ++ (v :: u :: outer, a) :: after →
    ∃ past arrival nested, before = past ++ (u :: outer, arrival) :: nested ∧
      (∀ x ∈ nested, ∃ w visits, x.1 = w :: visits ∧ u :: outer <:+ visits) ∧
      a.label = Name.simple v.message ∧ arrival.label = Name.simple u.message ∧
      arrival.target = p.participant (p.serviceFor u.handler) ∧
      a.source = (p.serviceFor u.handler).getD p.externalActor ∧
      (a.source = arrival.target ↔
        p.serviceFor u.handler ≠ none ∨ p.externalActor = p.unknownService)

/-- Frames that no visit is around are linked. -/
theorem Framed.linked {entries : List (Entry c)} {shown : List (List Visit × Arrow)}
    (h : Framed p [] entries shown) : Linked p shown := by
  intro before v u outer a after hshown
  obtain houter | ⟨past, arrival, nested, rfl, hnested⟩ := h.exists_arrival hshown
  · cases houter
  have hshows {visits : List Visit} {w : Visit} {b : Arrow} (hb : (w :: visits, b) ∈ shown) :
      b.Shows p w visits := by
    obtain ⟨w', visits', hvisits, -, hshows⟩ := h.exists_shows _ hb
    obtain ⟨rfl, rfl⟩ := List.cons.inj hvisits
    exact hshows
  have ha : a.Shows p v (u :: outer) := hshows (by simp [hshown])
  have harrival : arrival.Shows p u outer := hshows (by simp [hshown])
  have hsource := ha.source u rfl
  refine ⟨past, arrival, nested, rfl, hnested, ha.label, harrival.label, harrival.target, hsource,
    ?_⟩
  rw [hsource, harrival.target, Profile.participant]
  cases p.serviceFor u.handler <;> simp

/-- A first source that is changed is that of the first arrow. -/
theorem arrowsOf_withFirstSource {source : String} {fragments : List Fragment}
    (h : fragments = [] ∨ ∃ a rest, fragments = .arrow a :: rest) :
    arrowsOf (withFirstSource source fragments) =
      (arrowsOf fragments).modifyHead fun a => { a with source } := by
  obtain rfl | ⟨a, rest, rfl⟩ := h <;> rfl

/-- The arrows of every run, and those of every extraction, are those of the visits that were
opened, in that order, and they are linked: what a handler publishes, however its body goes about
that, leaves from where the arrow for its visit arrived just if the handler has a service or the
participants for what is unknown and for what is outside are the same. -/
theorem arrows_leave_from_arrivals (c : Codebase) (p : Profile) :
    (∀ message sender pinned participants active,
      let run := visit c p message sender pinned {} { participants, active }
      ∃ shown, arrowsOf run.1 = shown.map Prod.snd ∧ run.2.courses = shown.map Prod.fst ∧
        Linked p shown) ∧
    ∀ fullName e, c.extract p fullName = some e → ∃ message shown,
      c.find? fullName = some message ∧ arrowsOf e.fragments = shown.map Prod.snd ∧
      (c.freshVisit p message).2.courses = shown.map Prod.fst ∧ Linked p shown := by
  refine ⟨fun message sender pinned participants active => ?_, fun fullName e he => ?_⟩
  · obtain ⟨shown, harrows, hframed⟩ :=
      framed_visit (p := p) message sender pinned participants active
    exact ⟨shown, harrows, hframed.filterMap_course?, hframed.linked⟩
  · obtain ⟨message, hmessage, rfl⟩ := Option.map_eq_some_iff.1 he
    obtain ⟨shown, harrows, hframed⟩ := framed_visit (c := c) (p := p) message none none [] []
    refine ⟨message, ?_⟩
    cases hnamed : c.namedCaller? p message with
    | none =>
      rw [Codebase.extractFrom_of_not_named hnamed]
      exact ⟨shown, hmessage, harrows, hframed.filterMap_course?, hframed.linked⟩
    | some service =>
      rw [(Codebase.extractFrom_of_named hnamed).2]
      have hnamed := hframed.withFirstSource service
      refine ⟨_, hmessage, ?_, hframed.filterMap_course?.trans ?_, hnamed.linked⟩
      · have hfirst := c.drawVisit_eq_nil_or_arrow_cons (p := p) message none []
        rw [← Codebase.freshVisit_fst] at hfirst
        rw [arrowsOf_withFirstSource hfirst, Codebase.freshVisit, harrows]
        cases shown <;> rfl
      · cases shown <;> rfl

namespace Relay

/-- The visit of the order to the desk. -/
def toDesk : Visit := ⟨"Store.Desk", "Shop.Placed"⟩

/-- The order that the desk publishes, in a branch of a method that it calls, leaves from the store,
where the first one arrived. -/
theorem shop_stays_linked :
    ∃ e arrival a, shop.extract .sample "Shop.Placed" = some e ∧
      arrowsOf e.fragments = [arrival, a] ∧
      (shop.freshVisit .sample placed).2.courses = [[toDesk], [toDesk, toDesk]] ∧
      a.source = arrival.target := by
  have hextract : shop.extract .sample "Shop.Placed" =
      some { message := "Shop.Placed", participants := ["Store"], fragments :=
        [.arrow ⟨"Client", "Store", "Placed", "green"⟩, .alt [⟨some .conditional, "rush",
          [.arrow ⟨"Store", "Store", "Placed", "green"⟩]⟩]] } := by cbv
  have hplaced : shop.find? "Shop.Placed" = some placed := by decide
  have hservice : Profile.sample.serviceFor toDesk.handler ≠ none := by decide
  have htwice : (shop.freshVisit .sample placed).2.courses = [[toDesk], [toDesk, toDesk]] := by cbv
  obtain ⟨message, shown, hmessage, harrows, hcourses, hlinked⟩ :=
    (arrows_leave_from_arrivals shop .sample).2 _ _ hextract
  obtain rfl := Option.some.inj (hplaced.symm.trans hmessage)
  rw [htwice] at hcourses
  obtain ⟨⟨_, arrival⟩, rest, rfl, rfl, hrest⟩ := List.map_eq_cons_iff.1 hcourses.symm
  obtain ⟨⟨_, a⟩, rest', rfl, rfl, hnil⟩ := List.map_eq_cons_iff.1 hrest
  obtain rfl := List.map_eq_nil_iff.1 hnil
  obtain ⟨past, first, nested, hbefore, -, -, -, -, -, hlink⟩ :=
    hlinked [([toDesk], arrival)] toDesk toDesk [] a [] rfl
  have hmem : ([toDesk], first) ∈ [([toDesk], arrival)] := by simp [hbefore]
  obtain rfl : first = arrival := (Prod.mk.inj (List.mem_singleton.1 hmem)).2
  exact ⟨_, first, a, hextract, harrows, htwice, hlink.2 (.inl hservice)⟩

/-- Two events, a hub that has no service where segments with an `H` are skipped and publishes the
second when it handles the first, and a desk that handles the second. -/
def depot : Codebase where
  types :=
    [(TypeDecl.empty .classType "Shop.Placed").withBase "Event",
      (TypeDecl.empty .classType "Shop.Packed").withBase "Event",
      ((TypeDecl.empty .classType "Hub").withBase "Handler").withMethod
        ⟨"Handle", [⟨"Shop.Placed", "placed", []⟩],
          [.call ⟨"Bus", "Publish", [⟨"Shop.Packed", "packed"⟩]⟩]⟩,
      ((TypeDecl.empty .classType "Store.Desk").withBase "Handler").withMethod
        ⟨"Handle", [⟨"Shop.Packed", "packed", []⟩], []⟩]

/-- The sample conventions where segments with an `H` are skipped. -/
def skipping : Profile := { Profile.sample with skippedSegments := [.char (.single 72)] }

/-- The order arrives at the participant for unknown services, but what the hub publishes for it
leaves from the external actor. -/
theorem hub_breaks_off :
    Codebase.ofDeclared depot.types = depot ∧ skipping.serviceFor "Hub" = none ∧
    ∃ e order arrival a, depot.extract skipping "Shop.Placed" = some e ∧
      depot.find? "Shop.Placed" = some order ∧ arrowsOf e.fragments = [arrival, a] ∧
      (depot.freshVisit skipping order).2.courses =
        [[⟨"Hub", "Shop.Placed"⟩],
          [⟨"Store.Desk", "Shop.Packed"⟩, ⟨"Hub", "Shop.Placed"⟩]] ∧
      arrival.target = "Unknown" ∧ a.source = "Client" := by
  have hextract : depot.extract skipping "Shop.Placed" =
      some { message := "Shop.Placed", participants := ["Unknown", "Store"], fragments :=
        [.arrow ⟨"Client", "Unknown", "Placed", "green"⟩,
          .arrow ⟨"Client", "Store", "Packed", "green"⟩] } := by cbv
  have horder : depot.find? "Shop.Placed" = some ⟨0, by decide⟩ := by decide
  exact ⟨(Codebase.ofDeclared_eq_inRounds _).trans rfl, by decide, _, _, _, _, hextract, horder,
    rfl, by cbv, rfl, rfl⟩

end Relay

end Ripple
