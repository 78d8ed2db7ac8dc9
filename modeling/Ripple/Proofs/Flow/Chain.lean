import Ripple.Proofs.Flow.Drawn
import Ripple.Proofs.Flow.Published

/-!
# Which arrows a visit shows

A message is followed by others: the body of a handling method sends some, their handlers send
more. `Chain` holds of the pairs of handler and message along such a course, however long it
is and whether or not it comes back to a pair.

The walk takes only some chains: it turns away from a visit that is going on, and it stops at
`maxDepth`. Still it shows the arrows of all chains below that depth, and no others,
since what goes round can be cut short without changing its last pair, and what a pair sends
on depends on that pair alone.
-/

namespace Ripple

open Statement

namespace Codebase

variable (c : Codebase) (p : Profile)

/-- The messages that the handling method of a handler sends: those that the publishing calls
on record name, once its body is walked with nothing else going on. -/
def triggers (handler message : c.Ref) : List c.Ref :=
  match c.handlingMethod p handler (c.decl message) with
  | none => []
  | some m =>
    let v := c.visitOf handler message
    ((walkAll c p handler none (Trail.enter {} v) m.body {}).2.publishedIn [v] handler).filterMap
      (c.messageOf p)

/-- Whether a message can come next: the first one to begin with, then one that the latest pair
of handler and message triggers. -/
def Follows (first : c.Ref) (past : List (c.Ref × c.Ref)) (message : c.Ref) : Prop :=
  match past.head? with
  | none => message = first
  | some (handler, handled) => message ∈ c.triggers p handler handled

/-- The service that sends what comes next, if there was a handler before. -/
def senderAfter (past : List (c.Ref × c.Ref)) : Option String :=
  past.head?.bind fun pair => p.serviceOf (c.decl pair.1)

/-- Whether pairs of handler and message, latest first, lead on from a first message. -/
def Chain (first : c.Ref) : List (c.Ref × c.Ref) → Prop
  | [] => True
  | (handler, message) :: past =>
    c.Follows p first past message ∧ handler ∈ c.handlers p (c.decl message) ∧ Chain first past

variable {c p}
variable {first message : c.Ref} {past : List (c.Ref × c.Ref)}

/-! ## Chains -/

theorem follows_congr {past' : List (c.Ref × c.Ref)} (h : past'.head? = past.head?) :
    c.Follows p first past' message ↔ c.Follows p first past message := by
  rw [Follows, h, Follows]

theorem Chain.of_append {late early : List (c.Ref × c.Ref)}
    (h : c.Chain p first (late ++ early)) : c.Chain p first early := by
  induction late with
  | nil => exact h
  | cons pair late ih => exact ih h.2.2

/-- A chain can be cut short to one without repetition that ends in the same pair. -/
theorem Chain.exists_nodup (h : c.Chain p first past) :
    ∃ short, c.Chain p first short ∧ short.Nodup ∧ short.length ≤ past.length ∧
      short.head? = past.head? := by
  induction past with
  | nil => exact ⟨[], h, List.nodup_nil, le_rfl, rfl⟩
  | cons pair past ih =>
    obtain ⟨hfollows, hhandler, hpast⟩ := h
    obtain ⟨short, hshort, hnodup, hlen, hhead⟩ := ih hpast
    by_cases hmem : pair ∈ short
    · -- the chain went round: what is older than the first time round is enough
      obtain ⟨late, early, rfl⟩ := List.append_of_mem hmem
      refine ⟨pair :: early, hshort.of_append, hnodup.of_append_right, ?_, rfl⟩
      simp only [List.length_append, List.length_cons] at hlen ⊢
      omega
    · exact ⟨pair :: short, ⟨(follows_congr hhead).2 hfollows, hhandler, hshort⟩,
        List.nodup_cons.2 ⟨hmem, hnodup⟩, Nat.succ_le_succ hlen, rfl⟩

/-! ## Arrows -/

/-- The walk of a body finds the messages that are left when it is distilled. -/
theorem mem_triggers {handler sent : c.Ref} :
    sent ∈ c.triggers p handler message ↔
      ∃ call ∈ exposedOfBody (c.script p handler message), c.messageOf p call = some sent := by
  unfold triggers script
  cases c.handlingMethod p handler (c.decl message) with
  | none => simp [exposedOfBody]
  | some m =>
    have hbody := @publishedIn_walkAll_body c p handler none {} (c.visitOf handler message) m {}
    simp only [hbody, List.mem_filterMap]
    simp [Ledger.publishedIn]

/-- A handler triggers the messages that its handling method sends, by whatever chain of
calls. -/
theorem mem_triggers_iff_sends {handler sent : c.Ref} {m : c.MethodRef}
    (hm : c.handlingMethod p handler (c.decl message) = some m) :
    sent ∈ c.triggers p handler message ↔
      ∃ call, c.Sends p m call ∧ c.messageOf p call = some sent := by
  rw [mem_triggers, script, hm]
  simp only [mem_distillBody_iff]

/-- The arrows of a visit: one to each handler, and those of the messages it triggers unless its
visit is going on. -/
theorem mem_arrowsOf_drawVisit {sender : Option String} {visits : List Visit} {a : Arrow} :
    a ∈ Fragment.arrowsOf (c.drawVisit p message sender visits) ↔
      visits.length < p.maxDepth ∧ ∃ handler ∈ c.handlers p (c.decl message),
        a = c.arrowTo p sender message handler ∨
          c.visitOf handler message ∉ visits ∧ ∃ next ∈ c.triggers p handler message,
            a ∈ Fragment.arrowsOf (c.drawVisit p next (p.serviceOf (c.decl handler))
              (c.visitOf handler message :: visits)) := by
  by_cases hlt : visits.length < p.maxDepth
  · rw [drawVisit_of_lt hlt, Fragment.arrowsOf_flatMap, List.mem_flatMap]
    simp only [hlt, true_and, Fragment.arrowsOf_arrow_cons, List.mem_cons]
    refine exists_congr fun handler => and_congr_right fun _ => or_congr_right ?_
    unfold drawFollowUp
    split
    next hmem => simp [hmem]
    next hfree =>
      simp only [hfree, not_false_eq_true, true_and, mem_triggers, arrowsOf_drawBody,
        List.mem_flatMap]
      constructor
      · rintro ⟨call, hcall, ha⟩
        cases hmessage : c.messageOf p call with
        | none => simp [drawSent, hmessage] at ha
        | some next => exact ⟨next, ⟨call, hcall, hmessage⟩, by simpa [drawSent, hmessage] using ha⟩
      · rintro ⟨next, ⟨call, hcall, hmessage⟩, ha⟩
        exact ⟨call, hcall, by simpa [drawSent, hmessage] using ha⟩
  · rw [drawVisit_of_deep (Nat.not_lt.1 hlt)]
    simp [hlt]

/-- The visits that are going on at the end of a chain. -/
def visitsOf (past : List (c.Ref × c.Ref)) : List Visit :=
  past.map fun pair => c.visitOf pair.1 pair.2

/-- What is shown at the end of a chain is the arrow to a handler at the end of a chain, and
that chain is short enough. -/
theorem exists_chain_of_mem_arrowsOf {a : Arrow} (hchain : c.Chain p first past)
    (hfollows : c.Follows p first past message)
    (ha : a ∈ Fragment.arrowsOf
      (c.drawVisit p message (c.senderAfter p past) (visitsOf past))) :
    ∃ past message handler, c.Chain p first past ∧ c.Follows p first past message ∧
      handler ∈ c.handlers p (c.decl message) ∧ past.length < p.maxDepth ∧
      a = c.arrowTo p (c.senderAfter p past) message handler := by
  -- the chain grows by one pair in each round, up to `maxDepth`
  induction hroom : p.maxDepth - past.length generalizing past message with
  | zero =>
    have hlt := (mem_arrowsOf_drawVisit.1 ha).1
    rw [visitsOf, List.length_map] at hlt
    omega
  | succ room ih =>
    obtain ⟨hlt, handler, hhandler, rfl | ⟨-, next, hnext, ha⟩⟩ := mem_arrowsOf_drawVisit.1 ha
    · rw [visitsOf, List.length_map] at hlt
      exact ⟨past, message, handler, hchain, hfollows, hhandler, hlt, rfl⟩
    · refine @ih next ((handler, message) :: past) ⟨hfollows, hhandler, hchain⟩ hnext ha ?_
      rw [List.length_cons]
      omega

section distinct

variable (hnames : (c.types.map (·.fullName)).Nodup)
include hnames

theorem fullName_injective : Function.Injective c.fullName := by
  intro r r' h
  have hget := List.nodup_iff_injective_get.1 hnames
  have hsame : (r.cast (by simp) : Fin (c.types.map (·.fullName)).length) = r'.cast (by simp) :=
    hget (by simpa [fullName, decl] using h)
  simpa [Fin.ext_iff] using hsame

theorem mem_visitsOf {handler : c.Ref} :
    c.visitOf handler message ∈ visitsOf past ↔ (handler, message) ∈ past := by
  refine ⟨fun h => ?_, fun h => List.mem_map.2 ⟨_, h, rfl⟩⟩
  obtain ⟨⟨handler', message'⟩, hmem, hvisit⟩ := List.mem_map.1 h
  obtain ⟨hhandler, hmessage⟩ := Visit.mk.inj hvisit
  obtain rfl := fullName_injective hnames hhandler
  obtain rfl := fullName_injective hnames hmessage
  exact hmem

/-- What is shown at the end of a chain without repetition is shown from its beginning. -/
theorem mem_arrowsOf_of_nodup {a : Arrow} (hchain : c.Chain p first past) (hnodup : past.Nodup)
    (hfollows : c.Follows p first past message)
    (ha : a ∈ Fragment.arrowsOf
      (c.drawVisit p message (c.senderAfter p past) (visitsOf past))) :
    a ∈ Fragment.arrowsOf (c.drawVisit p first none []) := by
  induction past generalizing message with
  | nil =>
    obtain rfl : message = first := hfollows
    exact ha
  | cons pair past ih =>
    obtain ⟨handler, handled⟩ := pair
    obtain ⟨hbefore, hhandler, hpast⟩ := hchain
    obtain ⟨hnew, hnodup⟩ := List.nodup_cons.1 hnodup
    have hlt := (mem_arrowsOf_drawVisit.1 ha).1
    refine ih hpast hnodup hbefore (mem_arrowsOf_drawVisit.2
      ⟨Nat.lt_of_succ_lt hlt, handler, hhandler, .inr ⟨?_, message, hfollows, ha⟩⟩)
    rwa [mem_visitsOf hnames]

/-- Where no two types share a name, a visit shows the arrows at the ends of chains that are
short enough. -/
theorem mem_arrowsOf_drawVisit_iff_exists_chain {a : Arrow} :
    a ∈ Fragment.arrowsOf (c.drawVisit p first none []) ↔
      ∃ past message handler, c.Chain p first past ∧ c.Follows p first past message ∧
        handler ∈ c.handlers p (c.decl message) ∧ past.length < p.maxDepth ∧
        a = c.arrowTo p (c.senderAfter p past) message handler := by
  constructor
  · intro ha
    have hnil : c.Chain p first [] := trivial
    exact exists_chain_of_mem_arrowsOf hnil rfl ha
  · rintro ⟨past, message, handler, hchain, hfollows, hhandler, hlt, rfl⟩
    obtain ⟨short, hshort, hnodup, hlen, hhead⟩ := hchain.exists_nodup
    refine mem_arrowsOf_of_nodup hnames hshort hnodup ((follows_congr hhead).2 hfollows)
      (mem_arrowsOf_drawVisit.2 ⟨?_, handler, hhandler, .inl ?_⟩)
    · rw [visitsOf, List.length_map]
      omega
    · rw [senderAfter, senderAfter, hhead]

end distinct

end Codebase

variable {c : Codebase} {p : Profile}

/-- Where no two types share a name, the arrows that a message sets off are, unless `maxDepth`
is zero, those from outside to its own handlers, and for every chain shorter than `maxDepth`
those from the service of its last handler to the handlers of what that pair triggers. -/
theorem mem_arrowsOf_visit_iff (hnames : (c.types.map (·.fullName)).Nodup) (first : c.Ref)
    (pinned : Option String) (l : Ledger c) (a : Arrow) :
    a ∈ Fragment.arrowsOf (visit c p first none pinned {} l).1 ↔
      0 < p.maxDepth ∧
        ((∃ handler ∈ c.handlers p (c.decl first), a = c.arrowTo p none first handler) ∨
          ∃ chain handler handled, c.Chain p first chain ∧
            chain.head? = some (handler, handled) ∧
            1 ≤ chain.length ∧ chain.length ≤ p.maxDepth - 1 ∧
            ∃ next ∈ c.triggers p handler handled, ∃ receiver ∈ c.handlers p (c.decl next),
              a = c.arrowTo p (p.serviceOf (c.decl handler)) next receiver) := by
  rw [visit_fst, Codebase.mem_arrowsOf_drawVisit_iff_exists_chain hnames]
  constructor
  · rintro ⟨past, message, handler, hchain, hfollows, hhandler, hlt, rfl⟩
    refine ⟨by omega, ?_⟩
    cases past with
    | nil =>
      obtain rfl : message = first := hfollows
      exact .inl ⟨handler, hhandler, rfl⟩
    | cons pair past =>
      exact .inr ⟨pair :: past, pair.1, pair.2, hchain, rfl, by simp, by omega, message,
        hfollows, handler, hhandler, rfl⟩
  · rintro ⟨hpos, ⟨handler, hhandler, rfl⟩ | ⟨chain, handler, handled, hchain, hhead, -, hlen,
      next, hnext, receiver, hreceiver, rfl⟩⟩
    · exact ⟨[], first, handler, trivial, rfl, hhandler, hpos, rfl⟩
    · refine ⟨chain, next, receiver, hchain, ?_, hreceiver, by omega, ?_⟩
      · rw [Codebase.Follows, hhead]
        exact hnext
      · rw [Codebase.senderAfter, hhead]
        rfl

namespace Relay

/-- The desk is visited once, but the order it publishes again is shown. -/
theorem shop_shows_chain : (shop.types.map (·.fullName)).Nodup ∧
    (⟨"Store", "Store", "Placed", "green"⟩ : Arrow) ∈
      Fragment.arrowsOf (visit shop .sample placed none none {} {}).1 := by
  have hnames : (shop.types.map (·.fullName)).Nodup := by decide
  have htriggers : placed ∈ shop.triggers .sample desk placed :=
    (Codebase.mem_triggers_iff_sends (m := handling) (by decide)).2
      ⟨relayed, handling_sends_relayed, by decide⟩
  exact ⟨hnames, (mem_arrowsOf_visit_iff hnames _ _ _ _).2 ⟨by decide, .inr
    ⟨[(desk, placed)], desk, placed, ⟨rfl, by decide, trivial⟩, rfl, by decide, by decide,
      placed, htriggers, desk, by decide, by decide⟩⟩⟩

end Relay

end Ripple
