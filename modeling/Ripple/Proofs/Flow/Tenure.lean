import Ripple.Proofs.Codebase.Ancestry
import Ripple.Proofs.Flow.Activation
import Ripple.Proofs.Flow.Frames
import Mathlib.Data.List.Chain

/-!
# How long a service stays active

The service of a handler is active once the visit to it is opened. Visits to other services inside
leave it so, but a visit to the same service retires it where it closes with the service innermost
and the flow branched off elsewhere. Then the service may no longer be active when the outer visit
closes. Only the service at which the flow branched off is sure to stay (`active_until_retired`).

What is active at an entry in the journal follows from the entry before it: `Entry.Precedes` says
how, and `notMem_active_iff` what comes of that over several entries.
-/

namespace Ripple

variable {c : Codebase} {p : Profile} {sender pinned : Option String} {service : String}

/-! ## One entry after another -/

namespace Entry

/-- Whether an entry opens a visit to a handler of a service. -/
def Activates (service : String) (e : Entry c) : Prop := ∃ v, e.event = .opened v (some service)

/-- Whether a service is no longer active after an entry: this closes a visit to a handler of the
service, the service is innermost, and the flow branched off elsewhere. -/
structure Retires (p : Profile) (pinned : Option String) (service : String) (e : Entry c) :
    Prop where
  closes : ∃ v, e.event = .closed v (some service)
  innermost : e.active.getLast? = some service
  elsewhere : pinnedAmid p pinned e.trail.visits ≠ some service

/-- Whether a service has lapsed at an entry: one of those before retired it, and none since then,
this one included, activates it. -/
def Lapsed (p : Profile) (pinned : Option String) (service : String) (before : List (Entry c))
    (e : Entry c) : Prop :=
  ∃ (past : List (Entry c)) (r : Entry c) (since : List (Entry c)), before = past ++ r :: since ∧
    r.Retires p pinned service ∧ ∀ y ∈ since ++ [e], ¬ y.Activates service

/-- Whether the services active at an entry are those that it activates and those that were active
at the one before, which did not retire them. -/
def Precedes (p : Profile) (pinned : Option String) (e next : Entry c) : Prop :=
  ∀ service, service ∈ next.active ↔
    next.Activates service ∨ service ∈ e.active ∧ ¬ e.Retires p pinned service

end Entry

namespace Ledger

variable {l l' : Ledger c}

/-- Deactivating takes away a known service that is innermost and not pinned, and no other. -/
theorem mem_active_deactivate {known : Option String} (hnodup : l.active.Nodup) :
    service ∈ (l.deactivate known pinned).active ↔
      service ∈ l.active ∧
        ¬ (known = some service ∧ l.active.getLast? = some service ∧ pinned ≠ some service) := by
  unfold deactivate
  split
  next hlast =>
    simp only [Bool.and_eq_true, beq_iff_eq, bne_iff_ne, Option.isSome_iff_exists] at hlast
    obtain ⟨⟨⟨name, rfl⟩, hlast⟩, hpinned⟩ := hlast
    obtain ⟨active, hactive⟩ := List.getLast?_eq_some_iff.1 hlast
    rw [hactive] at hnodup ⊢
    have hnotMem : name ∉ active := fun hmem =>
      (List.nodup_append.1 hnodup).2.2 name hmem name (List.mem_singleton_self name) rfl
    by_cases hname : service = name
    · subst hname
      simp [hnotMem, Ne.symm hpinned]
    · simp [hname, Ne.symm hname]
  next hlast =>
    refine (and_iff_left ?_).symm
    rintro ⟨rfl, hinnermost, hpinned⟩
    exact hlast (by simp [hinnermost, Ne.symm hpinned])

/-- Whether the services active in a ledger are those that the entries in its journal leave active,
step by step. -/
structure Retentive (p : Profile) (pinned : Option String) (l : Ledger c) : Prop where
  distinct : l.active.Nodup
  steps : l.journal.IsChain fun next e => e.Precedes p pinned next
  activated : ∀ e ∈ l.journal, ∀ service, e.Activates service → service ∈ e.active
  now : ∀ e ∈ l.journal.head?, ∀ service,
    service ∈ l.active ↔ service ∈ e.active ∧ ¬ e.Retires p pinned service

namespace Retentive

variable {trail : Trail c}

/-- It stays so with an entry that has what it activates and what was active, if what is active then
is what the entry does not retire. -/
theorem cons (h : l.Retentive p pinned) {e : Entry c} (hjournal : l'.journal = e :: l.journal)
    (hdistinct : l'.active.Nodup)
    (hbefore : ∀ service, service ∈ e.active ↔ e.Activates service ∨ service ∈ l.active)
    (hafter : ∀ service, service ∈ l'.active ↔
      service ∈ e.active ∧ ¬ e.Retires p pinned service) : l'.Retentive p pinned where
  distinct := hdistinct
  steps := by
    rw [hjournal]
    refine List.isChain_cons.2 ⟨fun earlier hearlier service => ?_, h.steps⟩
    rw [hbefore, h.now earlier hearlier]
  activated := by
    rw [hjournal]
    exact List.forall_mem_cons.2 ⟨fun service hopens => (hbefore service).2 (.inl hopens),
      h.activated⟩
  now latest hlatest := by
    rw [hjournal] at hlatest
    obtain rfl := Option.some.inj hlatest
    exact hafter

theorem record (h : l.Retentive p pinned) {event : Event c}
    (hopen : ∀ v service, event ≠ .opened v service)
    (hclose : ∀ v service, event ≠ .closed v service) :
    (l.record trail event).Retentive p pinned := by
  refine h.cons rfl h.distinct (fun service => (or_iff_right ?_).symm)
    fun service => (and_iff_left ?_).symm
  · exact fun ⟨v, hv⟩ => hopen v _ hv
  · exact fun hretires => hretires.closes.elim fun v hv => hclose v _ hv

theorem opened (h : l.Retentive p pinned) (handler message : c.Ref) (trail : Trail c) :
    (l.opened p handler message trail).Retentive p pinned := by
  refine h.cons (l.journal_opened_eq p handler message trail) ?_ (fun service => ?_)
    fun service => ?_
  · rw [active_opened]
    cases p.serviceOf (c.decl handler) with
    | none => exact h.distinct
    | some name =>
      rw [active_activate_some]
      exact nodup_joined h.distinct [name]
  · rw [active_opened, mem_active_activate, or_comm]
    simp [Entry.Activates]
  · dsimp only
    exact (and_iff_left fun hretires => hretires.closes.elim nofun).symm

theorem closed (h : l.Retentive p pinned) (handler message : c.Ref) (trail : Trail c) :
    (l.closed p handler message (pinnedAmid p pinned trail.visits) trail).Retentive p pinned := by
  let e : Entry c := ⟨.closed (c.visitOf handler message) (p.serviceOf (c.decl handler)), trail,
    l.participants, l.active⟩
  have hretires (service : String) : e.Retires p pinned service ↔
      p.serviceOf (c.decl handler) = some service ∧ l.active.getLast? = some service ∧
        pinnedAmid p pinned trail.visits ≠ some service := by
    constructor
    · rintro ⟨⟨v, hv⟩, hinnermost, helsewhere⟩
      exact ⟨(Event.closed.inj hv).2, hinnermost, helsewhere⟩
    · rintro ⟨hservice, hinnermost, helsewhere⟩
      exact ⟨⟨c.visitOf handler message, by rw [← hservice]⟩, hinnermost, helsewhere⟩
  refine h.cons (e := e) (l.journal_closed_eq p handler message trail _) ?_
    (fun service => (or_iff_right ?_).symm) fun service => ?_
  · exact h.distinct.sublist prefix_active_deactivate.sublist
  · exact fun ⟨_, hv⟩ => nomatch hv
  · rw [hretires]
    exact mem_active_deactivate h.distinct

end Retentive

end Ledger

/-- Every step of a run keeps a ledger retentive. -/
theorem retentiveInvariant : RunInvariant c p sender pinned fun _ l _ l' =>
    l.Retentive p pinned → l'.Retentive p pinned where
  composes _ := { nil := fun _ h => h, append := fun h h' hl => h' (h hl) }
  record hevent h := h.record (by rintro _ _ rfl; cases hevent) (by rintro _ _ rfl; cases hevent)
  leaveInlined h := h
  unhandled _ _ _ _ h := (h.opened _ _ _).closed _ _ _
  heldBack _ _ _ _ h :=
    ((h.opened _ _ _).record (by simp) (by simp)).closed _ _ _
  handle h hl := (h (hl.opened _ _ _)).closed _ _ _

theorem retentive_visit (message : c.Ref) (sender pinned : Option String)
    (participants : List String) :
    (visit c p message sender pinned {} { participants }).2.Retentive p pinned :=
  retentiveInvariant.visit message { participants }
    ⟨List.nodup_nil, .nil, fun _ he => (nomatch he), fun _ he => nomatch he⟩

/-! ## From the opening of a visit on -/

/-- A service that an entry leaves active is not active at a later one just if it has lapsed. -/
theorem notMem_active_iff {first x : Entry c} {before : List (Entry c)}
    (hchain : (first :: (before ++ [x])).IsChain (Entry.Precedes p pinned))
    (hactive : service ∈ first.active) (hkeeps : ¬ first.Retires p pinned service) :
    service ∉ x.active ↔ x.Lapsed p pinned service before := by
  induction before using List.reverseRecOn generalizing x with
  | nil =>
    have hstep := (List.isChain_cons_cons.1 hchain).1 service
    simp [Entry.Lapsed, hstep, hactive, hkeeps]
  | append_singleton before w ih =>
    have hsplit : first :: (before ++ [w] ++ [x]) = (first :: before) ++ w :: [x] := by simp
    rw [hsplit, List.isChain_append_cons_cons] at hchain
    obtain ⟨hbefore, hstep, -⟩ := hchain
    rw [hstep service, not_or, not_and_or, not_not, ih hbefore]
    constructor
    · rintro ⟨hx, ⟨past, r, since, rfl, hretires, hsince⟩ | hretires⟩
      · refine ⟨past, r, since ++ [w], by simp, hretires, ?_⟩
        exact List.forall_mem_append.2 ⟨hsince, List.forall_mem_singleton.2 hx⟩
      · exact ⟨before, w, [], rfl, hretires, List.forall_mem_singleton.2 hx⟩
    · rintro ⟨past, r, since, heq, hretires, hsince⟩
      obtain ⟨hsince, hx⟩ := List.forall_mem_append.1 hsince
      refine ⟨hx x (List.mem_singleton_self x), ?_⟩
      cases since using List.reverseRecOn with
      | nil =>
        obtain ⟨rfl, rfl⟩ := List.append_singleton_inj.1 heq
        exact .inr hretires
      | append_singleton since y =>
        rw [← List.cons_append, ← List.append_assoc] at heq
        obtain ⟨rfl, rfl⟩ := List.append_singleton_inj.1 heq
        exact .inl ⟨past, r, since, rfl, hretires, hsince⟩

/-- A service whose visit was opened is not active at a later entry just if it has lapsed. -/
theorem Ledger.Retentive.notMem_active_iff_lapsed {l : Ledger c} (h : l.Retentive p pinned)
    {past before rest : List (Entry c)} {e x : Entry c} {v : Visit}
    (hjournal : l.journal.reverse = past ++ (e :: (before ++ [x]) ++ rest))
    (hopen : e.event = .opened v (some service)) :
    service ∉ x.active ↔ x.Lapsed p pinned service before := by
  have hchain := List.isChain_reverse.2 h.steps
  have hmem : e ∈ l.journal := List.mem_reverse.1 (by simp [hjournal])
  rw [hjournal] at hchain
  refine notMem_active_iff hchain.right_of_append.left_of_append
    (h.activated e hmem service ⟨v, hopen⟩) ?_
  rintro ⟨⟨w, hw⟩, -, -⟩
  exact absurd (hopen.symm.trans hw) nofun

/-! ## Where the flow branched off -/

/-- The service at which the flow branched off stays that for all that goes on inside. -/
theorem pinnedAmid_of_suffix {outer visits : List Visit} (hsuffix : outer <:+ visits)
    (h : pinnedAmid p pinned outer = some service) : pinnedAmid p pinned visits = some service := by
  obtain ⟨inner, rfl⟩ := hsuffix
  induction inner with
  | nil => exact h
  | cons v inner ih => rw [List.cons_append, pinnedAmid, ih, Option.some_or]

/-- No entry inside retires the service at which the flow branched off. -/
theorem Framed.not_retires {outer : List Visit} {entries : List (Entry c)}
    {shown : List (List Visit × Arrow)} (h : Framed p outer entries shown)
    (hpinned : pinnedAmid p pinned outer = some service) :
    ∀ r ∈ entries, ¬ r.Retires p pinned service := by
  intro r hr hretires
  have hvisits : r.visits = r.trail.visits := by
    obtain ⟨w, hw⟩ := hretires.closes
    simp only [Entry.visits, hw]
  exact hretires.elsewhere (pinnedAmid_of_suffix (hvisits ▸ h.suffix_visits r hr) hpinned)

/-- In a run that begins with no service active, the visit to a handler of a known service is closed
once it was opened, with only entries made within it in between. Until then the service is active
except where it has lapsed: a visit to the same service has closed inside while the service was
innermost and the flow had branched off elsewhere, and none was opened since. So it stays active
until its own visit closes if it is where the flow branched off, or if no visit to the same service
closes inside. -/
theorem active_until_retired (c : Codebase) (p : Profile) (message : c.Ref)
    (sender pinned : Option String) (participants : List String) {past rest : List (Entry c)}
    {e : Entry c} {v : Visit} {service : String}
    (hrun : (visit c p message sender pinned {} { participants }).2.journal.reverse =
      past ++ e :: rest)
    (hopen : e.event = .opened v (some service)) :
    ∃ inner e' future, rest = inner ++ e' :: future ∧ e'.event = .closed v (some service) ∧
      e'.trail = e.trail ∧ (∀ x ∈ inner, v :: e.trail.visits <:+ x.visits) ∧ service ∈ e.active ∧
      (∀ before x after, inner ++ [e'] = before ++ x :: after →
        (service ∉ x.active ↔ x.Lapsed p pinned service before)) ∧
      (pinnedAmid p pinned (v :: e.trail.visits) = some service ∨
          (∀ x ∈ inner, ∀ w, x.event ≠ .closed w (some service)) →
        ∀ x ∈ inner ++ [e'], service ∈ x.active) := by
  obtain ⟨shown, -, hframed⟩ := framed_visit (p := p) message sender pinned participants []
  obtain ⟨inner, e', future, shown', rfl, hbounds, hinner⟩ := hframed.exists_close hopen hrun
  have hservice : p.serviceFor v.handler = some service :=
    (Event.opened.inj (hbounds.opens.symm.trans hopen)).2
  have hretentive := retentive_visit (p := p) message sender pinned participants
  have hmem := List.mem_reverse.1 (hrun ▸ List.mem_append_right past List.mem_cons_self)
  have hmoment (before : List (Entry c)) (x : Entry c) (after : List (Entry c))
      (hsplit : inner ++ [e'] = before ++ x :: after) :
      service ∉ x.active ↔ x.Lapsed p pinned service before := by
    have hrest : inner ++ e' :: future = before ++ x :: after ++ future := by simp [← hsplit]
    have hparts : past ++ e :: (inner ++ e' :: future) =
        past ++ (e :: (before ++ [x]) ++ (after ++ future)) := by simp [hrest]
    exact hretentive.notMem_active_iff_lapsed (hrun.trans hparts) hopen
  refine ⟨inner, e', future, rfl, hservice ▸ hbounds.closes, hbounds.trail, hinner.suffix_visits,
    hretentive.activated e hmem service ⟨v, hopen⟩, hmoment, ?_⟩
  intro hstays x hx
  obtain ⟨before, after, hsplit⟩ := List.append_of_mem hx
  by_contra hgone
  obtain ⟨earlier, r, since, rfl, hretires, -⟩ := (hmoment before x after hsplit).1 hgone
  have hr : r ∈ inner := by
    -- the moment is at the close of the visit or before, so what came before it is inside
    have hinside : (earlier ++ r :: since) <+: inner := by
      refine (List.prefix_concat_iff.1 ⟨x :: after, hsplit.symm⟩).resolve_left fun heq => ?_
      rw [heq] at hsplit
      simp at hsplit
    exact hinside.subset (by simp)
  obtain hpinned | hnone := hstays
  · exact hinner.not_retires hpinned r hr hretires
  · obtain ⟨w, hw⟩ := hretires.closes
    exact hnone r hr w hw

namespace Relay

/-- Four events, and handlers of three services: a gate that passes an order on to a desk, which has
it billed at a till of its own service and then shown on a board elsewhere. -/
def arcade : Codebase where
  types :=
    ["Shop.Placed", "Shop.Taken", "Shop.Billed", "Shop.Shown"].map
        (fun event => (TypeDecl.empty .classType event).withBase "Event") ++
      [("Hall.Gate", "Shop.Placed", ["Shop.Taken"]),
        ("Store.Desk", "Shop.Taken", ["Shop.Billed", "Shop.Shown"]),
        ("Store.Till", "Shop.Billed", []), ("Mall.Board", "Shop.Shown", [])].map
        fun (handler, event, sent) =>
          ((TypeDecl.empty .classType handler).withBase "Handler").withMethod
            ⟨"Handle", [⟨event, "event", []⟩],
              sent.map fun next => .call ⟨"Bus", "Publish", [⟨next, "next"⟩]⟩⟩

/-- The sample conventions where messages nest three deep. -/
def nesting : Profile := { Profile.sample with maxDepth := 3 }

/-- What the gate takes. -/
def arriving : arcade.Ref := ⟨0, by decide⟩

/-- What the desk takes. -/
def passedOn : arcade.Ref := ⟨1, by decide⟩

/-- The hall, where the flow branches off, stays active for as long as the gate is visited. -/
theorem gate_keeps_hall :
    ∃ past e rest, (visit arcade nesting arriving none none {} {}).2.journal.reverse =
        past ++ e :: rest ∧
      e.event = .opened ⟨"Hall.Gate", "Shop.Placed"⟩ (some "Hall") ∧
      ∃ inner e' future, rest = inner ++ e' :: future ∧
        e'.event = .closed ⟨"Hall.Gate", "Shop.Placed"⟩ (some "Hall") ∧
        ∀ x ∈ inner ++ [e'], "Hall" ∈ x.active := by
  have hsecond : ((visit arcade nesting arriving none none {} {}).2.journal.reverse[1]?).map
      (fun e => (e.event, e.trail.visits)) =
        some (.opened ⟨"Hall.Gate", "Shop.Placed"⟩ (some "Hall"), []) := by cbv
  obtain ⟨e, he, hevent⟩ := Option.map_eq_some_iff.1 hsecond
  obtain ⟨hopen, hvisits⟩ := Prod.mk.inj hevent
  obtain ⟨past, rest, hrun⟩ := List.append_of_mem (List.mem_of_getElem? he)
  obtain ⟨inner, e', future, hrest, hclose, -, -, -, -, hstays⟩ :=
    active_until_retired arcade nesting arriving none none [] hrun hopen
  refine ⟨past, e, rest, hrun, hopen, inner, e', future, hrest, hclose, hstays (.inl ?_)⟩
  rw [hvisits]
  decide

/-- The store, which is active once the visit to the desk is opened, is not when it closes, as the
visit to the till has retired it. Where the flow branched off at the mall, that alone stays active
when the desk is done. -/
theorem desk_loses_store :
    Codebase.ofDeclared arcade.types = arcade ∧
    (∃ e ∈ (visit arcade nesting arriving none none {} {}).2.journal,
      e.event = .opened ⟨"Store.Desk", "Shop.Taken"⟩ (some "Store") ∧ "Store" ∈ e.active) ∧
    (∃ e ∈ (visit arcade nesting arriving none none {} {}).2.journal,
      e.event = .closed ⟨"Store.Desk", "Shop.Taken"⟩ (some "Store") ∧ "Store" ∉ e.active) ∧
    (visit arcade nesting passedOn none (some "Mall") {} {}).2.active = ["Mall"] := by
  have hmall : (visit arcade nesting passedOn none (some "Mall") {} {}).2.active = ["Mall"] := by
    cbv
  have hopen : ((visit arcade nesting arriving none none {} {}).2.journal.reverse[5]?).map
      (fun e => (e.event, e.active)) =
        some (.opened ⟨"Store.Desk", "Shop.Taken"⟩ (some "Store"), ["Hall", "Store"]) := by cbv
  have hclose : ((visit arcade nesting arriving none none {} {}).2.journal.reverse[19]?).map
      (fun e => (e.event, e.active)) =
        some (.closed ⟨"Store.Desk", "Shop.Taken"⟩ (some "Store"), ["Hall"]) := by cbv
  obtain ⟨e, he, hevent⟩ := Option.map_eq_some_iff.1 hopen
  obtain ⟨e', he', hevent'⟩ := Option.map_eq_some_iff.1 hclose
  obtain ⟨hopened, hactive⟩ := Prod.mk.inj hevent
  obtain ⟨hclosed, hactive'⟩ := Prod.mk.inj hevent'
  refine ⟨(Codebase.ofDeclared_eq_inRounds _).trans rfl,
    ⟨e, List.mem_reverse.1 (List.mem_of_getElem? he), hopened, ?_⟩,
    ⟨e', List.mem_reverse.1 (List.mem_of_getElem? he'), hclosed, ?_⟩, hmall⟩
  · rw [hactive]
    decide
  · rw [hactive']
    decide

end Relay

end Ripple
