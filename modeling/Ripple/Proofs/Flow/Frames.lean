import Ripple.Proofs.Flow.Entries
import Ripple.Proofs.Flow.Run

/-!
# The frames of a run

The journal of a run consists of frames. A frame begins where the visit to a handler is opened and
ends where it is closed, and in between is all that the visit leads to, frames of the visits made
there included. Each frame has one arrow, the one to the handler, and shows it ahead of those of the
frames inside.

`Framed` is that shape, and `framed_visit` says that every run has it.
-/

namespace Ripple

variable {c : Codebase}

/-! ## Entries and arrows of a frame -/

/-- The visits within which an entry was made. That a visit is held back is noted on the trail
outside of it. -/
def Entry.visits (e : Entry c) : List Visit :=
  match e.event with
  | .reentered v => v :: e.trail.visits
  | _ => e.trail.visits

theorem Entry.visits_of_not_marksVisit {e : Entry c} (h : e.event.marksVisit = false) :
    e.visits = e.trail.visits := by
  unfold visits
  split
  next heq => rw [heq] at h; cases h
  next => rfl

/-- Whether a visit made within others begins and ends with two entries. -/
structure Entry.Bounds (p : Profile) (v : Visit) (outer : List Visit) (e e' : Entry c) : Prop where
  opens : e.event = .opened v (p.serviceFor v.handler)
  closes : e'.event = .closed v (p.serviceFor v.handler)
  visits : e.trail.visits = outer
  trail : e'.trail = e.trail

namespace Entry.Bounds

variable {p : Profile} {v : Visit} {outer : List Visit} {e e' : Entry c}

theorem visits_open (h : e.Bounds p v outer e') : e.visits = outer := by
  simp only [Entry.visits, h.opens, h.visits]

theorem visits_close (h : e.Bounds p v outer e') : e'.visits = outer := by
  simp only [Entry.visits, h.closes, h.trail, h.visits]

end Entry.Bounds

/-- Whether an arrow shows a visit made within others. It goes to the participant for the handler's
service and has the name of the message. Within another visit it leaves from the service of that
one's handler, or from the external actor if there is none. -/
structure Arrow.Shows (p : Profile) (a : Arrow) (v : Visit) (outer : List Visit) : Prop where
  target : a.target = p.participant (p.serviceFor v.handler)
  label : a.label = Name.simple v.message
  source : ∀ u ∈ outer.head?, a.source = (p.serviceFor u.handler).getD p.externalActor

theorem shows_arrowTo {p : Profile} (sender : Option String) (message handler : c.Ref)
    (outer : List Visit) :
    (c.arrowTo p (senderAmid p sender outer) message handler).Shows p (c.visitOf handler message)
      outer where
  target := rfl
  label := rfl
  source u hu := by
    cases outer with
    | nil => cases hu
    | cons w outer =>
      obtain rfl := Option.some.inj hu
      rfl

/-- An element of two lists in a row is in the one or in the other. -/
theorem append_eq_append_cons {α : Type} {xs ys before after : List α} {x : α}
    (h : xs ++ ys = before ++ x :: after) :
    (∃ back, xs = before ++ x :: back ∧ after = back ++ ys) ∨
      ∃ front, before = xs ++ front ∧ ys = front ++ x :: after := by
  obtain ⟨front, hbefore, hys⟩ | ⟨back, hxs, hafter⟩ := List.append_eq_append_iff.1 h
  · exact .inr ⟨front, hbefore, hys⟩
  · obtain ⟨rfl, hys⟩ | ⟨back', rfl, hafter⟩ := List.cons_eq_append_iff.1 hafter
    · exact .inr ⟨[], by simpa using hxs.symm, hys⟩
    · exact .inl ⟨back', hxs, (List.cons.inj hafter).2⟩

/-- Whether entries, the earliest first, are those of successive frames within some visits, and what
steps are taken between frames. Along with them goes what is shown: the arrow of each frame, and the
visits going on once it is opened. -/
inductive Framed (p : Profile) :
    List Visit → List (Entry c) → List (List Visit × Arrow) → Prop
  | nil {outer} : Framed p outer [] []
  | step {outer e entries shown} : e.visits = outer →
      (∀ v service, e.event ≠ .opened v service ∧ e.event ≠ .closed v service) →
      Framed p outer entries shown → Framed p outer (e :: entries) shown
  | frame {outer v e e' a inner rest shown shown'} : e.Bounds p v outer e' → a.Shows p v outer →
      Framed p (v :: outer) inner shown → Framed p outer rest shown' →
      Framed p outer (e :: inner ++ e' :: rest) ((v :: outer, a) :: shown ++ shown')

namespace Framed

variable {p : Profile} {outer : List Visit} {entries entries' : List (Entry c)}
variable {shown shown' : List (List Visit × Arrow)}

theorem append (h : Framed p outer entries shown) (h' : Framed p outer entries' shown') :
    Framed p outer (entries ++ entries') (shown ++ shown') := by
  induction h with
  | nil => exact h'
  | step hvisits hevent _ ih => exact .step hvisits hevent (ih h')
  | frame hbounds hshows hinner _ _ ih =>
    simpa only [List.cons_append, List.append_assoc] using
      Framed.frame hbounds hshows hinner (ih h')

/-- All entries are made within the visits that the frames are in. -/
theorem suffix_visits (h : Framed p outer entries shown) : ∀ e ∈ entries, outer <:+ e.visits := by
  induction h with
  | nil => exact fun _ he => nomatch he
  | step hvisits _ _ ih => exact List.forall_mem_cons.2 ⟨hvisits ▸ List.suffix_rfl, ih⟩
  | @frame outer v e e' a inner rest shown shown' hbounds _ _ _ ihInner ih =>
    have hbody : ∀ x ∈ inner, outer <:+ x.visits := fun x hx =>
      (List.suffix_cons v outer).trans (ihInner x hx)
    refine List.forall_mem_append.2 ⟨List.forall_mem_cons.2 ⟨?_, hbody⟩,
      List.forall_mem_cons.2 ⟨?_, ih⟩⟩
    · rw [hbounds.visits_open]
    · rw [hbounds.visits_close]

/-- Each entry that opens a visit is followed by what the visit leads to and the entry that closes
it. -/
theorem exists_close (h : Framed p outer entries shown) {before after : List (Entry c)}
    {e : Entry c} {v : Visit} {service : Option String} (hopen : e.event = .opened v service)
    (hentries : entries = before ++ e :: after) :
    ∃ inner e' rest shown', after = inner ++ e' :: rest ∧ e.Bounds p v e.trail.visits e' ∧
      Framed p (v :: e.trail.visits) inner shown' := by
  induction h generalizing before after with
  | nil => simp at hentries
  | step _ hevent _ ih =>
    obtain ⟨rfl, h⟩ | ⟨front, rfl, h⟩ := List.cons_eq_append_iff.1 hentries
    · obtain ⟨rfl, -⟩ := List.cons.inj h
      exact absurd hopen (hevent v service).1
    · exact ih h
  | @frame outer w first last a inner rest _ _ hbounds _ hinner _ ihInner ihRest =>
    obtain ⟨rfl, h⟩ | ⟨front, rfl, h⟩ := List.cons_eq_append_iff.1 hentries
    · obtain ⟨rfl, rfl⟩ := List.cons.inj h
      obtain ⟨rfl, -⟩ := Event.opened.inj (hbounds.opens.symm.trans hopen)
      obtain rfl := hbounds.visits
      exact ⟨inner, last, rest, _, rfl, hbounds, hinner⟩
    obtain ⟨back, hsplit, rfl⟩ | ⟨back, rfl, hsplit⟩ := append_eq_append_cons h
    · obtain ⟨inner', last', rest', shown', rfl, hbounds', hframed⟩ := ihInner hsplit
      exact ⟨inner', last', rest' ++ last :: rest, shown', by simp, hbounds', hframed⟩
    · obtain ⟨rfl, hlast⟩ | ⟨back', rfl, hrest⟩ := List.cons_eq_append_iff.1 hsplit
      · obtain ⟨rfl, -⟩ := List.cons.inj hlast
        exact absurd (hopen.symm.trans hbounds.closes) (by simp)
      · exact ihRest hrest

/-! ### Arrows -/

/-- All frames are those of visits made within others. -/
theorem exists_shows (h : Framed p outer entries shown) :
    ∀ x ∈ shown, ∃ v visits, x.1 = v :: visits ∧ outer <:+ visits ∧ x.2.Shows p v visits := by
  induction h with
  | nil => exact fun _ hx => nomatch hx
  | step _ _ _ ih => exact ih
  | @frame outer v _ _ _ _ _ _ _ _ hshows _ _ ihInner ih =>
    refine List.forall_mem_append.2 ⟨List.forall_mem_cons.2
      ⟨⟨v, outer, rfl, List.suffix_rfl, hshows⟩, fun x hx => ?_⟩, ih⟩
    obtain ⟨w, visits, hvisits, hsuffix, hshows'⟩ := ihInner x hx
    exact ⟨w, visits, hvisits, (List.suffix_cons v outer).trans hsuffix, hshows'⟩

/-- A frame in another comes after the arrow of that one, with frames in that one between. -/
theorem exists_arrival (h : Framed p outer entries shown) {before after : List (List Visit × Arrow)}
    {v : Visit} {visits : List Visit} {a : Arrow}
    (hshown : shown = before ++ (v :: visits, a) :: after) :
    visits = outer ∨ ∃ past arrival nested, before = past ++ (visits, arrival) :: nested ∧
      ∀ x ∈ nested, ∃ u visits', x.1 = u :: visits' ∧ visits <:+ visits' := by
  induction h generalizing before after with
  | nil => simp at hshown
  | step _ _ _ ih => exact ih hshown
  | @frame outer w _ _ arrow _ _ inner rest _ _ hinner _ ihInner ihRest =>
    obtain ⟨rfl, h⟩ | ⟨front, rfl, h⟩ := List.cons_eq_append_iff.1 hshown
    · obtain ⟨h, -⟩ := List.cons.inj h
      exact .inl (List.cons.inj (Prod.mk.inj h).1).2
    obtain ⟨back, hsplit, rfl⟩ | ⟨back, rfl, hsplit⟩ := append_eq_append_cons h
    · obtain rfl | ⟨past, arrival, nested, rfl, hnested⟩ := ihInner hsplit
      · -- all in front of it within the frame is nested there
        refine .inr ⟨[], arrow, front, rfl, fun x hx => ?_⟩
        obtain ⟨u, visits', hvisits, hsuffix, -⟩ :=
          hinner.exists_shows x (hsplit ▸ List.mem_append_left _ hx)
        exact ⟨u, visits', hvisits, hsuffix⟩
      · exact .inr ⟨(w :: outer, arrow) :: past, arrival, nested, rfl, hnested⟩
    · obtain rfl | ⟨past, arrival, nested, rfl, hnested⟩ := ihRest hsplit
      · exact .inl rfl
      · exact .inr ⟨(w :: outer, arrow) :: inner ++ past, arrival, nested, by simp, hnested⟩

/-- What leaves from outside may leave from elsewhere. -/
theorem withFirstSource (h : Framed p [] entries shown) (source : String) :
    Framed p [] entries (shown.modifyHead fun x => (x.1, { x.2 with source })) := by
  generalize houter : ([] : List Visit) = outer at h
  induction h with
  | nil => exact .nil
  | step hvisits hevent _ ih => exact .step hvisits hevent (ih houter)
  | frame hbounds hshows hinner hrest _ _ =>
    subst houter
    exact .frame hbounds ⟨hshows.target, hshows.label, fun _ hu => nomatch hu⟩ hinner hrest

end Framed

/-! ## Courses -/

/-- The visits going on once an entry has opened another, that one in front. -/
def Entry.course? (e : Entry c) : Option (List Visit) :=
  match e.event with
  | .opened v _ => some (v :: e.trail.visits)
  | _ => none

/-- The visits going on each time one was opened, the earliest first. -/
def Ledger.courses (l : Ledger c) : List (List Visit) := l.journal.reverse.filterMap Entry.course?

theorem Framed.filterMap_course? {p : Profile} {outer : List Visit} {entries : List (Entry c)}
    {shown : List (List Visit × Arrow)} (h : Framed p outer entries shown) :
    entries.filterMap Entry.course? = shown.map Prod.fst := by
  induction h with
  | nil => rfl
  | @step _ e _ _ _ hevent _ ih =>
    have hnone : e.course? = none := by
      unfold Entry.course?
      split
      next v service heq => exact absurd heq (hevent v service).1
      next => rfl
    rw [List.filterMap_cons_none hnone, ih]
  | @frame _ v e e' _ _ _ _ _ hbounds _ _ _ ihInner ih =>
    have hopen : e.course? = some (v :: e.trail.visits) := by
      simp only [Entry.course?, hbounds.opens]
    have hclose : e'.course? = none := by simp only [Entry.course?, hbounds.closes]
    rw [List.cons_append, List.filterMap_cons_some hopen, List.filterMap_append,
      List.filterMap_cons_none hclose, ihInner, ih, hbounds.visits, List.cons_append, List.map_cons,
      List.map_append]

/-! ## Runs -/

/-- Whether what is on record between two ledgers are frames within some visits, and those show
just these arrows. -/
def MadeOfFrames (p : Profile) (outer : List Visit) (l : Ledger c) (arrows : List Arrow)
    (l' : Ledger c) : Prop :=
  ∃ entries shown, l'.journal = entries.reverse ++ l.journal ∧ arrows = shown.map Prod.snd ∧
    Framed p outer entries shown

section runs

variable {p : Profile} {sender pinned : Option String} {trail : Trail c} {l l' : Ledger c}
  {arrows : List Arrow} {message handler : c.Ref}

/-- What is made of frames within a visit is one frame with the visit. -/
theorem MadeOfFrames.closed
    (h : MadeOfFrames p (c.visitOf handler message :: trail.visits)
      (l.opened p handler message trail) arrows l') :
    MadeOfFrames p trail.visits l
      (c.arrowTo p (senderAmid p sender trail.visits) message handler :: arrows)
      (l'.closed p handler message pinned trail) := by
  obtain ⟨inner, shown, hjournal, rfl, hinner⟩ := h
  let v := c.visitOf handler message
  let service := p.serviceOf (c.decl handler)
  let first : Entry c := ⟨.opened v service, trail, (l.opened p handler message trail).participants,
    (l.opened p handler message trail).active⟩
  let last : Entry c := ⟨.closed v service, trail, l'.participants, l'.active⟩
  have hbounds : first.Bounds p v trail.visits last := ⟨rfl, rfl, rfl, rfl⟩
  refine ⟨first :: inner ++ [last], _, ?_, ?_,
    .frame hbounds (shows_arrowTo sender message handler _) hinner .nil⟩
  · rw [Ledger.journal_closed_eq, hjournal, Ledger.journal_opened_eq]
    simp [first, last, v, service]
  · simp

/-- Every step of a run adds frames and what comes between them. -/
theorem framedInvariant : RunInvariant c p sender pinned fun trail l arrows l' =>
    MadeOfFrames p trail.visits l arrows l' where
  composes trail :=
    { nil := fun l => ⟨[], [], rfl, rfl, .nil⟩
      append := by
        rintro l l' l'' _ _ ⟨entries, shown, hjournal, rfl, hframed⟩
          ⟨entries', shown', hjournal', rfl, hframed'⟩
        refine ⟨entries ++ entries', shown ++ shown', ?_, by simp, hframed.append hframed'⟩
        rw [hjournal', hjournal, List.reverse_append, List.append_assoc] }
  record {trail l event} hevent := by
    refine ⟨[⟨event, trail, l.participants, l.active⟩], [], rfl, rfl, .step ?_ ?_ .nil⟩
    · exact Entry.visits_of_not_marksVisit hevent
    · rintro v s
      constructor <;> rintro rfl <;> cases hevent
  leaveInlined h := h
  unhandled trail l message handler := MadeOfFrames.closed ⟨[], [], rfl, rfl, .nil⟩
  heldBack trail l message handler :=
    MadeOfFrames.closed ⟨[⟨.reentered (c.visitOf handler message), trail, _, _⟩], [], rfl, rfl,
      .step rfl (fun _ _ => ⟨nofun, nofun⟩) .nil⟩
  handle h := h.closed

/-- Every run that begins with nothing on record is made of frames. -/
theorem framed_visit (message : c.Ref) (sender pinned : Option String)
    (participants active : List String) :
    let run := visit c p message sender pinned {} { participants, active }
    ∃ shown, Fragment.arrowsOf run.1 = shown.map Prod.snd ∧
      Framed p [] run.2.journal.reverse shown := by
  obtain ⟨entries, shown, hjournal, harrows, hframed⟩ :=
    (@framedInvariant c p sender pinned).visit message { participants, active }
  refine ⟨shown, harrows, ?_⟩
  rw [hjournal, List.append_nil, List.reverse_reverse]
  exact hframed

end runs

end Ripple
