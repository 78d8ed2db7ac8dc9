import Ripple.Proofs.Call.Sites
import Ripple.Proofs.Codebase.Ancestry
import Ripple.Proofs.Text.SimpleName

/-!
# Where messages are constructed

The origins of a message are the types that some call constructs under its simple name, at
whatever depth that call is written; none is listed twice, and each comes where the first place
that constructs it has it (`origins_in_construction_order`). A construction is known by the end of
a full name, so that an origin need not be a copy of the message: `origins_end_with_simple_name`
says which of them are.
-/

namespace Ripple

open Statement

variable {c : Codebase}

namespace Codebase

/-! ## The first of a name -/

theorem find?_eq_some_iff_first {name : String} {r : c.Ref} :
    c.find? name = some r ↔
      c.fullName r = name ∧ ∀ earlier < r, c.fullName earlier ≠ name := by
  rw [find?, refs, List.find?_eq_some_iff_getElem]
  simp only [beq_iff_eq, List.length_finRange, List.getElem_finRange, Fin.cast_mk,
    Bool.not_eq_true', beq_eq_false_iff_ne]
  refine and_congr_right fun _ => ?_
  constructor
  · rintro ⟨i, hi, rfl, hfirst⟩ earlier hearlier
    exact hfirst earlier.val hearlier
  · intro hfirst
    exact ⟨r.val, r.isLt, rfl, fun j hj => hfirst ⟨j, hj.trans r.isLt⟩ hj⟩

/-! ## Distinct types of a list -/

section addDistinct

/-- Whether `a` is in a list and comes there before any `b`. -/
def ComesBefore (l : List c.Ref) (a b : c.Ref) : Prop :=
  ∃ front back, l = front ++ a :: back ∧ b ∉ a :: front

theorem ComesBefore.ne {l : List c.Ref} {a b : c.Ref} (h : ComesBefore l a b) : a ≠ b := by
  obtain ⟨front, back, -, hb⟩ := h
  rintro rfl
  exact hb List.mem_cons_self

theorem ComesBefore.append {l : List c.Ref} {a b : c.Ref} (h : ComesBefore l a b)
    (more : List c.Ref) : ComesBefore (l ++ more) a b := by
  obtain ⟨front, back, rfl, hb⟩ := h
  exact ⟨front, back ++ more, by simp, hb⟩

theorem comesBefore_concat {l : List c.Ref} {a b : c.Ref} (ha : a ∈ l) (hb : b ∉ l) :
    ComesBefore (l ++ [b]) a b := by
  obtain ⟨front, back, rfl⟩ := List.append_of_mem ha
  refine ⟨front, back ++ [b], by simp, fun hmem => hb ?_⟩
  rcases List.mem_cons.1 hmem with rfl | hmem
  · simp
  · simp [hmem]

/-- Where a type shares its name with no other of a list, it is added just if it is not there. -/
theorem addDistinct_eq {known : List c.Ref} {r : c.Ref}
    (hsame : ∀ k ∈ known, c.fullName k = c.fullName r → k = r) :
    c.addDistinct known r = if r ∈ known then known else known ++ [r] := by
  have hany : known.any (fun k => c.fullName k == c.fullName r) = true ↔ r ∈ known := by
    rw [List.any_eq_true]
    constructor
    · rintro ⟨k, hk, hname⟩
      exact hsame k hk (beq_iff_eq.1 hname) ▸ hk
    · intro hr
      exact ⟨r, hr, beq_self_eq_true _⟩
  simp only [addDistinct, hany]

/-- Of types each of which its name stands for, all are listed, and each where it first occurs. -/
theorem foldl_addDistinct_of_first {l : List c.Ref}
    (hfirst : ∀ r ∈ l, c.find? (c.fullName r) = some r) :
    (∀ r, r ∈ l.foldl c.addDistinct [] ↔ r ∈ l) ∧
      (l.foldl c.addDistinct []).Pairwise (ComesBefore l) := by
  induction l using List.reverseRecOn with
  | nil => simp
  | append_singleton l r ih =>
    obtain ⟨hmem, horder⟩ := ih fun r hr => hfirst r (List.mem_append_left _ hr)
    have hsame : ∀ k ∈ l.foldl c.addDistinct [], c.fullName k = c.fullName r → k = r := by
      intro k hk hname
      have hk := hfirst k (List.mem_append_left _ ((hmem k).1 hk))
      have hr := hfirst r (List.mem_append_right _ (List.mem_singleton_self r))
      rw [hname, hr] at hk
      exact (Option.some.inj hk).symm
    have hkept := horder.imp fun {a b} h => h.append [r]
    rw [List.foldl_append, List.foldl_cons, List.foldl_nil, addDistinct_eq hsame]
    split
    next hr =>
      refine ⟨fun k => ?_, hkept⟩
      simp only [hmem, List.mem_append, List.mem_singleton]
      exact ⟨.inl, fun h => h.elim id fun h => h ▸ (hmem r).1 hr⟩
    next hr =>
      refine ⟨fun k => by simp [hmem], List.pairwise_append.2 ⟨hkept, by simp, ?_⟩⟩
      intro a ha b hb
      obtain rfl := List.mem_singleton.1 hb
      exact comesBefore_concat ((hmem a).1 ha) fun hl => hr ((hmem b).2 hl)

end addDistinct

/-! ## Construction sites -/

/-- Whether the call at a site constructs a type under a simple name: it goes by that name and is
on that type, whose full name ends with it. -/
def BuildsAt (name : String) (o : c.Ref) (site : Site c) : Prop :=
  ∃ call, site.call? = some call ∧ call.name = name ∧ call.containingType = c.fullName o ∧
    name.toList <:+ (c.fullName o).toList

/-- The type that a written call constructs under a simple name. -/
def built? (name : String) (x : Call c) : Option c.Ref :=
  if constructs name x.invocation then c.find? x.invocation.containingType else none

theorem origins_eq (message : c.Ref) :
    c.origins message =
      (c.writtenCalls.filterMap (built? (c.decl message).name)).foldl c.addDistinct [] := by
  rw [origins, ← map_invocation_writtenCalls, List.filter_map, List.filterMap_map,
    List.filterMap_filter]
  rfl

theorem built?_eq_some_iff {name : String} {x : Call c} {site : Site c} {o : c.Ref}
    (hcall : site.call? = some x.invocation) :
    built? name x = some o ↔
      (∀ earlier < o, c.fullName earlier ≠ c.fullName o) ∧ BuildsAt name o site := by
  simp only [built?, Option.ite_none_right_eq_some, constructs, Bool.and_eq_true, beq_iff_eq,
    find?_eq_some_iff_first, Name.endsWith, List.isSuffixOf_iff_suffix, BuildsAt, hcall]
  constructor
  · rintro ⟨⟨hname, hends⟩, htype, hfirst⟩
    rw [← htype] at hends hfirst
    exact ⟨hfirst, _, rfl, hname, htype.symm, hends⟩
  · rintro ⟨hfirst, _, ⟨rfl⟩, hname, htype, hends⟩
    rw [htype]
    exact ⟨⟨hname, hends⟩, rfl, hfirst⟩

theorem mem_filterMap_built? {name : String} {o : c.Ref} :
    o ∈ c.writtenCalls.filterMap (built? name) ↔
      (∀ earlier < o, c.fullName earlier ≠ c.fullName o) ∧ ∃ site, BuildsAt name o site := by
  rw [List.mem_filterMap]
  constructor
  · rintro ⟨x, hx, ho⟩
    obtain ⟨site, hsite, hcall⟩ := mem_writtenCalls.1 hx
    obtain ⟨hfirst, hbuilds⟩ := (built?_eq_some_iff hcall).1 ho
    exact ⟨hfirst, site, hbuilds⟩
  · rintro ⟨hfirst, site, hbuilds⟩
    obtain ⟨call, hcall, -⟩ := id hbuilds
    exact ⟨⟨call, some site⟩, mem_writtenCalls.2 ⟨site, rfl, hcall⟩,
      (built?_eq_some_iff hcall).2 ⟨hfirst, hbuilds⟩⟩

/-- What is met first has a construction site before all those of the other. -/
theorem exists_site_of_comesBefore {name : String} {o o' : c.Ref}
    (h : ComesBefore (c.writtenCalls.filterMap (built? name)) o o')
    (hfirst : ∀ earlier < o', c.fullName earlier ≠ c.fullName o') :
    ∃ site, BuildsAt name o site ∧ ∀ site', BuildsAt name o' site' → site.place < site'.place := by
  have hne := h.ne
  obtain ⟨front, back, hsplit, hnew⟩ := h
  obtain ⟨before, after, hwritten, hfront, hafter⟩ := List.filterMap_eq_append_iff.1 hsplit
  obtain ⟨skipped, x, rest, rfl, hskipped, hx, -⟩ := List.filterMap_eq_cons_iff.1 hafter
  have hmem : x ∈ c.writtenCalls := by simp [hwritten]
  obtain ⟨site, hsite, hcall⟩ := mem_writtenCalls.1 hmem
  refine ⟨site, ((built?_eq_some_iff hcall).1 hx).2, fun site' hbuilds => ?_⟩
  -- the other's call is written behind `x`, since it is nowhere up to there
  obtain ⟨call', hcall', -⟩ := id hbuilds
  have hy : built? name ⟨call', some site'⟩ = some o' :=
    (built?_eq_some_iff hcall').2 ⟨hfirst, hbuilds⟩
  have hmem' : (⟨call', some site'⟩ : Call c) ∈ c.writtenCalls :=
    mem_writtenCalls.2 ⟨site', rfl, hcall'⟩
  have hsorted := c.pairwise_writtenCalls
  rw [hwritten] at hmem' hsorted
  have hbehind : (⟨call', some site'⟩ : Call c) ∈ rest := by
    rcases List.mem_append.1 hmem' with hmem' | hmem'
    · have : o' ∈ front := hfront ▸ List.mem_filterMap.2 ⟨_, hmem', hy⟩
      exact absurd (List.mem_cons_of_mem o this) hnew
    rcases List.mem_append.1 hmem' with hmem' | hmem'
    · rw [hskipped _ hmem'] at hy
      cases hy
    rcases List.mem_cons.1 hmem' with rfl | hmem'
    · rw [hx] at hy
      exact absurd (Option.some.inj hy) hne
    · exact hmem'
  have hlt := (List.pairwise_cons.1
    (List.pairwise_append.1 (List.pairwise_append.1 hsorted).2.1).2.1).1 _ hbehind
  simpa [Call.place, hsite] using hlt

/-! ## Origins -/

section origins

variable {message : c.Ref}

theorem find?_fullName_of_mem_filterMap_built? {name : String} (o : c.Ref)
    (ho : o ∈ c.writtenCalls.filterMap (built? name)) : c.find? (c.fullName o) = some o :=
  find?_eq_some_iff_first.2 ⟨rfl, (mem_filterMap_built?.1 ho).1⟩

theorem mem_origins_iff {o : c.Ref} : o ∈ c.origins message ↔
    (∀ earlier < o, c.fullName earlier ≠ c.fullName o) ∧
      ∃ site, BuildsAt (c.decl message).name o site := by
  rw [origins_eq, (foldl_addDistinct_of_first find?_fullName_of_mem_filterMap_built?).1,
    mem_filterMap_built?]

/-- Each origin has a construction site before all those of the origins behind it. -/
theorem pairwise_origins (message : c.Ref) :
    (c.origins message).Pairwise fun o o' =>
      ∃ site, BuildsAt (c.decl message).name o site ∧
        ∀ site', BuildsAt (c.decl message).name o' site' → site.place < site'.place := by
  have horder := (foldl_addDistinct_of_first (c := c)
    (l := c.writtenCalls.filterMap (built? (c.decl message).name))
      find?_fullName_of_mem_filterMap_built?).2
  rw [← origins_eq] at horder
  exact horder.imp_of_mem fun {o o'} _ ho' hbefore =>
    exists_site_of_comesBefore hbefore (mem_origins_iff.1 ho').1

theorem nodup_map_fullName_origins (message : c.Ref) :
    ((c.origins message).map c.fullName).Nodup := by
  rw [List.Nodup, List.pairwise_map]
  refine (pairwise_origins message).imp_of_mem fun {o o'} ho ho' hbefore hname => ?_
  obtain ⟨site, hsite, hbefore⟩ := hbefore
  have hfirst := find?_eq_some_iff_first.2 ⟨rfl, (mem_origins_iff.1 ho).1⟩
  rw [hname, find?_eq_some_iff_first.2 ⟨rfl, (mem_origins_iff.1 ho').1⟩] at hfirst
  obtain rfl := Option.some.inj hfirst
  exact List.lt_irrefl _ (hbefore site hsite)

end origins

end Codebase

/-- A type is an origin of a message just if it is the first of its full name and some call, at
whatever depth of whichever method, constructs it under the simple name of the message. Each full
name is listed once, and each type comes where the first call that constructs it has it, in the
order of types, of their methods and of the calls in these. -/
theorem origins_in_construction_order (c : Codebase) (message : c.Ref) :
    let name := (c.decl message).name
    (∀ o, o ∈ c.origins message ↔
      (∀ earlier < o, c.fullName earlier ≠ c.fullName o) ∧
        ∃ site, Codebase.BuildsAt name o site) ∧
    ((c.origins message).map c.fullName).Nodup ∧
    (c.origins message).Pairwise fun o o' =>
      ∃ site, Codebase.BuildsAt name o site ∧
        ∀ site', Codebase.BuildsAt name o' site' → site.place < site'.place :=
  ⟨fun _ => Codebase.mem_origins_iff, Codebase.nodup_map_fullName_origins message,
    Codebase.pairwise_origins message⟩

/-- The full name of an origin ends with the simple name of the message, and no full name is listed
twice. An origin has that simple name itself just if the ending is all of its full name or stands
behind a dot in front of generic arguments. One of another simple name is listed for calls of a
method, never for one of its constructor, which goes by its own simple name. -/
theorem origins_end_with_simple_name (c : Codebase) (message : c.Ref) :
    let name := (c.decl message).name
    ((c.origins message).map c.fullName).Nodup ∧
    ∀ o ∈ c.origins message,
      name.toList <:+ (c.fullName o).toList ∧
      ((c.decl o).name = name ↔ c.fullName o = name ∨
        ∃ scope, '<' ∉ scope ∧ (c.fullName o).toList = scope ++ '.' :: name.toList) ∧
      ((c.decl o).name ≠ name → ∀ site, Codebase.BuildsAt name o site →
        ∀ call ∈ site.call?, call.name ≠ Name.simple call.containingType) := by
  intro name
  refine ⟨Codebase.nodup_map_fullName_origins message, fun o ho => ⟨?_, ?_, ?_⟩⟩
  · obtain ⟨-, site, call, -, -, -, hends⟩ := Codebase.mem_origins_iff.1 ho
    exact hends
  · exact Name.simple_eq_iff (Name.isUnscoped_simple _)
  · rintro hother site ⟨call, hcall, hname, htype, -⟩ call' hcall' hconstructor
    rw [hcall, Option.mem_some_iff] at hcall'
    obtain rfl := hcall'
    rw [hname, htype] at hconstructor
    exact hother hconstructor.symm

namespace Relay

/-- Two copies of an order, a form by which one is placed, and a page that makes a copy of each and
has the form placed, the later copy first. -/
def bazaar : Codebase where
  types :=
    [(TypeDecl.empty .classType "Shop.Placed").withBase "Event",
      (TypeDecl.empty .classType "Web.Placed").withBase "Event",
      TypeDecl.empty .classType "Web.FormPlaced",
      (TypeDecl.empty .classType "Web.Page").withMethod
        ⟨"Order", [],
          [.call ⟨"Web.Placed", "Placed", []⟩, .call ⟨"Shop.Placed", "Placed", []⟩,
            .call ⟨"Web.FormPlaced", "Placed", []⟩]⟩]

/-- The form is listed although it is no copy of the order, and the copies in the order in which
they are made. -/
theorem bazaar_origins :
    Codebase.ofDeclared bazaar.types = bazaar ∧
    (bazaar.types.map TypeDecl.fullName).Nodup ∧
    ∃ order form : bazaar.Ref, bazaar.fullName order = "Shop.Placed" ∧
      form ∈ bazaar.origins order ∧ (bazaar.decl form).name ≠ (bazaar.decl order).name ∧
      ¬ (bazaar.origins order).Pairwise (· < ·) := by
  refine ⟨(Codebase.ofDeclared_eq_inRounds _).trans rfl, by decide, ⟨0, by decide⟩,
    ⟨2, by decide⟩, by decide, ?_, ?_, ?_⟩
  · decide
  · decide
  · decide

end Relay

end Ripple
