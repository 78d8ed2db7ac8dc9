import Ripple.Json.Decode
import Ripple.Proofs.Json.Layout

/-!
# Reading values back

A value that nests no deeper than there is room is read back as it was written; one that nests
deeper is malformed. Every way of putting decoders together keeps this property, `Reads`, so it
need not be proved for a whole format at once.
-/

namespace Ripple.Json

/-! ## Depth -/

mutual

/-- How many levels of arrays and objects nest in a value. -/
def depth : Json → Nat
  | .null | .bool _ | .number _ | .string _ => 0
  | .array items => depthOfItems items + 1
  | .object members => depthOfMembers members + 1

/-- How many levels nest in the items of an array. -/
def depthOfItems : List Json → Nat
  | [] => 0
  | item :: rest => max item.depth (depthOfItems rest)

/-- How many levels nest in the members of an object. -/
def depthOfMembers : List (String × Json) → Nat
  | [] => 0
  | (_, value) :: rest => max value.depth (depthOfMembers rest)

end

/-- What comes of reading `x` where so many levels nest: there may not be room for them. -/
def fit {α : Type} (room depth : Nat) (x : α) : Except ReadError α :=
  if depth ≤ room then .ok x else .error (.fault .malformed)

section fit

variable {α β : Type} {room a b : Nat} {x : α} {y : β}

theorem fit_zero_succ : fit 0 (a + 1) x = .error (.fault .malformed) :=
  if_neg (Nat.not_succ_le_zero a)

theorem fit_succ_succ : fit (room + 1) (a + 1) x = fit room a x := by
  simp only [fit, Nat.succ_le_succ_iff]

theorem ok_eq_fit : (.ok x : Except ReadError α) = fit room 0 x := (if_pos (Nat.zero_le room)).symm

theorem map_fit (f : α → β) : (fit room a x).map f = fit room a (f x) := by
  unfold fit
  split <;> rfl

/-- What is read in two parts needs room for both. -/
theorem fit_bind {f : α → Except ReadError β} (h : f x = fit room b y) :
    fit room a x >>= f = fit room (max a b) y := by
  unfold fit at h ⊢
  by_cases ha : a ≤ room
  · rw [if_pos ha]
    show f x = _
    simp only [h, Nat.max_le, ha, true_and]
  · rw [if_neg ha, if_neg fun hmax => ha (Nat.max_le.1 hmax).1]
    rfl

theorem fit_andThen {e : Except ReadError β} (h : e = fit room b y) :
    (fit room a x >>= fun _ => e) = fit room (max a b) y :=
  fit_bind h

end fit

/-! ## Values read whole -/

variable {j : Json}

theorem noFault_or (first second : Option Fault) :
    noFault (first.or second) = noFault first >>= fun _ => noFault second := by
  cases first <;> rfl

theorem noFault_readItems {items : List Json} {room : Nat}
    (h : ∀ item ∈ items, noFault (item.toOutline.readFault? room) = fit room item.depth ()) :
    noFault (readItems room (outlinesOf items)) = fit room (depthOfItems items) () := by
  induction items with
  | nil => exact ok_eq_fit
  | cons item rest ih =>
    obtain ⟨hitem, hrest⟩ := List.forall_mem_cons.1 h
    rw [outlinesOf, readItems, noFault_or, hitem]
    exact fit_bind (ih hrest)

theorem noFault_readMembers {members : List (String × Json)} {room : Nat}
    (h : ∀ m ∈ members, noFault (m.2.toOutline.readFault? room) = fit room m.2.depth ()) :
    noFault (readMembers room (outlinesOfMembers members)) =
      fit room (depthOfMembers members) () := by
  induction members with
  | nil => exact ok_eq_fit
  | cons m rest ih =>
    obtain ⟨hvalue, hrest⟩ := List.forall_mem_cons.1 h
    rw [outlinesOfMembers, readMembers, Option.none_or, noFault_or, hvalue]
    exact fit_bind (ih hrest)

/-- Reading a value whole finds a fault just where it nests too deep. -/
theorem noFault_readFault? (h : j.Numberless) (room : Nat) :
    noFault (j.toOutline.readFault? room) = fit room j.depth () := by
  induction h generalizing room with
  | null | bool value | string value => exact ok_eq_fit
  | @array items _ ih =>
    cases room with
    | zero => exact fit_zero_succ.symm
    | succ room =>
      rw [toOutline, Outline.readFault?, Stop.fault?, Option.or_none, depth, fit_succ_succ]
      exact noFault_readItems fun item hitem => ih item hitem room
  | @object members _ ih =>
    cases room with
    | zero => exact fit_zero_succ.symm
    | succ room =>
      rw [toOutline, Outline.readFault?, Stop.fault?, Option.or_none, depth, fit_succ_succ]
      exact noFault_readMembers fun m hm => ih m hm room

/-! ## Decoders that read values back -/

/-- Whether a decoder reads `x` back from `j` wherever there is room for no more than `limit`
levels. -/
structure Reads {α : Type} (d : Decoder α) (limit : Nat) (j : Json) (x : α) : Prop where
  numberless : j.Numberless
  decode : ∀ p : Place, p.room ≤ limit → d p j.toOutline = fit p.room j.depth x

namespace Reads

variable {α β : Type} {d : Decoder α} {limit smaller : Nat} {x : α}

theorem mono (h : Reads d limit j x) (hle : smaller ≤ limit) : Reads d smaller j x :=
  ⟨h.numberless, fun p hp => h.decode p (Nat.le_trans hp hle)⟩

theorem map (h : Reads d limit j x) (f : α → β) :
    Reads (fun p o => (d p o).map f) limit j (f x) :=
  ⟨h.numberless, fun p hp => by rw [h.decode p hp, map_fit]⟩

theorem string (limit : Nat) (s : String) : Reads .string limit (.string s) s :=
  ⟨.string s, fun _ _ => ok_eq_fit⟩

theorem name {names : List (String × α)} {n : String} (h : Decoder.lookup names n = .ok x)
    (limit : Nat) : Reads (.name names) limit (.string n) x :=
  ⟨.string n, fun _ _ => h.trans ok_eq_fit⟩

theorem absent (d : Decoder α) (limit : Nat) : Reads d.optional limit .null none :=
  ⟨.null, fun _ _ => ok_eq_fit⟩

/-- What is there is read back unless it is written like what is absent. -/
theorem present (h : Reads d limit j x) (hnull : j ≠ .null) :
    Reads d.optional limit j (some x) := by
  refine ⟨h.numberless, fun p hp => ?_⟩
  have hoptional : d.optional p j.toOutline = (d p j.toOutline).map some := by
    cases j with
    | null => exact (hnull rfl).elim
    | _ => rfl
  rw [hoptional, h.decode p hp, map_fit]

/-- A value that nests is read back if a decoder that enters it leaves one level less for what is
inside. -/
theorem of_enter {n : Nat} (hplain : j.Numberless) (hdepth : j.depth = n + 1)
    (hzero : ∀ buffered, d ⟨0, buffered⟩ j.toOutline = .error (.fault .malformed))
    (hsucc : ∀ room buffered, room < limit → d ⟨room + 1, buffered⟩ j.toOutline = fit room n x) :
    Reads d limit j x := by
  refine ⟨hplain, fun p hp => ?_⟩
  obtain ⟨room, buffered⟩ := p
  rw [hdepth]
  cases room with
  | zero => rw [hzero, fit_zero_succ]
  | succ room => rw [hsucc room buffered hp, fit_succ_succ]

/-! ### Lists -/

theorem items_outlinesOf {toJson : α → Json} {xs : List α} {p : Place}
    (h : ∀ x ∈ xs, d p (toJson x).toOutline = fit p.room (toJson x).depth x) :
    Decoder.items d p (outlinesOf (xs.map toJson)) =
      fit p.room (depthOfItems (xs.map toJson)) xs := by
  induction xs with
  | nil => exact ok_eq_fit
  | cons x rest ih =>
    obtain ⟨hx, hrest⟩ := List.forall_mem_cons.1 h
    rw [List.map_cons, outlinesOf, Decoder.items, hx]
    refine fit_bind ?_
    rw [ih hrest]
    exact map_fit _

/-- A list nests one level deeper than its items, and is entered for them. -/
theorem list_succ {toJson : α → Json} {xs : List α}
    (h : ∀ x ∈ xs, Reads d limit (toJson x) x) :
    Reads d.list (limit + 1) (.array (xs.map toJson)) xs := by
  have hplain : (Json.array (xs.map toJson)).Numberless := by
    refine .array fun item hitem => ?_
    obtain ⟨x, hx, rfl⟩ := List.mem_map.1 hitem
    exact (h x hx).numberless
  refine of_enter hplain rfl (fun _ => rfl) fun room buffered hroom => ?_
  have hitems : Decoder.items d ⟨room, buffered⟩ (outlinesOf (xs.map toJson)) =
      fit room (depthOfItems (xs.map toJson)) xs :=
    items_outlinesOf fun x hx => (h x hx).decode _ (Nat.le_of_lt_succ hroom)
  rw [← hitems]
  exact bind_pure (Decoder.items d ⟨room, buffered⟩ (outlinesOf (xs.map toJson)))

theorem list {toJson : α → Json} {xs : List α} (h : ∀ x ∈ xs, Reads d limit (toJson x) x) :
    Reads d.list limit (.array (xs.map toJson)) xs :=
  (list_succ h).mono (Nat.le_succ limit)

theorem strings (limit : Nat) (xs : List String) :
    Reads (.list .string) limit (.strings xs) xs :=
  list fun s _ => string limit s

end Reads

/-! ### Records -/

/-- Reading some members one after another, each into its own field, takes a draft to another. -/
inductive Fills {σ : Type} (fields : List (Decoder.Field σ)) (limit : Nat) :
    List (String × Json) → σ → σ → Prop
  | nil (s : σ) : Fills fields limit [] s s
  | cons {α : Type} {key : String} {value : Json} {x : α} {rest : List (String × Json)} {s t : σ}
      {required : Bool} {d : Decoder α} {get : σ → Option α} {set : α → σ → σ} :
      fields.find? (·.name == key) = some (.of key required d get set) → get s = none →
      Reads d limit value x → Fills fields limit rest (set x s) t →
      Fills fields limit ((key, value) :: rest) s t

variable {σ α : Type} {fields : List (Decoder.Field σ)} {limit : Nat}
variable {members : List (String × Json)} {s t : σ}

theorem Fills.numberless (h : Fills fields limit members s t) : ∀ m ∈ members, m.2.Numberless := by
  induction h with
  | nil s => exact fun _ hm => nomatch hm
  | cons _ _ hvalue _ ih => exact List.forall_mem_cons.2 ⟨hvalue.numberless, ih⟩

theorem Fills.members_eq (h : Fills fields limit members s t) {p : Place} (hp : p.room ≤ limit) :
    Decoder.members fields p (outlinesOfMembers members) s =
      fit p.room (depthOfMembers members) t := by
  induction h with
  | nil s => exact ok_eq_fit
  | @cons α key value x rest s t required d get set hfind hunset hvalue _ ih =>
    have hread : Decoder.members fields p (outlinesOfMembers ((key, value) :: rest)) s =
        (d p value.toOutline).map (set · s) >>= fun s =>
          Decoder.members fields p (outlinesOfMembers rest) s := by
      have hkey : Text.read ⟨key, none⟩ = .ok key := rfl
      simp only [outlinesOfMembers, Decoder.members, hkey, bind, Except.bind, hfind,
        Decoder.Field.of, hunset, Option.isSome_none, Bool.false_eq_true, if_false]
    rw [hread, hvalue.decode p hp, map_fit]
    exact fit_bind ih

/-- A record is read back if its members fill the draft that it is made of. -/
theorem Reads.record {r : Decoder.Record σ α} {x : α} (h : Fills r.fields limit members r.start s)
    (hfinish : r.finish s = .ok x) : Reads (.record r) limit (.object members) x := by
  refine .of_enter (.object h.numberless) rfl (fun _ => rfl) fun room buffered hroom => ?_
  have hmembers := h.members_eq (p := ⟨room, buffered⟩) (Nat.le_of_lt hroom)
  have hread : Decoder.record r ⟨room + 1, buffered⟩ (toOutline (.object members)) =
      Decoder.members r.fields ⟨room, buffered⟩ (outlinesOfMembers members) r.start >>=
        r.finish := rfl
  rw [hread, hmembers]
  exact (fit_bind (hfinish.trans ok_eq_fit)).trans (by rw [Nat.max_zero])

/-! ### Tagged values -/

theorem splitTag_of_forall_ne {tagName : String} (variants : List (String × α)) {p : Place}
    (hplain : ∀ m ∈ members, m.2.Numberless) (hkeys : ∀ m ∈ members, m.1 ≠ tagName)
    (found : Option α) :
    Decoder.splitTag tagName variants p (outlinesOfMembers members) found =
      fit p.room (depthOfMembers members) (found, outlinesOfMembers members) := by
  induction members with
  | nil => exact ok_eq_fit
  | cons m rest ih =>
    obtain ⟨key, value⟩ := m
    obtain ⟨hvalue, hrest⟩ := List.forall_mem_cons.1 hplain
    obtain ⟨hkey, hkeys⟩ := List.forall_mem_cons.1 hkeys
    have hsplit : Decoder.splitTag tagName variants p (outlinesOfMembers ((key, value) :: rest))
        found = noFault (value.toOutline.readFault? p.room) >>= fun _ =>
          (Decoder.splitTag tagName variants p (outlinesOfMembers rest) found).map
            fun split => (split.1, (⟨key, none⟩, value.toOutline) :: split.2) := by
      have hread : Text.read ⟨key, none⟩ = .ok key := rfl
      have hne : (key == tagName) = false := beq_eq_false_iff_ne.2 hkey
      simp only [outlinesOfMembers, Decoder.splitTag, hread, bind, Except.bind, hne,
        Bool.false_eq_true, if_false]
      rfl
    rw [hsplit, noFault_readFault? hvalue, ih hrest hkeys, map_fit]
    exact fit_bind rfl

theorem splitTag_of_tag_first {tagName tag : String} {variants : List (String × α)} {d : α}
    {p : Place} (hfind : Decoder.lookup variants tag = .ok d)
    (hplain : ∀ m ∈ members, m.2.Numberless) (hkeys : ∀ m ∈ members, m.1 ≠ tagName) :
    Decoder.splitTag tagName variants p
        (outlinesOfMembers ((tagName, .string tag) :: members)) none =
      fit p.room (depthOfMembers members) (some d, outlinesOfMembers members) := by
  have hread : Text.read ⟨tagName, none⟩ = .ok tagName := rfl
  have htag : Decoder.tag variants p (.string ⟨tag, none⟩) = .ok d := hfind
  rw [← splitTag_of_forall_ne variants hplain hkeys (some d)]
  simp only [outlinesOfMembers, toOutline, Decoder.splitTag, hread, bind, Except.bind, htag,
    beq_self_eq_true, if_true, Option.isSome_none, Bool.false_eq_true, if_false]

/-- A tagged value is read back if what is left without the tag is, and has no such member. -/
theorem Reads.tagged {wanted tagName tag : String} {variants : List (String × Decoder α)}
    {d : Decoder α} {x : α} (hfind : Decoder.lookup variants tag = .ok d)
    (hkeys : ∀ m ∈ members, m.1 ≠ tagName) (h : Reads d limit (.object members) x) :
    Reads (.tagged wanted tagName variants) limit (.object ((tagName, .string tag) :: members))
      x := by
  have hnumberless : ∀ m ∈ members, m.2.Numberless := by
    cases h.numberless with
    | object hmembers => exact hmembers
  have hmembers : ∀ m ∈ (tagName, Json.string tag) :: members, m.2.Numberless :=
    List.forall_mem_cons.2 ⟨.string tag, hnumberless⟩
  refine .of_enter (n := depthOfMembers members) (.object hmembers) ?_ (fun _ => rfl)
    fun room buffered hroom => ?_
  · simp only [depth, depthOfMembers, Nat.zero_max]
  have hsplit : Decoder.splitTag tagName variants ⟨room, buffered⟩
      (outlinesOfMembers ((tagName, .string tag) :: members)) none =
        fit room (depthOfMembers members) (some d, outlinesOfMembers members) :=
    splitTag_of_tag_first hfind hnumberless hkeys
  have hread : Decoder.tagged wanted tagName variants ⟨room + 1, buffered⟩
      (toOutline (.object ((tagName, .string tag) :: members))) =
      fit room (depthOfMembers members) (some d, outlinesOfMembers members) >>= fun _ =>
        d ⟨room + 1, true⟩ (toOutline (.object members)) := by
    simp only [toOutline, Decoder.tagged, Place.enter, bind, Except.bind, hsplit, fit]
    by_cases hdepth : depthOfMembers members ≤ room
    · simp only [if_pos hdepth]
      rfl
    · simp only [if_neg hdepth]
  have hdecode := h.decode ⟨room + 1, true⟩ hroom
  rw [depth, fit_succ_succ] at hdecode
  refine hread.trans ((fit_andThen hdecode).trans ?_)
  rw [Nat.max_self]

/-! ### Values within a number of levels -/

/-- Where a decoder for no levels reads nothing, a value that nests needs to be read back only by
those for some. -/
theorem Reads.of_succ {d : Nat → Decoder α} {x : α}
    (hzero : d 0 = fun _ _ => .error (.fault .malformed)) (hdepth : 0 < j.depth)
    (h : ∀ limit, Reads (d (limit + 1)) (limit + 1) j x) (limit : Nat) :
    Reads (d limit) limit j x := by
  cases limit with
  | succ limit => exact h limit
  | zero =>
    refine ⟨(h 0).numberless, fun p hp => ?_⟩
    obtain ⟨n, hn⟩ := Nat.exists_eq_succ_of_ne_zero (Nat.pos_iff_ne_zero.1 hdepth)
    rw [hzero, hn, Nat.le_zero.1 hp, fit_zero_succ]

/-! ## Whole texts -/

theorem Reads.read_eq {d : Decoder α} {x : α} {text : String} (h : Reads d nestingLimit j x)
    (htext : Outline.ofText text = (j.toOutline, some [])) :
    read d text = fit nestingLimit j.depth x := by
  have hread : read d text = d ⟨nestingLimit, false⟩ j.toOutline >>= fun x => .ok x := by
    rw [read, htext]
    rfl
  rw [hread, h.decode ⟨nestingLimit, false⟩ (Nat.le_refl _)]
  exact bind_pure _

/-- What is read back from a value is read back from its compact text. -/
theorem Reads.read_compact {d : Decoder α} {x : α} (h : Reads d nestingLimit j x) :
    read d j.compact = fit nestingLimit j.depth x :=
  h.read_eq (ofText_compact h.numberless)

/-- What is read back from a value is read back from its pretty text. -/
theorem Reads.read_pretty {d : Decoder α} {x : α} (h : Reads d nestingLimit j x) :
    read d j.pretty = fit nestingLimit j.depth x :=
  h.read_eq (ofText_pretty h.numberless)

end Ripple.Json
