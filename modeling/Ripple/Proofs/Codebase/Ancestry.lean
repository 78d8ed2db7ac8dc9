import Ripple.Proofs.Codebase.Population

/-!
# Ancestry

A type derives from a name by a chain of declarations, which starts at the base types that the
type declares and goes on, at each name, to those of the first declaration of that name. The
breadth-first walk over these chains ends after a number of rounds that the declarations bound,
and lists each name that some chain reaches once, nearest first (`ancestry_ancestors`). In rounds
it is a structural recursion, by which a given codebase can be populated by evaluation
(`Codebase.ofDeclared_eq_inRounds`).

No chain goes through the name of the type it starts from. So where names are distinct, a chain
on from an ancestor can be joined to the chain there, or else it meets the type itself and can
be cut off there: to implement a type is transitive.
-/

namespace Ripple

namespace TypeDecl

variable {declared : List TypeDecl} {t : TypeDecl}

/-- The base types that the first declaration of a name declares. -/
def basesOf (declared : List TypeDecl) (name : String) : List String :=
  ((first? declared name).map baseTypes).getD []

theorem mem_basesOf {mid name : String} :
    name ∈ basesOf declared mid ↔
      ∃ base, first? declared mid = some base ∧ name ∈ base.baseTypes := by
  unfold basesOf
  cases first? declared mid <;> simp

/-- A chain of `n` declarations from a type to a name. The names on its way, the last excepted,
are not the type's own. -/
inductive DerivesIn (declared : List TypeDecl) (t : TypeDecl) : Nat → String → Prop
  | direct {name : String} : name ∈ t.baseTypes → DerivesIn declared t 1 name
  | through {n : Nat} {mid name : String} {base : TypeDecl} : DerivesIn declared t n mid →
      mid ≠ t.fullName → first? declared mid = some base → name ∈ base.baseTypes →
      DerivesIn declared t (n + 1) name

/-- Whether a list holds just the names a type derives from, its own excepted: each once, nearest
first, and in front of all others those that the type itself declares, as it declares them. -/
structure Ancestry (declared : List TypeDecl) (t : TypeDecl) (names : List String) : Prop where
  mem_iff : ∀ name, name ∈ names ↔ name ≠ t.fullName ∧ ∃ n, DerivesIn declared t n name
  nodup : names.Nodup
  nearest_first : names.Pairwise fun name other =>
    ∀ n, DerivesIn declared t n other → ∃ m ≤ n, DerivesIn declared t m name
  declared_first : (t.baseTypes.filter (· != t.fullName)).eraseDups <+: names

/-! ## One round of the walk -/

section walk

variable {own name : String} {queue seen : List String}

theorem ancestorsFrom_skip (h : name ∈ seen ∨ name = own) :
    ancestorsFrom declared own (name :: queue) seen = ancestorsFrom declared own queue seen := by
  rw [ancestorsFrom_cons, if_pos (by simpa using h)]

theorem ancestorsFrom_visit (hseen : name ∉ seen) (hown : name ≠ own) :
    ancestorsFrom declared own (name :: queue) seen =
      name :: ancestorsFrom declared own (queue ++ basesOf declared name) (name :: seen) := by
  rw [ancestorsFrom_cons, if_neg (by simp [hseen, hown])]
  rfl

theorem ancestorsFrom_induction (declared : List TypeDecl) (own : String)
    {motive : List String → List String → Prop}
    (nil : ∀ seen, motive [] seen)
    (skip : ∀ name queue seen, name ∈ seen ∨ name = own → motive queue seen →
      motive (name :: queue) seen)
    (visit : ∀ name queue seen, name ∉ seen → name ≠ own →
      motive (queue ++ basesOf declared name) (name :: seen) → motive (name :: queue) seen)
    (queue seen : List String) : motive queue seen := by
  induction queue, seen using ancestorsFrom.induct declared own with
  | case1 seen => exact nil seen
  | case2 name queue seen hskip ih => exact skip name queue seen (by simpa using hskip) ih
  | case3 name queue seen hskip ihSome ihNone =>
    have hnew : name ∉ seen ∧ name ≠ own := by simpa using hskip
    refine visit name queue seen hnew.1 hnew.2 ?_
    unfold basesOf
    cases hfirst : first? declared name with
    | some base => exact ihSome base hfirst
    | none => simpa using ihNone

end walk

/-! ## The number of rounds -/

/-- The walk, unless it takes more rounds than allowed. -/
def ancestorsWithin (declared : List TypeDecl) (own : String) :
    Nat → List String → List String → Option (List String)
  | _, [], _ => some []
  | 0, _ :: _, _ => none
  | rounds + 1, name :: queue, seen =>
    if name ∈ seen ∨ name = own then ancestorsWithin declared own rounds queue seen
    else (ancestorsWithin declared own rounds (queue ++ basesOf declared name)
      (name :: seen)).map (name :: ·)

/-- How many base types the declarations name together. -/
def baseCount (declared : List TypeDecl) : Nat :=
  (declared.flatMap (·.baseTypes)).length

theorem baseCount_cons (first : TypeDecl) (rest : List TypeDecl) :
    baseCount (first :: rest) = first.baseTypes.length + baseCount rest := by
  rw [baseCount, List.flatMap_cons, List.length_append, baseCount]

theorem length_basesOf_add_le (declared : List TypeDecl) {name : String} {seen : List String}
    (h : name ∉ seen) :
    (basesOf declared name).length + baseCount (unseen declared (name :: seen)) ≤
      baseCount (unseen declared seen) := by
  induction declared with
  | nil => simp [basesOf, first?, unseen]
  | cons first rest ih =>
    by_cases hname : first.fullName = name
    · -- the first declaration of the name counts on the right only
      have hbases : basesOf (first :: rest) name = first.baseTypes := by
        simp [basesOf, first?, hname]
      have hunseen : unseen (first :: rest) (name :: seen) = unseen rest (name :: seen) := by
        simp [unseen, hname]
      have hseen : unseen (first :: rest) seen = first :: unseen rest seen := by
        simp [unseen, hname, h]
      rw [hbases, hunseen, hseen, baseCount_cons]
      omega
    · have hbases : basesOf (first :: rest) name = basesOf rest name := by
        simp [basesOf, first?, hname]
      rw [hbases]
      by_cases hmem : first.fullName ∈ seen
      · have hunseen (names : List String) (hmem : first.fullName ∈ names) :
            unseen (first :: rest) names = unseen rest names := by
          simp [unseen, hmem]
        rwa [hunseen _ (List.mem_cons_of_mem _ hmem), hunseen _ hmem]
      · have hunseen (names : List String) (hmem : first.fullName ∉ names) :
            unseen (first :: rest) names = first :: unseen rest names := by
          simp [unseen, hmem]
        rw [hunseen _ (by simp [hname, hmem]), hunseen _ hmem, baseCount_cons, baseCount_cons]
        omega

/-- The walk takes no more rounds than there are names in the queue and in the base types of the
declarations it has not seen. -/
theorem ancestorsWithin_eq (declared : List TypeDecl) (own : String) (extra : Nat)
    (queue seen : List String) :
    ancestorsWithin declared own (queue.length + baseCount (unseen declared seen) + extra) queue
      seen = some (ancestorsFrom declared own queue seen) := by
  induction queue, seen using ancestorsFrom_induction declared own
    generalizing extra with
  | nil seen => rw [ancestorsWithin, ancestorsFrom]
  | skip name queue seen hskip ih =>
    have hrounds : (name :: queue).length + baseCount (unseen declared seen) + extra =
        queue.length + baseCount (unseen declared seen) + extra + 1 := by
      rw [List.length_cons]
      omega
    rw [hrounds, ancestorsWithin, if_pos hskip, ih, ancestorsFrom_skip hskip]
  | visit name queue seen hseen hown ih =>
    have hspent := length_basesOf_add_le declared hseen
    obtain ⟨spare, hrounds⟩ : ∃ spare,
        (name :: queue).length + baseCount (unseen declared seen) + extra =
          (queue ++ basesOf declared name).length + baseCount (unseen declared (name :: seen)) +
            spare + 1 := by
      rw [List.length_cons, List.length_append]
      exact ⟨extra + (baseCount (unseen declared seen) - (basesOf declared name).length -
        baseCount (unseen declared (name :: seen))), by omega⟩
    rw [hrounds, ancestorsWithin, if_neg (by simp [hseen, hown]), ih, Option.map_some,
      ancestorsFrom_visit hseen hown]

theorem ancestorsWithin_eq_ancestors (declared : List TypeDecl) (t : TypeDecl) (extra : Nat) :
    ancestorsWithin declared t.fullName (t.baseTypes.length + baseCount declared + extra)
      t.baseTypes [] = some (ancestors declared t) := by
  have hunseen : unseen declared [] = declared := List.filter_eq_self.2 fun _ _ => rfl
  have hwithin := ancestorsWithin_eq declared t.fullName extra t.baseTypes []
  rwa [hunseen] at hwithin

/-- The type completed with the walk in rounds. As that recurses on their number, a type among
given declarations can be completed by evaluation. -/
def completeInRounds (declared : List TypeDecl) (t : TypeDecl) : TypeDecl :=
  let names := (ancestorsWithin declared t.fullName (t.baseTypes.length + baseCount declared)
    t.baseTypes []).getD []
  (names.filterMap (first? declared)).foldl inheritFrom { t with baseTypes := names }

theorem complete_eq_inRounds (declared : List TypeDecl) (t : TypeDecl) :
    complete declared t = completeInRounds declared t := by
  have hwithin := ancestorsWithin_eq_ancestors declared t 0
  rw [Nat.add_zero] at hwithin
  rw [completeInRounds, hwithin, Option.getD_some, complete]

/-! ## Level by level -/

/-- Whether the walk would list a name. -/
def IsNew (t : TypeDecl) (seen : List String) (name : String) : Prop :=
  name ∉ seen ∧ name ≠ t.fullName

/-- How far the walk has come: the queue holds names that chains of `n` declarations reach, then
names that chains of `n + 1` do. Nothing new is reached by a shorter chain, and what is new and
follows directly on the type or on a name that was seen is in the queue. -/
structure Frontier (declared : List TypeDecl) (t : TypeDecl) (n : Nat)
    (near far seen : List String) : Prop where
  near_reached : ∀ name ∈ near, DerivesIn declared t n name
  far_reached : ∀ name ∈ far, DerivesIn declared t (n + 1) name
  le_of_new : ∀ {m name}, DerivesIn declared t m name → IsNew t seen name → n ≤ m
  near_of_new : ∀ {name}, DerivesIn declared t n name → IsNew t seen name → name ∈ near
  queued_direct : ∀ {name}, name ∈ t.baseTypes → IsNew t seen name → name ∈ near ++ far
  queued_next : ∀ {mid name}, mid ∈ seen → name ∈ basesOf declared mid → IsNew t seen name →
    name ∈ near ++ far

theorem IsNew.of_cons {name other : String} {seen : List String}
    (h : IsNew t (name :: seen) other) : IsNew t seen other ∧ other ≠ name :=
  ⟨⟨fun hseen => h.1 (List.mem_cons_of_mem name hseen), h.2⟩,
    fun hsame => h.1 (hsame ▸ List.mem_cons_self)⟩

namespace Frontier

variable {n : Nat} {name : String} {near far seen : List String}

theorem start : Frontier declared t 0 [] t.baseTypes [] where
  near_reached := by simp
  far_reached _ h := .direct h
  le_of_new _ _ := Nat.zero_le _
  near_of_new h := nomatch h
  queued_direct h _ := h
  queued_next h := nomatch h

/-- With a level done, the next begins. -/
theorem next (h : Frontier declared t n [] far seen) : Frontier declared t (n + 1) far [] seen where
  near_reached := h.far_reached
  far_reached := by simp
  le_of_new hname hnew := by
    refine Nat.lt_of_le_of_ne (h.le_of_new hname hnew) ?_
    rintro rfl
    exact List.not_mem_nil (h.near_of_new hname hnew)
  near_of_new hname hnew := by
    cases hname with
    | direct hdirect => exact h.queued_direct hdirect hnew
    | @through _ mid _ base hmid hown hbase hname =>
      have hseen : mid ∈ seen := by
        by_contra hseen
        exact List.not_mem_nil (h.near_of_new hmid ⟨hseen, hown⟩)
      exact h.queued_next hseen (mem_basesOf.2 ⟨base, hbase, hname⟩) hnew
  queued_direct hname hnew := by simpa using h.queued_direct hname hnew
  queued_next hmid hname hnew := by simpa using h.queued_next hmid hname hnew

/-- A name that is not new leaves the queue. -/
theorem skip (h : Frontier declared t n (name :: near) far seen)
    (hskip : name ∈ seen ∨ name = t.fullName) : Frontier declared t n near far seen := by
  have hother {other : String} (hnew : IsNew t seen other) : other ≠ name := by
    rintro rfl
    exact hskip.elim hnew.1 hnew.2
  exact {
    near_reached := fun other hmem => h.near_reached other (List.mem_cons_of_mem name hmem)
    far_reached := h.far_reached
    le_of_new := h.le_of_new
    near_of_new := fun hreached hnew =>
      List.mem_of_ne_of_mem (hother hnew) (h.near_of_new hreached hnew)
    queued_direct := fun hdirect hnew =>
      List.mem_of_ne_of_mem (hother hnew) (h.queued_direct hdirect hnew)
    queued_next := fun hmid hnext hnew =>
      List.mem_of_ne_of_mem (hother hnew) (h.queued_next hmid hnext hnew) }

/-- A new name is seen, and the base types that its first declaration declares join the queue. -/
theorem visit (h : Frontier declared t n (name :: near) far seen) (hown : name ≠ t.fullName) :
    Frontier declared t n near (far ++ basesOf declared name) (name :: seen) where
  near_reached other hmem := h.near_reached other (List.mem_cons_of_mem name hmem)
  far_reached other hmem := by
    obtain hmem | hmem := List.mem_append.1 hmem
    · exact h.far_reached other hmem
    · obtain ⟨base, hbase, hname⟩ := mem_basesOf.1 hmem
      exact .through (h.near_reached name List.mem_cons_self) hown hbase hname
  le_of_new hreached hnew := h.le_of_new hreached hnew.of_cons.1
  near_of_new hreached hnew :=
    List.mem_of_ne_of_mem hnew.of_cons.2 (h.near_of_new hreached hnew.of_cons.1)
  queued_direct hdirect hnew := by
    rw [← List.append_assoc]
    exact List.mem_append_left _
      (List.mem_of_ne_of_mem hnew.of_cons.2 (h.queued_direct hdirect hnew.of_cons.1))
  queued_next hmid hnext hnew := by
    rw [← List.append_assoc]
    obtain rfl | hmid := List.mem_cons.1 hmid
    · exact List.mem_append_right _ hnext
    · exact List.mem_append_left _
        (List.mem_of_ne_of_mem hnew.of_cons.2 (h.queued_next hmid hnext hnew.of_cons.1))

/-- When the queue is empty nothing new can be reached. -/
theorem not_isNew (h : Frontier declared t n [] [] seen) {m : Nat}
    (hname : DerivesIn declared t m name) : ¬ IsNew t seen name := by
  induction hname with
  | direct hdirect => exact fun hnew => List.not_mem_nil (h.queued_direct hdirect hnew)
  | @through _ mid _ base _ hown hbase hname ih =>
    intro hnew
    have hseen : mid ∈ seen := by
      by_contra hseen
      exact ih ⟨hseen, hown⟩
    exact List.not_mem_nil (h.queued_next hseen (mem_basesOf.2 ⟨base, hbase, hname⟩) hnew)

/-- A queue that is not empty has a first name on the level it begins. -/
theorem exists_cons {queue : List String} (h : Frontier declared t n near far seen)
    (hqueue : name :: queue = near ++ far) : ∃ n' near' far',
      Frontier declared t n' (name :: near') far' seen ∧ queue = near' ++ far' := by
  cases near with
  | nil =>
    obtain rfl : name :: queue = far := hqueue
    exact ⟨n + 1, queue, [], h.next, (List.append_nil queue).symm⟩
  | cons first near =>
    obtain ⟨rfl, rfl⟩ := List.cons.inj hqueue
    exact ⟨n, near, far, h, rfl⟩

/-- What the walk lists from here on: what is new and can be reached, once, nearest first. -/
theorem ancestorsFrom (queue seen : List String) :
    ∀ {n near far}, Frontier declared t n near far seen → queue = near ++ far →
      (∀ name, name ∈ ancestorsFrom declared t.fullName queue seen ↔
        IsNew t seen name ∧ ∃ m, DerivesIn declared t m name) ∧
      (ancestorsFrom declared t.fullName queue seen).Nodup ∧
      (ancestorsFrom declared t.fullName queue seen).Pairwise fun name other =>
        ∀ m, DerivesIn declared t m other → ∃ k ≤ m, DerivesIn declared t k name := by
  induction queue, seen using ancestorsFrom_induction declared t.fullName with
  | nil seen =>
    intro n near far h hqueue
    obtain ⟨rfl, rfl⟩ := List.append_eq_nil_iff.1 hqueue.symm
    rw [TypeDecl.ancestorsFrom]
    refine ⟨fun name => iff_of_false List.not_mem_nil ?_, List.nodup_nil, .nil⟩
    rintro ⟨hnew, m, hname⟩
    exact h.not_isNew hname hnew
  | skip name queue seen hskip ih =>
    intro n near far h hqueue
    obtain ⟨n, near, far, h, hqueue⟩ := h.exists_cons hqueue
    rw [ancestorsFrom_skip hskip]
    exact ih (h.skip hskip) hqueue
  | visit name queue seen hseen hown ih =>
    intro n near far h hqueue
    obtain ⟨n, near, far, h, rfl⟩ := h.exists_cons hqueue
    have hreached : DerivesIn declared t n name := h.near_reached name List.mem_cons_self
    obtain ⟨hmem, hnodup, hnearest⟩ := ih (h.visit hown) (List.append_assoc ..)
    rw [ancestorsFrom_visit hseen hown]
    refine ⟨fun other => ?_, List.nodup_cons.2 ⟨fun hname => ?_, hnodup⟩,
      List.pairwise_cons.2 ⟨fun other hother m hm => ?_, hnearest⟩⟩
    · rw [List.mem_cons, hmem]
      constructor
      · rintro (rfl | ⟨hnew, hother⟩)
        · exact ⟨⟨hseen, hown⟩, n, hreached⟩
        · exact ⟨hnew.of_cons.1, hother⟩
      · rintro ⟨hnew, hother⟩
        by_cases hsame : other = name
        · exact .inl hsame
        · exact .inr ⟨⟨fun h => (List.mem_cons.1 h).elim hsame hnew.1, hnew.2⟩, hother⟩
    · exact ((hmem name).1 hname).1.1 List.mem_cons_self
    · -- nothing new is reached by a chain shorter than those of this level
      exact ⟨n, h.le_of_new hm ((hmem other).1 hother).1.of_cons.1, hreached⟩

end Frontier

theorem filter_eraseDups_prefix_ancestorsFrom {own : String} (queue more seen : List String) :
    (queue.filter fun name => name ∉ seen ∧ name ≠ own).eraseDups <+:
      ancestorsFrom declared own (queue ++ more) seen := by
  induction queue generalizing more seen with
  | nil => exact List.nil_prefix
  | cons name queue ih =>
    by_cases hskip : name ∈ seen ∨ name = own
    · rw [List.filter_cons_of_neg (by simpa [or_iff_not_imp_left] using hskip), List.cons_append,
        ancestorsFrom_skip hskip]
      exact ih more seen
    · obtain ⟨hseen, hown⟩ := not_or.1 hskip
      have hrest : (queue.filter fun name => name ∉ seen ∧ name ≠ own).filter (fun b => !b == name)
          = queue.filter fun other => other ∉ name :: seen ∧ other ≠ own := by
        rw [List.filter_filter]
        refine List.filter_congr fun other _ => ?_
        by_cases hsame : other = name <;> simp [hsame]
      rw [List.filter_cons_of_pos (by simp [hseen, hown]), List.eraseDups_cons, hrest,
        List.cons_append, ancestorsFrom_visit hseen hown, List.append_assoc]
      exact List.cons_prefix_cons.2 ⟨rfl, ih _ _⟩

/-- The walk lists the names a type derives from. -/
theorem ancestry_ancestors (declared : List TypeDecl) (t : TypeDecl) :
    Ancestry declared t (ancestors declared t) := by
  have hstart : Frontier declared t 0 [] t.baseTypes [] := .start
  obtain ⟨hmem, hnodup, hnearest⟩ := hstart.ancestorsFrom t.baseTypes [] rfl
  refine ⟨fun name => ?_, hnodup, hnearest, ?_⟩
  · rw [ancestors, hmem, IsNew, and_iff_right List.not_mem_nil]
  · have hown : t.baseTypes.filter (· != t.fullName) =
        t.baseTypes.filter fun name => name ∉ [] ∧ name ≠ t.fullName :=
      List.filter_congr fun name _ => by simp [bne, Bool.beq_eq_decide_eq]
    rw [hown, ancestors, ← List.append_nil t.baseTypes]
    simpa using filter_eraseDups_prefix_ancestorsFrom t.baseTypes [] []

/-! ## Chains that go on from an ancestor -/

/-- A chain on from an ancestor gives a chain from the type, which leaves out what lies between
two visits to the type. -/
theorem DerivesIn.trans {base : TypeDecl} {n m : Nat} {name : String}
    (hfirst : first? declared t.fullName = some t)
    (hbase : first? declared base.fullName = some base) (hother : base.fullName ≠ t.fullName)
    (hn : DerivesIn declared t n base.fullName) (hm : DerivesIn declared base m name) :
    ∃ k, DerivesIn declared t k name := by
  induction hm with
  | direct hdirect => exact ⟨n + 1, .through hn hother hbase hdirect⟩
  | @through _ mid _ next _ _ hnext hname ih =>
    obtain ⟨k, hmid⟩ := ih
    by_cases hown : mid = t.fullName
    · rw [hown, hfirst] at hnext
      obtain rfl := Option.some.inj hnext
      exact ⟨1, .direct hname⟩
    · exact ⟨k + 1, .through hmid hown hnext hname⟩

theorem baseTypes_inheritFrom (t base : TypeDecl) :
    (t.inheritFrom base).baseTypes = t.baseTypes := by
  unfold inheritFrom
  split <;> rfl

theorem baseTypes_complete (declared : List TypeDecl) (t : TypeDecl) :
    (complete declared t).baseTypes = ancestors declared t :=
  foldl_inheritFrom_eq baseTypes baseTypes_inheritFrom _ _

theorem implements_complete_iff {name : String} :
    (complete declared t).implements name = true ↔
      t.fullName = name ∨ ∃ n, DerivesIn declared t n name := by
  rw [implements, Bool.or_eq_true, beq_iff_eq, List.contains_iff_mem, fullName_complete,
    baseTypes_complete, (ancestry_ancestors declared t).mem_iff]
  grind

/-- Where names are distinct, a type implements what the types it implements do. -/
theorem implements_trans (hnames : (declared.map fullName).Nodup) {base : TypeDecl} {name : String}
    (ht : t ∈ declared) (hbase : base ∈ declared)
    (hderives : (complete declared t).implements base.fullName = true)
    (hon : (complete declared base).implements name = true) :
    (complete declared t).implements name = true := by
  have hfirst {u : TypeDecl} (hu : u ∈ declared) : first? declared u.fullName = some u :=
    (find?_key_eq_some_iff hnames).2 ⟨hu, rfl⟩
  rw [implements_complete_iff] at hderives hon ⊢
  by_cases hsame : base.fullName = t.fullName
  · obtain rfl : base = t := List.inj_on_of_nodup_map hnames hbase ht hsame
    exact hon
  · obtain ⟨n, hn⟩ := hderives.resolve_left (Ne.symm hsame)
    obtain rfl | ⟨m, hm⟩ := hon
    · exact .inr ⟨n, hn⟩
    · exact .inr (hn.trans (hfirst ht) (hfirst hbase) hsame hm)

end TypeDecl

open TypeDecl

theorem Codebase.ofDeclared_eq_inRounds (declared : List TypeDecl) :
    ofDeclared declared = ⟨declared.map (completeInRounds declared)⟩ := by
  rw [ofDeclared, List.map_congr_left fun t _ => complete_eq_inRounds declared t]

/-- Populating ends, and gives each type just the names it derives from: a walk cut off after as
many rounds as there are names in the base types of the type and of all declarations comes to
the same. Where names are distinct, a type then implements what the types it implements do. -/
theorem populated_ancestry (declared : List TypeDecl) :
    List.Forall₂ (fun t populated => populated.fullName = t.fullName ∧
        Ancestry declared t populated.baseTypes ∧
        ∀ extra, ancestorsWithin declared t.fullName
          (t.baseTypes.length + baseCount declared + extra) t.baseTypes [] =
            some populated.baseTypes)
      declared (Codebase.ofDeclared declared).types ∧
    ((declared.map fullName).Nodup →
      ∀ t ∈ (Codebase.ofDeclared declared).types, ∀ base ∈ (Codebase.ofDeclared declared).types,
        ∀ name, t.implements base.fullName = true → base.implements name = true →
          t.implements name = true) := by
  constructor
  · rw [Codebase.ofDeclared, List.forall₂_map_right_iff, List.forall₂_same]
    intro t _
    rw [fullName_complete, baseTypes_complete]
    exact ⟨rfl, ancestry_ancestors declared t, ancestorsWithin_eq_ancestors declared t⟩
  · intro hnames t ht base hbase name hderives hon
    obtain ⟨t', ht', rfl⟩ := List.mem_map.1 ht
    obtain ⟨base', hbase', rfl⟩ := List.mem_map.1 hbase
    rw [fullName_complete] at hderives
    exact implements_trans hnames ht' hbase' hderives hon

namespace Relay

/-- An order in a rush is an order, and an order is a message and may be in a rush. What a message
is derived from is not declared. -/
def orders : List TypeDecl :=
  [((TypeDecl.empty .classType "Shop.Rush").withBase "Shop.Placed").withField ⟨"hour", "Hour"⟩,
    (((TypeDecl.empty .classType "Shop.Placed").withBase "Message").withBase
      "Shop.Rush").withField ⟨"item", "Item"⟩,
    ((TypeDecl.empty .classType "Message").withBase "Object").withMethod ⟨"Cancel", [], []⟩]

/-- An order in a rush derives from what a message derives from. -/
theorem rush_implements_object :
    (orders.map fullName).Nodup ∧ ∃ rush message, rush.fullName = "Shop.Rush" ∧
      rush ∈ (Codebase.ofDeclared orders).types ∧ message ∈ (Codebase.ofDeclared orders).types ∧
      rush.implements message.fullName = true ∧ message.implements "Object" = true ∧
      rush.implements "Object" = true := by
  have hnames : (orders.map fullName).Nodup := by decide
  have hrush : orders[0] ∈ orders := by simp [orders]
  have hmessage : orders[2] ∈ orders := by simp [orders]
  have hderives : (complete orders orders[0]).implements (complete orders orders[2]).fullName := by
    rw [fullName_complete, complete_eq_inRounds]
    rfl
  have hon : (complete orders orders[2]).implements "Object" := by
    rw [complete_eq_inRounds]
    rfl
  exact ⟨hnames, _, _, fullName_complete orders _, List.mem_map_of_mem hrush,
    List.mem_map_of_mem hmessage, hderives, hon,
    (populated_ancestry orders).2 hnames _ (List.mem_map_of_mem hrush) _
      (List.mem_map_of_mem hmessage) _ hderives hon⟩

end Relay

end Ripple
