import Ripple.Proofs.Code.Mapping
import Ripple.Proofs.Code.Path

/-!
# Places of calls

`callAt?` follows a path of indices through a statement to the call that stands at its end, with
no walk through the other calls. Telling every call its path and then listing the calls gives
just the calls that are found this way (`mem_callsOfBody_mapBodyAt_iff`), and gives them in the
order of their paths, compared index by index (`pairwise_callsOfBody_mapBodyAt`). So source
order is the order of paths.
-/

namespace Ripple.Statement

variable {α β : Type}

/-- The call at the end of a path below a statement, if a call stands there. The path has two
steps for an arm, its index and the index in its body, and one for a loop or a block. -/
def callAt? : Statement α → List Nat → Option α
  | .call target, [] => some target
  | .conditional arms, i :: j :: path =>
    arms[i]?.bind fun arm => arm.body[j]?.bind fun s => s.callAt? path
  | .switch _ arms, i :: j :: path =>
    arms[i]?.bind fun arm => arm.body[j]?.bind fun s => s.callAt? path
  | .forEach _ body, i :: path => body[i]?.bind fun s => s.callAt? path
  | .block body, i :: path => body[i]?.bind fun s => s.callAt? path
  | _, _ => none

/-- The call at the end of a path that begins with the index of a statement of a body. -/
def callInBody? (body : List (Statement α)) : List Nat → Option α
  | [] => none
  | i :: path => body[i]?.bind fun s => s.callAt? path

/-! ## Following a path -/

section callAt?

variable {path : List Nat} {x : α}

theorem callInBody?_eq_some_iff {body : List (Statement α)} :
    callInBody? body path = some x ↔
      ∃ (i : Nat) (hi : i < body.length) (below : List Nat),
        path = i :: below ∧ body[i].callAt? below = some x := by
  cases path with
  | nil => simp [callInBody?]
  | cons i below =>
    simp only [callInBody?, Option.bind_eq_some_iff, List.getElem?_eq_some_iff, List.cons.injEq]
    constructor
    · rintro ⟨s, ⟨hi, rfl⟩, hx⟩
      exact ⟨i, hi, below, ⟨rfl, rfl⟩, hx⟩
    · rintro ⟨i, hi, below, ⟨rfl, rfl⟩, hx⟩
      exact ⟨_, ⟨hi, rfl⟩, hx⟩

theorem callAt?_call {target : α} : (call target).callAt? path = some x ↔
    path = [] ∧ x = target := by
  cases path with
  | nil => simp [callAt?, eq_comm]
  | cons i below => simp [callAt?]

theorem callAt?_conditional {arms : List (Arm String (Statement α))} :
    (conditional arms).callAt? path = some x ↔
      ∃ (i : Nat) (hi : i < arms.length) (below : List Nat),
        path = i :: below ∧ callInBody? arms[i].body below = some x := by
  match path with
  | [] => simp [callAt?]
  | [i] => simp [callAt?, callInBody?]
  | i :: j :: below =>
    simp [callAt?, callInBody?, Option.bind_eq_some_iff, List.getElem?_eq_some_iff]

theorem callAt?_switch {subject : String} {arms : List (Arm (List String) (Statement α))} :
    (switch subject arms).callAt? path = some x ↔
      ∃ (i : Nat) (hi : i < arms.length) (below : List Nat),
        path = i :: below ∧ callInBody? arms[i].body below = some x := by
  match path with
  | [] => simp [callAt?]
  | [i] => simp [callAt?, callInBody?]
  | i :: j :: below =>
    simp [callAt?, callInBody?, Option.bind_eq_some_iff, List.getElem?_eq_some_iff]

theorem callAt?_forEach {items : String} {body : List (Statement α)} :
    (forEach items body).callAt? path = callInBody? body path := by
  cases path <;> rfl

theorem callAt?_block {body : List (Statement α)} :
    (block body).callAt? path = callInBody? body path := by
  cases path <;> rfl

end callAt?

/-! ## Calls told where they stand -/

section mapAt

variable {h : List Nat → α → β}

/-- What is told its path below a first step is what is told its path below the step's end. -/
theorem exists_step_iff {n : Nat} {inside : List Nat → α → Prop}
    {below : (i : Nat) → i < n → List Nat → α → Prop} (hstep : ∀ rest x, inside rest x ↔
      ∃ (i : Nat) (hi : i < n) (rest' : List Nat), rest = i :: rest' ∧ below i hi rest' x)
    {path : List Nat} {y : β} :
    (∃ rest x, inside rest x ∧ y = h (path ++ rest) x) ↔
      ∃ (i : Nat) (hi : i < n) (rest : List Nat) (x : α),
        below i hi rest x ∧ y = h (path ++ [i] ++ rest) x := by
  constructor
  · rintro ⟨rest, x, hx, rfl⟩
    obtain ⟨i, hi, rest', rfl, hbelow⟩ := (hstep rest x).1 hx
    exact ⟨i, hi, rest', x, hbelow, by simp⟩
  · rintro ⟨i, hi, rest, x, hx, rfl⟩
    exact ⟨i :: rest, x, (hstep _ x).2 ⟨i, hi, rest, rfl, hx⟩, by simp⟩

theorem mem_callsOfBody_mapBodyAt_iff_of_forall {body : List (Statement α)}
    (ih : ∀ s ∈ body, ∀ (path : List Nat) (y : β), y ∈ (s.mapAt h path).calls ↔
      ∃ rest x, s.callAt? rest = some x ∧ y = h (path ++ rest) x)
    {path : List Nat} {y : β} : y ∈ callsOfBody (mapBodyAt h path 0 body) ↔
      ∃ rest x, callInBody? body rest = some x ∧ y = h (path ++ rest) x := by
  rw [mem_callsOfBody_mapBodyAt, exists_step_iff fun _ _ => callInBody?_eq_some_iff]
  exact exists_congr fun j => exists_congr fun hj => ih _ (List.getElem_mem hj) _ _

/-- The calls of a statement that were told their paths are those that the paths lead to. -/
theorem mem_calls_mapAt_iff {s : Statement α} {path : List Nat} {y : β} :
    y ∈ (s.mapAt h path).calls ↔
      ∃ rest x, s.callAt? rest = some x ∧ y = h (path ++ rest) x := by
  induction s using Statement.induction generalizing path y with
  | call target => simp [mapAt, calls, callAt?_call]
  | conditional arms ih =>
    rw [exists_step_iff fun _ _ => callAt?_conditional, mem_calls_conditional_mapAt]
    refine exists_congr fun i => exists_congr fun hi => ?_
    rw [← mem_callsOfBody_mapBodyAt, mem_callsOfBody_mapBodyAt_iff_of_forall fun s hs _ _ =>
      ih _ (List.getElem_mem hi) s hs]
  | switch subject arms ih =>
    rw [exists_step_iff fun _ _ => callAt?_switch, mem_calls_switch_mapAt]
    refine exists_congr fun i => exists_congr fun hi => ?_
    rw [← mem_callsOfBody_mapBodyAt, mem_callsOfBody_mapBodyAt_iff_of_forall fun s hs _ _ =>
      ih _ (List.getElem_mem hi) s hs]
  | forEach items body ih =>
    simp only [callAt?_forEach, mapAt, calls]
    exact mem_callsOfBody_mapBodyAt_iff_of_forall fun s hs _ _ => ih s hs
  | block body ih =>
    simp only [callAt?_block, mapAt, calls]
    exact mem_callsOfBody_mapBodyAt_iff_of_forall fun s hs _ _ => ih s hs

/-- The calls of a body that were told their paths are those that the paths lead to. -/
theorem mem_callsOfBody_mapBodyAt_iff {body : List (Statement α)} {path : List Nat} {y : β} :
    y ∈ callsOfBody (mapBodyAt h path 0 body) ↔
      ∃ rest x, callInBody? body rest = some x ∧ y = h (path ++ rest) x :=
  mem_callsOfBody_mapBodyAt_iff_of_forall fun _ _ _ _ => mem_calls_mapAt_iff

/-- Telling calls their paths changes neither which calls there are nor their order. -/
theorem map_callsOfBody_mapBodyAt {γ : Type} {e : β → γ} {g : α → γ}
    (heg : ∀ path target, e (h path target) = g target) (path : List Nat) (i : Nat)
    (body : List (Statement α)) :
    (callsOfBody (mapBodyAt h path i body)).map e = (callsOfBody body).map g := by
  rw [← callsOfBody_map, map_mapBodyAt]
  simp only [heg, mapBodyAt_const, callsOfBody_map]

end mapAt

/-! ## Source order -/

section order

/-- Of two steps below one path, the one with the smaller index comes before the other, wherever
they lead to. -/
theorem lt_of_step_prefix {path place place' : List Nat} {i j : Nat} (hij : i < j)
    (hi : path ++ [i] <+: place) (hj : path ++ [j] <+: place') : place < place' := by
  obtain ⟨rest, rfl⟩ := hi
  obtain ⟨rest', rfl⟩ := hj
  simp only [List.append_assoc, List.cons_append, List.nil_append]
  exact List.append_left_lt (List.cons_lt_cons_iff.2 (.inl hij))

/-- Where contents lie below steps that go up, and are in the order of their places each, they are
in that order all together. -/
theorem pairwise_flatMap_of_step {γ : Type} {key : β → List Nat} {contents : γ → List β}
    {xs : List γ} (path : List Nat) (step : γ → Nat)
    (hup : xs.Pairwise fun a b => step a < step b)
    (hbelow : ∀ a ∈ xs, ∀ y ∈ contents a, path ++ [step a] <+: key y)
    (hsorted : ∀ a ∈ xs, (contents a).Pairwise fun x y => key x < key y) :
    (xs.flatMap contents).Pairwise fun x y => key x < key y := by
  rw [List.pairwise_flatMap]
  refine ⟨hsorted, hup.imp_of_mem fun {a b} ha hb hab x hx y hy => ?_⟩
  exact lt_of_step_prefix hab (hbelow a ha x hx) (hbelow b hb y hy)

theorem pairwise_flatMap_mapIdx {γ δ : Type} {key : β → List Nat} {g : Nat → γ → δ}
    {contents : δ → List β} {path : List Nat} {xs : List γ}
    (hbelow : ∀ (i : Nat) (hi : i < xs.length), ∀ y ∈ contents (g i xs[i]),
      path ++ [i] <+: key y)
    (hsorted : ∀ (i : Nat) (hi : i < xs.length),
      (contents (g i xs[i])).Pairwise fun x y => key x < key y) :
    ((xs.mapIdx g).flatMap contents).Pairwise fun x y => key x < key y := by
  have hup : (xs.zipIdx.map Prod.snd).Pairwise (· < ·) := by
    rw [List.zipIdx_map_snd]
    exact List.pairwise_lt_range'
  rw [List.mapIdx_eq_zipIdx_map, List.flatMap_map]
  refine pairwise_flatMap_of_step path Prod.snd (List.pairwise_map.1 hup) ?_ ?_
  · rintro ⟨a, i⟩ ha
    have ha : xs[i]? = some a := List.mem_zipIdx_iff_getElem?.1 ha
    obtain ⟨hi, rfl⟩ := List.getElem?_eq_some_iff.1 ha
    exact hbelow i hi
  · rintro ⟨a, i⟩ ha
    have ha : xs[i]? = some a := List.mem_zipIdx_iff_getElem?.1 ha
    obtain ⟨hi, rfl⟩ := List.getElem?_eq_some_iff.1 ha
    exact hsorted i hi

variable {h : List Nat → α → β} (key : β → List Nat)
  (hkey : ∀ path target, key (h path target) = path)
include hkey

theorem prefix_of_mem_callsOfBody_mapBodyAt {path : List Nat} {body : List (Statement α)} {x : β}
    (hx : x ∈ callsOfBody (mapBodyAt h path 0 body)) : path <+: key x := by
  obtain ⟨j, hj, hx⟩ := mem_callsOfBody_mapBodyAt.1 hx
  exact (List.prefix_append path [j]).trans (prefix_of_mem_calls_mapAt key hkey hx)

theorem pairwise_callsOfBody_mapBodyAt_of_forall {body : List (Statement α)}
    (ih : ∀ s ∈ body, ∀ path, (s.mapAt h path).calls.Pairwise fun x y => key x < key y)
    (path : List Nat) :
    (callsOfBody (mapBodyAt h path 0 body)).Pairwise fun x y => key x < key y := by
  rw [callsOfBody_eq_flatMap, mapBodyAt_eq_mapIdx]
  simp only [Nat.zero_add]
  exact pairwise_flatMap_mapIdx (fun i hi y hy => prefix_of_mem_calls_mapAt key hkey hy)
    fun i hi => ih _ (List.getElem_mem hi) _

theorem pairwise_calls_mapAt (s : Statement α) (path : List Nat) :
    (s.mapAt h path).calls.Pairwise fun x y => key x < key y := by
  induction s using Statement.induction generalizing path with
  | call target => simp [mapAt, calls]
  | conditional arms ih =>
    rw [mapAt, calls, callsOfArms_eq_flatMap, mapArmsAt_eq_mapIdx]
    simp only [Nat.zero_add]
    exact pairwise_flatMap_mapIdx
      (fun i hi y hy => prefix_of_mem_callsOfBody_mapBodyAt key hkey hy)
      fun i hi => pairwise_callsOfBody_mapBodyAt_of_forall key hkey (ih _ (List.getElem_mem hi)) _
  | switch subject arms ih =>
    rw [mapAt, calls, callsOfCases_eq_flatMap, mapCasesAt_eq_mapIdx]
    simp only [Nat.zero_add]
    exact pairwise_flatMap_mapIdx
      (fun i hi y hy => prefix_of_mem_callsOfBody_mapBodyAt key hkey hy)
      fun i hi => pairwise_callsOfBody_mapBodyAt_of_forall key hkey (ih _ (List.getElem_mem hi)) _
  | forEach items body ih | block body ih =>
    exact pairwise_callsOfBody_mapBodyAt_of_forall key hkey ih path

/-- The calls of a body that were told their paths come in the order of the paths. -/
theorem pairwise_callsOfBody_mapBodyAt (body : List (Statement α)) (path : List Nat) :
    (callsOfBody (mapBodyAt h path 0 body)).Pairwise fun x y => key x < key y :=
  pairwise_callsOfBody_mapBodyAt_of_forall key hkey
    (fun s _ => pairwise_calls_mapAt key hkey s) path

end order

end Ripple.Statement
