import Ripple.Proofs.Code.Statement

/-!
# Paths to calls

When the calls of a body are told where they stand, the path that a call is given leads to it
alone: two calls with one path are the same call.
-/

namespace Ripple.Statement

variable {α β : Type}

section paths

variable {h : List Nat → α → β}

theorem mapBodyAt_eq_mapIdx (path : List Nat) (i : Nat) (body : List (Statement α)) :
    mapBodyAt h path i body = body.mapIdx fun j s => s.mapAt h (path ++ [i + j]) := by
  induction body generalizing i with
  | nil => rfl
  | cons s rest ih =>
    rw [mapBodyAt, ih, List.mapIdx_cons]
    simp only [Nat.add_zero, Nat.add_assoc, Nat.add_comm 1]

theorem mapArmsAt_eq_mapIdx (path : List Nat) (i : Nat) (arms : List (Arm String (Statement α))) :
    mapArmsAt h path i arms =
      arms.mapIdx fun j arm => ⟨arm.guard, mapBodyAt h (path ++ [i + j]) 0 arm.body⟩ := by
  induction arms generalizing i with
  | nil => rfl
  | cons arm rest ih =>
    rw [mapArmsAt, ih, List.mapIdx_cons]
    simp only [Nat.add_zero, Nat.add_assoc, Nat.add_comm 1]

theorem mapCasesAt_eq_mapIdx (path : List Nat) (i : Nat)
    (arms : List (Arm (List String) (Statement α))) :
    mapCasesAt h path i arms =
      arms.mapIdx fun j arm => ⟨arm.guard, mapBodyAt h (path ++ [i + j]) 0 arm.body⟩ := by
  induction arms generalizing i with
  | nil => rfl
  | cons arm rest ih =>
    rw [mapCasesAt, ih, List.mapIdx_cons]
    simp only [Nat.add_zero, Nat.add_assoc, Nat.add_comm 1]

/-- Something holds of an element told its index just if it holds at some index. -/
theorem exists_mem_mapIdx_iff {γ δ : Type} {f : Nat → γ → δ} {xs : List γ} {q : δ → Prop} :
    (∃ y ∈ xs.mapIdx f, q y) ↔ ∃ (i : Nat) (hi : i < xs.length), q (f i xs[i]) := by
  simp only [List.mem_mapIdx]
  constructor
  · rintro ⟨y, ⟨i, hi, rfl⟩, hq⟩
    exact ⟨i, hi, hq⟩
  · rintro ⟨i, hi, hq⟩
    exact ⟨f i xs[i], ⟨i, hi, rfl⟩, hq⟩

theorem mem_callsOfBody_mapBodyAt {path : List Nat} {body : List (Statement α)} {x : β} :
    x ∈ callsOfBody (mapBodyAt h path 0 body) ↔
      ∃ (j : Nat) (hj : j < body.length), x ∈ (body[j].mapAt h (path ++ [j])).calls := by
  simp only [callsOfBody_eq_flatMap, mapBodyAt_eq_mapIdx, List.mem_flatMap, Nat.zero_add]
  exact exists_mem_mapIdx_iff

theorem mem_calls_conditional_mapAt {path : List Nat} {arms : List (Arm String (Statement α))}
    {x : β} : x ∈ ((conditional arms).mapAt h path).calls ↔
      ∃ (i : Nat) (hi : i < arms.length) (j : Nat) (hj : j < arms[i].body.length),
        x ∈ (arms[i].body[j].mapAt h (path ++ [i] ++ [j])).calls := by
  simp only [mapAt, calls, callsOfArms_eq_flatMap, mapArmsAt_eq_mapIdx, List.mem_flatMap,
    Nat.zero_add, ← mem_callsOfBody_mapBodyAt]
  exact exists_mem_mapIdx_iff

theorem mem_calls_switch_mapAt {path : List Nat} {subject : String}
    {arms : List (Arm (List String) (Statement α))} {x : β} :
    x ∈ ((switch subject arms).mapAt h path).calls ↔
      ∃ (i : Nat) (hi : i < arms.length) (j : Nat) (hj : j < arms[i].body.length),
        x ∈ (arms[i].body[j].mapAt h (path ++ [i] ++ [j])).calls := by
  simp only [mapAt, calls, callsOfCases_eq_flatMap, mapCasesAt_eq_mapIdx, List.mem_flatMap,
    Nat.zero_add, ← mem_callsOfBody_mapBodyAt]
  exact exists_mem_mapIdx_iff

/-- Two steps below one path that lead to a common place are the same step. -/
theorem step_eq_of_prefix {path place : List Nat} {i j : Nat} (hi : path ++ [i] <+: place)
    (hj : path ++ [j] <+: place) : i = j := by
  have hpaths : path ++ [i] = path ++ [j] := by
    rw [List.prefix_iff_eq_take.1 hi, List.prefix_iff_eq_take.1 hj]
    simp
  simpa using hpaths

variable (key : β → List Nat) (hkey : ∀ path target, key (h path target) = path)
include hkey

/-- A call below a path has a path that goes on from there. -/
theorem prefix_of_mem_calls_mapAt {path : List Nat} {s : Statement α} {x : β}
    (hx : x ∈ (s.mapAt h path).calls) : path <+: key x := by
  induction s using Statement.induction generalizing path with
  | call target =>
    rw [mapAt, calls, List.mem_singleton] at hx
    have hpath : key x = path := by rw [hx, hkey]
    exact hpath ▸ List.prefix_rfl
  | conditional arms ih =>
    obtain ⟨i, hi, j, hj, hx⟩ := mem_calls_conditional_mapAt.1 hx
    have := ih _ (List.getElem_mem hi) _ (List.getElem_mem hj) hx
    exact ((List.prefix_append path [i]).trans (List.prefix_append _ [j])).trans this
  | switch subject arms ih =>
    obtain ⟨i, hi, j, hj, hx⟩ := mem_calls_switch_mapAt.1 hx
    have := ih _ (List.getElem_mem hi) _ (List.getElem_mem hj) hx
    exact ((List.prefix_append path [i]).trans (List.prefix_append _ [j])).trans this
  | forEach items body ih | block body ih =>
    obtain ⟨j, hj, hx⟩ := mem_callsOfBody_mapBodyAt.1 hx
    exact (List.prefix_append path [j]).trans (ih _ (List.getElem_mem hj) hx)

/-- Two calls below a path that have the same path are the same. -/
theorem eq_of_mem_calls_mapAt {path : List Nat} {s : Statement α} {x y : β}
    (hx : x ∈ (s.mapAt h path).calls) (hy : y ∈ (s.mapAt h path).calls) (hxy : key x = key y) :
    x = y := by
  induction s using Statement.induction generalizing path with
  | call target =>
    rw [mapAt, calls, List.mem_singleton] at hx hy
    rw [hx, hy]
  | conditional arms ih =>
    obtain ⟨i, hi, j, hj, hx⟩ := mem_calls_conditional_mapAt.1 hx
    obtain ⟨i', hi', j', hj', hy⟩ := mem_calls_conditional_mapAt.1 hy
    have hpx := prefix_of_mem_calls_mapAt key hkey hx
    have hpy := hxy ▸ prefix_of_mem_calls_mapAt key hkey hy
    obtain rfl := step_eq_of_prefix ((List.prefix_append _ _).trans hpx)
      ((List.prefix_append _ _).trans hpy)
    obtain rfl := step_eq_of_prefix hpx hpy
    exact ih _ (List.getElem_mem hi) _ (List.getElem_mem hj) hx hy
  | switch subject arms ih =>
    obtain ⟨i, hi, j, hj, hx⟩ := mem_calls_switch_mapAt.1 hx
    obtain ⟨i', hi', j', hj', hy⟩ := mem_calls_switch_mapAt.1 hy
    have hpx := prefix_of_mem_calls_mapAt key hkey hx
    have hpy := hxy ▸ prefix_of_mem_calls_mapAt key hkey hy
    obtain rfl := step_eq_of_prefix ((List.prefix_append _ _).trans hpx)
      ((List.prefix_append _ _).trans hpy)
    obtain rfl := step_eq_of_prefix hpx hpy
    exact ih _ (List.getElem_mem hi) _ (List.getElem_mem hj) hx hy
  | forEach items body ih | block body ih =>
    obtain ⟨j, hj, hx⟩ := mem_callsOfBody_mapBodyAt.1 hx
    obtain ⟨j', hj', hy⟩ := mem_callsOfBody_mapBodyAt.1 hy
    have hpx := prefix_of_mem_calls_mapAt key hkey hx
    have hpy := hxy ▸ prefix_of_mem_calls_mapAt key hkey hy
    obtain rfl := step_eq_of_prefix hpx hpy
    exact ih _ (List.getElem_mem hj) hx hy

/-- Two calls of a body that have the same path are the same. -/
theorem eq_of_mem_callsOfBody_mapBodyAt {path : List Nat} {body : List (Statement α)} {x y : β}
    (hx : x ∈ callsOfBody (mapBodyAt h path 0 body))
    (hy : y ∈ callsOfBody (mapBodyAt h path 0 body)) (hxy : key x = key y) : x = y := by
  obtain ⟨j, hj, hx⟩ := mem_callsOfBody_mapBodyAt.1 hx
  obtain ⟨j', hj', hy⟩ := mem_callsOfBody_mapBodyAt.1 hy
  have hpx := prefix_of_mem_calls_mapAt key hkey hx
  have hpy := hxy ▸ prefix_of_mem_calls_mapAt key hkey hy
  obtain rfl := step_eq_of_prefix hpx hpy
  exact eq_of_mem_calls_mapAt key hkey hx hy hxy

end paths

end Ripple.Statement
