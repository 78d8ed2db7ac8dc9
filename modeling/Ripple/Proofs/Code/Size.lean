import Ripple.Proofs.Code.Statement

/-!
# Sizes of bodies

How large a body is after its calls were changed or replaced. Changing calls keeps the size,
and replacing each by at most `k` multiplies it by little more than `k`.
-/

namespace Ripple.Statement

variable {α β : Type}

theorem sizeOfBody_append (body rest : List (Statement α)) :
    sizeOfBody (body ++ rest) = sizeOfBody body + sizeOfBody rest := by
  induction body with
  | nil => simp [sizeOfBody]
  | cons s body ih =>
    rw [List.cons_append, sizeOfBody, sizeOfBody, ih]
    omega

theorem sizeOfBody_singleton (s : Statement α) : sizeOfBody [s] = s.size + 1 := rfl

theorem sizeOfBody_filter_le (keep : Statement α → Bool) (body : List (Statement α)) :
    sizeOfBody (body.filter keep) ≤ sizeOfBody body := by
  induction body with
  | nil => exact Nat.le_refl _
  | cons s rest ih =>
    rw [List.filter_cons]
    split
    · simpa only [sizeOfBody, Nat.add_le_add_iff_left, Nat.add_le_add_iff_right] using ih
    · rw [sizeOfBody]
      omega

/-- A body is no larger than several put together. -/
theorem sizeOfBody_le_of_mem {f : β → List (Statement α)} {x : β} {xs : List β} (hx : x ∈ xs) :
    sizeOfBody (f x) ≤ sizeOfBody (xs.flatMap f) := by
  obtain ⟨before, after, rfl⟩ := List.append_of_mem hx
  rw [List.flatMap_append, List.flatMap_cons, sizeOfBody_append, sizeOfBody_append]
  omega

/-- What a body becomes is not too large if none of its statements becomes too large. -/
theorem sizeOfBody_flatMap_le {f : Statement α → List (Statement β)} {k : Nat}
    {body : List (Statement α)} (h : ∀ s ∈ body, sizeOfBody (f s) ≤ k * (s.size + 1)) :
    sizeOfBody (body.flatMap f) ≤ k * sizeOfBody body := by
  induction body with
  | nil => exact Nat.zero_le _
  | cons s rest ih =>
    obtain ⟨hs, hrest⟩ := List.forall_mem_cons.1 h
    calc sizeOfBody ((s :: rest).flatMap f)
        = sizeOfBody (f s) + sizeOfBody (rest.flatMap f) := by
          rw [List.flatMap_cons, sizeOfBody_append]
      _ ≤ k * (s.size + 1) + k * sizeOfBody rest := Nat.add_le_add hs (ih hrest)
      _ = k * sizeOfBody (s :: rest) := by
          rw [← Nat.mul_add, sizeOfBody, Nat.add_right_comm]

section mapAt

variable (h : List Nat → α → β)

mutual

theorem size_mapAt (path : List Nat) : ∀ s : Statement α, (s.mapAt h path).size = s.size
  | .call target => rfl
  | .conditional arms => by rw [mapAt, size, size, sizeOfArms_mapArmsAt path 0 arms]
  | .switch subject arms => by rw [mapAt, size, size, sizeOfCases_mapCasesAt path 0 arms]
  | .forEach items body => by rw [mapAt, size, size, sizeOfBody_mapBodyAt path 0 body]
  | .block body => by rw [mapAt, size, size, sizeOfBody_mapBodyAt path 0 body]

theorem sizeOfBody_mapBodyAt (path : List Nat) (i : Nat) :
    ∀ body : List (Statement α), sizeOfBody (mapBodyAt h path i body) = sizeOfBody body
  | [] => rfl
  | s :: rest => by
    rw [mapBodyAt, sizeOfBody, sizeOfBody, size_mapAt (path ++ [i]) s,
      sizeOfBody_mapBodyAt path (i + 1) rest]

theorem sizeOfArms_mapArmsAt (path : List Nat) (i : Nat) :
    ∀ arms : List (Arm String (Statement α)),
      sizeOfArms (mapArmsAt h path i arms) = sizeOfArms arms
  | [] => rfl
  | ⟨guard, body⟩ :: rest => by
    rw [mapArmsAt, sizeOfArms, sizeOfArms, sizeOfBody_mapBodyAt (path ++ [i]) 0 body,
      sizeOfArms_mapArmsAt path (i + 1) rest]

theorem sizeOfCases_mapCasesAt (path : List Nat) (i : Nat) :
    ∀ arms : List (Arm (List String) (Statement α)),
      sizeOfCases (mapCasesAt h path i arms) = sizeOfCases arms
  | [] => rfl
  | ⟨guard, body⟩ :: rest => by
    rw [mapCasesAt, sizeOfCases, sizeOfCases, sizeOfBody_mapBodyAt (path ++ [i]) 0 body,
      sizeOfCases_mapCasesAt path (i + 1) rest]

end

end mapAt

theorem sizeOfBody_map_map (g : α → β) (body : List (Statement α)) :
    sizeOfBody (body.map (·.map g)) = sizeOfBody body := by
  induction body with
  | nil => rfl
  | cons s rest ih => rw [List.map_cons, sizeOfBody, sizeOfBody, ih, map, size_mapAt]

section replace

variable {f : α → List (Statement α)} {k : Nat}

mutual

/-- A statement in which at most `k` stands for each call. -/
theorem sizeOfBody_replace_le (hf : ∀ target, sizeOfBody (f target) ≤ k) :
    ∀ s : Statement α, sizeOfBody (s.replace f) ≤ (k + 1) * (s.size + 1)
  | .call target => by
    rw [replace, size]
    have := hf target
    omega
  | .conditional arms => by
    have := sizeOfArms_replaceArms_le hf arms
    rw [replace, sizeOfBody_singleton, size, size]
    simp only [Nat.mul_add]
    omega
  | .switch subject arms => by
    have := sizeOfCases_replaceCases_le hf arms
    rw [replace, sizeOfBody_singleton, size, size]
    simp only [Nat.mul_add]
    omega
  | .forEach items body => by
    have := sizeOfBody_replaceBody_le hf body
    rw [replace, sizeOfBody_singleton, size, size]
    simp only [Nat.mul_add]
    omega
  | .block body => by
    have : sizeOfBody body ≤ (k + 1) * sizeOfBody body := Nat.le_mul_of_pos_left _ (Nat.succ_pos k)
    rw [replace, sizeOfBody_singleton, size]
    simp only [Nat.mul_add]
    omega

theorem sizeOfBody_replaceBody_le (hf : ∀ target, sizeOfBody (f target) ≤ k) :
    ∀ body : List (Statement α), sizeOfBody (replaceBody f body) ≤ (k + 1) * sizeOfBody body
  | [] => Nat.zero_le _
  | s :: rest => by
    have hs := sizeOfBody_replace_le hf s
    have hrest := sizeOfBody_replaceBody_le hf rest
    rw [replaceBody, sizeOfBody_append, sizeOfBody]
    simp only [Nat.mul_add] at hs ⊢
    omega

theorem sizeOfArms_replaceArms_le (hf : ∀ target, sizeOfBody (f target) ≤ k) :
    ∀ arms : List (Arm String (Statement α)),
      sizeOfArms (replaceArms f arms) ≤ (k + 1) * sizeOfArms arms
  | [] => Nat.zero_le _
  | ⟨guard, body⟩ :: rest => by
    have hbody := sizeOfBody_replaceBody_le hf body
    have hrest := sizeOfArms_replaceArms_le hf rest
    rw [replaceArms, sizeOfArms, sizeOfArms]
    simp only [Nat.mul_add]
    omega

theorem sizeOfCases_replaceCases_le (hf : ∀ target, sizeOfBody (f target) ≤ k) :
    ∀ arms : List (Arm (List String) (Statement α)),
      sizeOfCases (replaceCases f arms) ≤ (k + 1) * sizeOfCases arms
  | [] => Nat.zero_le _
  | ⟨guard, body⟩ :: rest => by
    have hbody := sizeOfBody_replaceBody_le hf body
    have hrest := sizeOfCases_replaceCases_le hf rest
    rw [replaceCases, sizeOfCases, sizeOfCases]
    simp only [Nat.mul_add]
    omega

end

end replace

end Ripple.Statement
