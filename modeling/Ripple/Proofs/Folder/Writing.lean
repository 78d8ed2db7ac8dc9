import Ripple.Folder

/-!
# Files read back from a folder

Writing to a path replaces what stands at its end and nothing else. The way along the path stays as
it was, since it leads through directories only, and no file is written in place of one: reading
gives what was written.
-/

namespace Ripple.Folder

variable {f : Folder} {place other : Place} {item : FolderItem} {path text : String}

/-! ## What stands at a place -/

theorem not_isAround_of_item?_ne (h : f.item? place ≠ some .directory) :
    isAround place = false := by
  rw [Bool.eq_false_iff]
  intro haround
  exact h (by rw [item?, if_pos haround])

/-- Putting another item in place of one keeps the places. -/
theorem find?_map_put (items : List (Place × FolderItem)) (place other : Place)
    (item : FolderItem) :
    (items.map fun entry => if entry.1 == place then (place, item) else entry).find?
        (·.1 == other) =
      (items.find? (·.1 == other)).map fun entry =>
        if entry.1 == place then (place, item) else entry := by
  rw [List.find?_map]
  congr 2
  funext entry
  by_cases hentry : entry.1 = place
  · simp [hentry]
  · simp [hentry]

theorem find?_put_self (f : Folder) (place : Place) (item : FolderItem) :
    (f.put place item).items.find? (·.1 == place) = some (place, item) := by
  unfold put
  split
  next h =>
    rw [find?_map_put]
    obtain ⟨entry, hfind⟩ := Option.isSome_iff_exists.1 (List.find?_isSome.2 (List.any_eq_true.1 h))
    rw [hfind, Option.map_some, if_pos (List.find?_some hfind)]
  next h =>
    have hnone : f.items.find? (·.1 == place) = none :=
      List.find?_eq_none.2 (List.any_eq_false.1 (Bool.eq_false_iff.2 h))
    rw [List.find?_append, hnone]
    simp

theorem find?_put_of_ne (f : Folder) (h : other ≠ place) (item : FolderItem) :
    (f.put place item).items.find? (·.1 == other) = f.items.find? (·.1 == other) := by
  unfold put
  split
  next =>
    rw [find?_map_put]
    cases hfind : f.items.find? (·.1 == other) with
    | none => rfl
    | some entry =>
      have hentry : entry.1 = other := by simpa using List.find?_some hfind
      simp [hentry, h]
  next =>
    have hother : (place == other) = false := by simpa using Ne.symm h
    rw [List.find?_append, List.find?_singleton, hother]
    simp

/-- What is put at a place that is no directory stands there. -/
theorem item?_put_self (h : f.item? place ≠ some .directory) (item : FolderItem) :
    (f.put place item).item? place = some item := by
  rw [item?, if_neg (by simp [not_isAround_of_item?_ne h]), find?_put_self]
  rfl

/-- Nothing changes at other places. -/
theorem item?_put_of_ne (h : other ≠ place) (item : FolderItem) :
    (f.put place item).item? other = f.item? other := by
  rw [item?, item?, find?_put_of_ne f h]

/-! ## The way along a path -/

/-- A step is taken from a directory. -/
theorem item?_of_step {next : Place} {name : String} (h : f.step place name = .ok next) :
    f.item? place = some .directory := by
  unfold step at h
  split at h
  next => nomatch h
  next => nomatch h
  next hitem => exact hitem

/-- A step that can be taken can still be taken when something is put where no directory is. -/
theorem step_put {name : String} {next start : Place} (hplace : f.item? place ≠ some .directory)
    (h : f.step start name = .ok next) : (f.put place item).step start name = .ok next := by
  have hne : start ≠ place := by
    rintro rfl
    exact hplace (item?_of_step h)
  rw [← h, step, step, item?_put_of_ne hne]

theorem follow_put {names : List String} {start last : Place}
    (hplace : f.item? place ≠ some .directory) (h : f.follow start names = .ok last) :
    (f.put place item).follow start names = .ok last := by
  induction names generalizing start with
  | nil => exact h
  | cons name names ih =>
    rw [follow] at h ⊢
    cases hstep : f.step start name with
    | error e => rw [hstep] at h; nomatch h
    | ok next =>
      rw [hstep] at h
      rw [step_put hplace hstep]
      exact ih h

theorem resolve_put {last : Place} (hplace : f.item? place ≠ some .directory)
    (h : f.resolve path = .ok last) : (f.put place item).resolve path = .ok last := by
  unfold resolve at h ⊢
  split at h
  next => nomatch h
  next hbad =>
    split at h
    next => nomatch h
    next hlong =>
      rw [if_neg hbad, if_neg hlong]
      split at h
      next => nomatch h
      next => exact follow_put hplace h
      next => exact follow_put hplace h

/-! ## Writing and reading -/

/-- Whether a path can be written to: it leads to a place that is no directory. -/
def CanWrite (f : Folder) (path : String) : Prop :=
  ∃ place, f.resolve path = .ok place ∧ f.item? place ≠ some .directory

theorem write_of_resolve (hresolve : f.resolve path = .ok place)
    (hplace : f.item? place ≠ some .directory) (text : String) :
    f.write path text = .ok (f.put place (.file (.text text))) := by
  rw [write, hresolve]
  simp only [bind, Except.bind]
  rfl

/-- What can be written to is what writing succeeds at. -/
theorem canWrite_iff : f.CanWrite path ↔ ∃ f', f.write path text = .ok f' := by
  constructor
  · rintro ⟨place, hresolve, hplace⟩
    exact ⟨_, write_of_resolve hresolve hplace text⟩
  · rintro ⟨f', h⟩
    unfold write at h
    cases hresolve : f.resolve path with
    | error e => rw [hresolve] at h; nomatch h
    | ok place =>
      refine ⟨place, hresolve, fun hplace => ?_⟩
      simp [hresolve, hplace, bind, Except.bind] at h

/-- What was written is read back. -/
theorem read_of_write {f' : Folder} (h : f.write path text = .ok f') : f'.read path = .ok text := by
  obtain ⟨place, hresolve, hplace⟩ := canWrite_iff.2 ⟨f', h⟩
  obtain rfl : f.put place (.file (.text text)) = f' :=
    Except.ok.inj ((write_of_resolve hresolve hplace text).symm.trans h)
  rw [read, resolve_put hplace hresolve]
  simp only [bind, Except.bind, item?_put_self hplace, FileContent.text?]
  rfl

end Ripple.Folder
