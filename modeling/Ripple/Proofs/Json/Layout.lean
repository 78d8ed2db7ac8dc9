import Ripple.Proofs.Json.Spelling
import Mathlib.Data.List.Basic

/-!
# Texts of values

A compact and a pretty text of a value differ in their blanks only, so one writer that leaves the
blanks open, `layout`, stands for both. What `outline` makes out of such a text is the value
itself, closed at every level, and it stops right behind it.

This is about values without numbers. A number ends where its digits do, which what stands behind
it may change.
-/

namespace Ripple.Json

/-- A value that no number stands in. -/
inductive Numberless : Json → Prop
  | null : Numberless .null
  | bool (value : Bool) : Numberless (.bool value)
  | string (value : String) : Numberless (.string value)
  | array {items : List Json} : (∀ item ∈ items, Numberless item) → Numberless (.array items)
  | object {members : List (String × Json)} : (∀ m ∈ members, Numberless m.2) →
      Numberless (.object members)

/-! ## The outline of a value -/

mutual

/-- The outline of a value that does not break off. -/
def toOutline : Json → Outline
  | .null => .null
  | .bool value => .bool value
  | .number n => .number ⟨false, (Nat.toDigits 10 n).map digitValue, none, none⟩
  | .string value => .string ⟨value, none⟩
  | .array items => .array (outlinesOf items) .closed
  | .object members => .object (outlinesOfMembers members) .closed

/-- The outlines of the items of an array. -/
def outlinesOf : List Json → List Outline
  | [] => []
  | item :: rest => item.toOutline :: outlinesOf rest

/-- The outlines of the members of an object. -/
def outlinesOfMembers : List (String × Json) → List (Text × Outline)
  | [] => []
  | (key, value) :: rest => (⟨key, none⟩, value.toOutline) :: outlinesOfMembers rest

end

/-! ## Layouts -/

section layout

variable (line : Nat → List Char) (gap : List Char)

mutual

/-- The text of a value inside `level` others, with `line` in front of each item and of each
closing bracket, and `gap` in front of the value of a member. -/
def layout (level : Nat) : Json → List Char
  | .null => ['n', 'u', 'l', 'l']
  | .bool true => ['t', 'r', 'u', 'e']
  | .bool false => ['f', 'a', 'l', 's', 'e']
  | .number n => Nat.toDigits 10 n
  | .string s => quote s
  | .array [] => ['[', ']']
  | .array (first :: rest) =>
    '[' :: (line (level + 1) ++ (layout (level + 1) first ++ layoutItems level rest))
  | .object [] => ['\x7b', '\x7d']
  | .object ((key, value) :: rest) =>
    '\x7b' :: (line (level + 1) ++ (quote key ++ ':' :: (gap ++
      (layout (level + 1) value ++ layoutMembers level rest))))

/-- The items of an array after the first, with the closing bracket. -/
def layoutItems (level : Nat) : List Json → List Char
  | [] => line level ++ [']']
  | item :: rest =>
    ',' :: (line (level + 1) ++ (layout (level + 1) item ++ layoutItems level rest))

/-- The members of an object after the first, with the closing brace. -/
def layoutMembers (level : Nat) : List (String × Json) → List Char
  | [] => line level ++ ['\x7d']
  | (key, value) :: rest =>
    ',' :: (line (level + 1) ++ (quote key ++ ':' :: (gap ++
      (layout (level + 1) value ++ layoutMembers level rest))))

end

end layout

mutual

theorem compactChars_eq_layout (level : Nat) :
    ∀ j : Json, j.compactChars = layout (fun _ => []) [] level j
  | .null | .bool true | .bool false | .number _ | .string _ | .array [] | .object [] => rfl
  | .array (first :: rest) => by
    simp [compactChars, layout, compactChars_eq_layout (level + 1) first,
      compactItems_eq_layoutItems level rest]
  | .object ((key, value) :: rest) => by
    simp [compactChars, layout, compactChars_eq_layout (level + 1) value,
      compactMembers_eq_layoutMembers level rest]

theorem compactItems_eq_layoutItems (level : Nat) :
    ∀ items, compactItems items = layoutItems (fun _ => []) [] level items
  | [] => rfl
  | item :: rest => by
    simp [compactItems, layoutItems, compactChars_eq_layout (level + 1) item,
      compactItems_eq_layoutItems level rest]

theorem compactMembers_eq_layoutMembers (level : Nat) :
    ∀ members, compactMembers members = layoutMembers (fun _ => []) [] level members
  | [] => rfl
  | (key, value) :: rest => by
    simp [compactMembers, layoutMembers, compactChars_eq_layout (level + 1) value,
      compactMembers_eq_layoutMembers level rest]

end

mutual

theorem prettyChars_eq_layout (level : Nat) :
    ∀ j : Json, j.prettyChars level = layout newLine [' '] level j
  | .null | .bool true | .bool false | .number _ | .string _ | .array [] | .object [] => rfl
  | .array (first :: rest) => by
    simp [prettyChars, layout, prettyChars_eq_layout (level + 1) first,
      prettyItems_eq_layoutItems level rest]
  | .object ((key, value) :: rest) => by
    simp [prettyChars, layout, prettyChars_eq_layout (level + 1) value,
      prettyMembers_eq_layoutMembers level rest]

theorem prettyItems_eq_layoutItems (level : Nat) :
    ∀ items, prettyItems level items = layoutItems newLine [' '] level items
  | [] => rfl
  | item :: rest => by
    simp [prettyItems, layoutItems, prettyChars_eq_layout (level + 1) item,
      prettyItems_eq_layoutItems level rest]

theorem prettyMembers_eq_layoutMembers (level : Nat) :
    ∀ members, prettyMembers level members = layoutMembers newLine [' '] level members
  | [] => rfl
  | (key, value) :: rest => by
    simp [prettyMembers, layoutMembers, prettyChars_eq_layout (level + 1) value,
      prettyMembers_eq_layoutMembers level rest]

end

/-! ## Reading a layout -/

section outline

variable {line : Nat → List Char} {gap : List Char} {j : Json}

theorem dropBlanks_append {blanks : List Char} (h : ∀ b ∈ blanks, isBlank b = true)
    (cs : List Char) : dropBlanks (blanks ++ cs) = dropBlanks cs :=
  List.dropWhile_append_of_pos h

theorem outline_append {blanks : List Char} (h : ∀ b ∈ blanks, isBlank b = true) (fuel : Nat)
    (cs : List Char) : outline fuel (blanks ++ cs) = outline fuel cs := by
  cases fuel with
  | zero => rfl
  | succ fuel => simp only [outline, dropBlanks_append h]

/-- A layout begins with something to be seen that closes nothing. -/
theorem exists_layout_eq_cons (line : Nat → List Char) (gap : List Char) (h : j.Numberless)
    (level : Nat) :
    ∃ c cs, layout line gap level j = c :: cs ∧ isBlank c = false ∧ c ≠ ']' := by
  cases h with
  | null | string => exact ⟨_, _, rfl, by decide, by decide⟩
  | bool value => cases value <;> exact ⟨_, _, rfl, by decide, by decide⟩
  | @array items _ => cases items <;> exact ⟨_, _, rfl, by decide, by decide⟩
  | @object members _ => cases members <;> exact ⟨_, _, rfl, by decide, by decide⟩

/-! ### Items -/

variable {fuel level : Nat} {first : Bool} {c : Char} {cs rest : List Char}
variable {item value : Json} {key : String}

theorem outlineItems_close (h : dropBlanks cs = ']' :: rest) :
    outlineItems (fuel + 1) first cs = ([], .closed, some rest) := by
  simp only [outlineItems, h]

theorem outlineItems_first (h : dropBlanks cs = c :: rest) (hc : c ≠ ']') :
    outlineItems (fuel + 1) true cs = outlineItem fuel (c :: rest) := by
  simp only [outlineItems, h, if_true]

theorem outlineItems_comma (h : dropBlanks cs = c :: rest) (hc : c ≠ ']') :
    outlineItems (fuel + 1) false (',' :: cs) = outlineItem fuel (c :: rest) := by
  have hcomma : dropBlanks (',' :: cs) = ',' :: cs := rfl
  simp [outlineItems, hcomma, h, hc]

/-! ### Members -/

theorem outlineMembers_close (h : dropBlanks cs = '\x7d' :: rest) :
    outlineMembers (fuel + 1) first cs = ([], .closed, some rest) := by
  simp only [outlineMembers, h]

theorem outlineMembers_first (h : dropBlanks cs = '"' :: rest) :
    outlineMembers (fuel + 1) true cs = outlineMember fuel rest := by
  simp [outlineMembers, h]

theorem outlineMembers_comma (h : dropBlanks cs = '"' :: rest) :
    outlineMembers (fuel + 1) false (',' :: cs) = outlineMember fuel rest := by
  have hcomma : dropBlanks (',' :: cs) = ',' :: cs := rfl
  simp [outlineMembers, hcomma, h]

/-! ### Values -/

theorem exists_eq_add_three (h : j.Numberless)
    (hfuel : 3 * (layout line gap level j).length ≤ fuel) : ∃ n, fuel = n + 3 := by
  obtain ⟨c, cs, hcs, -⟩ := exists_layout_eq_cons line gap h level
  rw [hcs, List.length_cons] at hfuel
  exact Nat.exists_eq_add_of_le' (by omega)

theorem outline_bracket : outline (fuel + 1) ('[' :: cs) =
    (.array (outlineItems fuel true cs).1 (outlineItems fuel true cs).2.1,
      (outlineItems fuel true cs).2.2) := rfl

theorem outline_brace : outline (fuel + 1) ('\x7b' :: cs) =
    (.object (outlineMembers fuel true cs).1 (outlineMembers fuel true cs).2.1,
      (outlineMembers fuel true cs).2.2) := rfl

theorem outline_quote (s : String) :
    outline (fuel + 1) (quote s ++ rest) = (.string ⟨s, none⟩, some rest) := by
  have hquote : outline (fuel + 1) (quote s ++ rest) =
      stringOutline (s.toList.flatMap escape ++ ['"'] ++ rest) := rfl
  rw [hquote, List.append_assoc, List.singleton_append, stringOutline, spell_flatMap_escape]
  simp only [Spell.text, String.ofList_toList]

/-- Whether `outline` makes a value out of its layout, given three steps for each character, and
stops right behind it. -/
def IsMadeOut (line : Nat → List Char) (gap : List Char) (j : Json) : Prop :=
  ∀ level fuel rest, 3 * (layout line gap level j).length ≤ fuel →
    outline fuel (layout line gap level j ++ rest) = (j.toOutline, some rest)

theorem outlineItem_layout (h : IsMadeOut line gap item)
    (hfuel : 3 * (layout line gap level item).length ≤ fuel) :
    outlineItem (fuel + 1) (layout line gap level item ++ cs) =
      (item.toOutline :: (outlineItems fuel false cs).1, (outlineItems fuel false cs).2) := by
  simp only [outlineItem, h level fuel cs hfuel]

/-- A member is made out behind the quote of its key. -/
theorem outlineMember_layout (hgap : ∀ b ∈ gap, isBlank b = true) (h : IsMadeOut line gap value)
    (hfuel : 3 * (layout line gap level value).length ≤ fuel) :
    outlineMember (fuel + 1) (key.toList.flatMap escape ++
        '"' :: ':' :: (gap ++ (layout line gap level value ++ cs))) =
      ((⟨key, none⟩, value.toOutline) :: (outlineMembers fuel false cs).1,
        (outlineMembers fuel false cs).2) := by
  have hcolon : dropBlanks (':' :: (gap ++ (layout line gap level value ++ cs))) =
      ':' :: (gap ++ (layout line gap level value ++ cs)) := rfl
  simp [outlineMember, spell_flatMap_escape, hcolon, outline_append hgap, h level fuel cs hfuel,
    Spell.text]

section blanks

variable (hline : ∀ level, ∀ b ∈ line level, isBlank b = true)
  (hgap : ∀ b ∈ gap, isBlank b = true)

include hline

/-- Blanks in front of a layout are all that is dropped. -/
theorem exists_dropBlanks_eq_cons (gap : List Char) (h : j.Numberless) (level : Nat)
    (cs : List Char) :
    ∃ c rest, dropBlanks (line level ++ (layout line gap level j ++ cs)) = c :: rest ∧
      layout line gap level j ++ cs = c :: rest ∧ c ≠ ']' := by
  obtain ⟨c, rest, hrest, hblank, hc⟩ := exists_layout_eq_cons line gap h level
  refine ⟨c, rest ++ cs, ?_, by rw [hrest, List.cons_append], hc⟩
  rw [dropBlanks_append (hline level), hrest]
  exact List.dropWhile_cons_of_neg (Bool.eq_false_iff.1 hblank)

theorem outlineItems_layoutItems {items : List Json} (hplain : ∀ item ∈ items, item.Numberless)
    (hmade : ∀ item ∈ items, IsMadeOut line gap item)
    (hfuel : 3 * (layoutItems line gap level items).length ≤ fuel) :
    outlineItems fuel false (layoutItems line gap level items ++ rest) =
      (outlinesOf items, .closed, some rest) := by
  induction items generalizing fuel with
  | nil =>
    rw [layoutItems] at hfuel ⊢
    obtain ⟨n, rfl⟩ := Nat.exists_eq_add_of_le' (show 1 ≤ fuel by simp at hfuel; omega)
    rw [List.append_assoc]
    exact outlineItems_close (dropBlanks_append (hline level) _)
  | cons item others ih =>
    obtain ⟨hitem, hothers⟩ := List.forall_mem_cons.1 hmade
    obtain ⟨hplain, hplains⟩ := List.forall_mem_cons.1 hplain
    rw [layoutItems] at hfuel ⊢
    simp only [List.length_cons, List.length_append] at hfuel
    obtain ⟨n, rfl⟩ := Nat.exists_eq_add_of_le' (show 2 ≤ fuel by omega)
    obtain ⟨c, cs, hdrop, hcs, hc⟩ := exists_dropBlanks_eq_cons hline gap hplain (level + 1)
      (layoutItems line gap level others ++ rest)
    simp only [List.cons_append, List.append_assoc]
    rw [outlineItems_comma hdrop hc, ← hcs, outlineItem_layout hitem (by omega),
      ih hplains hothers (by omega), outlinesOf]

include hgap

theorem outlineMembers_layoutMembers {members : List (String × Json)}
    (hmade : ∀ m ∈ members, IsMadeOut line gap m.2)
    (hfuel : 3 * (layoutMembers line gap level members).length ≤ fuel) :
    outlineMembers fuel false (layoutMembers line gap level members ++ rest) =
      (outlinesOfMembers members, .closed, some rest) := by
  induction members generalizing fuel with
  | nil =>
    rw [layoutMembers] at hfuel ⊢
    obtain ⟨n, rfl⟩ := Nat.exists_eq_add_of_le' (show 1 ≤ fuel by simp at hfuel; omega)
    rw [List.append_assoc]
    exact outlineMembers_close (dropBlanks_append (hline level) _)
  | cons m others ih =>
    obtain ⟨key, value⟩ := m
    obtain ⟨hvalue, hothers⟩ : IsMadeOut line gap value ∧ ∀ m ∈ others, IsMadeOut line gap m.2 :=
      List.forall_mem_cons.1 hmade
    rw [layoutMembers] at hfuel ⊢
    simp only [List.length_cons, List.length_append] at hfuel
    obtain ⟨n, rfl⟩ := Nat.exists_eq_add_of_le' (show 2 ≤ fuel by omega)
    simp only [quote, List.cons_append, List.append_assoc, List.nil_append]
    rw [outlineMembers_comma (dropBlanks_append (hline (level + 1)) _),
      outlineMember_layout hgap hvalue (by omega), ih hothers (by omega), outlinesOfMembers]

/-- A value without numbers is made out of its layout. -/
theorem isMadeOut_of_numberless (h : j.Numberless) : IsMadeOut line gap j := by
  induction h with
  | null =>
    intro level fuel rest hfuel
    obtain ⟨n, rfl⟩ := exists_eq_add_three .null hfuel
    rfl
  | bool value =>
    intro level fuel rest hfuel
    obtain ⟨n, rfl⟩ := exists_eq_add_three (.bool value) hfuel
    cases value <;> rfl
  | string value =>
    intro level fuel rest hfuel
    obtain ⟨n, rfl⟩ := exists_eq_add_three (.string value) hfuel
    exact outline_quote value
  | @array items hplain ih =>
    intro level fuel rest hfuel
    obtain ⟨n, rfl⟩ := exists_eq_add_three (.array hplain) hfuel
    cases items with
    | nil => rfl
    | cons first others =>
      obtain ⟨hplain, hplains⟩ := List.forall_mem_cons.1 hplain
      obtain ⟨hfirst, hothers⟩ := List.forall_mem_cons.1 ih
      rw [layout] at hfuel ⊢
      simp only [List.length_cons, List.length_append] at hfuel
      obtain ⟨c, cs, hdrop, hcs, hc⟩ := exists_dropBlanks_eq_cons hline gap hplain (level + 1)
        (layoutItems line gap level others ++ rest)
      simp only [List.cons_append, List.append_assoc]
      rw [outline_bracket, outlineItems_first hdrop hc, ← hcs,
        outlineItem_layout hfirst (by omega),
        outlineItems_layoutItems hline hplains hothers (by omega), toOutline, outlinesOf]
  | @object members hplain ih =>
    intro level fuel rest hfuel
    obtain ⟨n, rfl⟩ := exists_eq_add_three (.object hplain) hfuel
    cases members with
    | nil => rfl
    | cons first others =>
      obtain ⟨key, value⟩ := first
      obtain ⟨hvalue, hothers⟩ : IsMadeOut line gap value ∧ ∀ m ∈ others, IsMadeOut line gap m.2 :=
        List.forall_mem_cons.1 ih
      rw [layout] at hfuel ⊢
      simp only [List.length_cons, List.length_append] at hfuel
      simp only [quote, List.cons_append, List.append_assoc, List.nil_append]
      rw [outline_brace, outlineMembers_first (dropBlanks_append (hline (level + 1)) _),
        outlineMember_layout hgap hvalue (by omega),
        outlineMembers_layoutMembers hline hgap hothers (by omega), toOutline, outlinesOfMembers]

end blanks

/-! ### Whole texts -/

theorem ofText_layout (hline : ∀ level, ∀ b ∈ line level, isBlank b = true)
    (hgap : ∀ b ∈ gap, isBlank b = true) (h : j.Numberless) :
    Outline.ofText (String.ofList (layout line gap 0 j)) = (j.toOutline, some []) := by
  rw [Outline.ofText, String.toList_ofList, String.length_ofList]
  have hmade := isMadeOut_of_numberless hline hgap h 0
    (3 * (layout line gap 0 j).length + 3) [] (Nat.le_add_right _ _)
  rwa [List.append_nil] at hmade

theorem ofText_compact (h : j.Numberless) : Outline.ofText j.compact = (j.toOutline, some []) := by
  rw [compact, compactChars_eq_layout 0]
  exact ofText_layout (fun _ _ hb => nomatch hb) (fun _ hb => nomatch hb) h

theorem ofText_pretty (h : j.Numberless) : Outline.ofText j.pretty = (j.toOutline, some []) := by
  rw [pretty, prettyChars_eq_layout 0]
  refine ofText_layout (fun level b hb => ?_) (fun b hb => ?_) h
  · obtain rfl | hb := List.mem_cons.1 hb
    · rfl
    · rw [List.eq_of_mem_replicate hb]
      rfl
  · rw [List.mem_singleton.1 hb]
    rfl

end outline

end Ripple.Json
