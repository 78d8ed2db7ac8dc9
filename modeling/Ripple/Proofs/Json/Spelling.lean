import Ripple.Json
import Ripple.Json.Outline

/-!
# Strings between quotes

Each character of a written string is read back as itself, whatever stands behind it: as it is,
behind a backslash, or as the code of a control character.
-/

namespace Ripple.Json

variable {c x y : Char} {n : Nat} {rest : List Char}

theorem hexValue4?_hexDigit : ∀ n < 32,
    hexValue4? '0' '0' (hexDigit (n / 16)) (hexDigit (n % 16)) = some n := by decide

/-- A code that is no half of a surrogate pair stands for a character. -/
theorem spell_code (hcode : hexValue4? '0' '0' x y = some n) (hlead : isLead n = false)
    (htrail : isTrail n = false) :
    spell ('\\' :: 'u' :: '0' :: '0' :: x :: y :: rest) = (spell rest).push (Char.ofNat n) := by
  -- a code behind it is looked at in case the two are a pair
  by_cases hnext : ∃ e f g h others, rest = '\\' :: 'u' :: e :: f :: g :: h :: others
  · obtain ⟨e, f, g, h, others, rfl⟩ := hnext
    rw [spell]
    simp only [hcode, hlead, htrail, Bool.false_eq_true, if_false]
  · have hnext' (e f g h : Char) (others : List Char) :
        rest ≠ '\\' :: 'u' :: e :: f :: g :: h :: others := fun hrest =>
      hnext ⟨e, f, g, h, others, hrest⟩
    rw [spell]
    · simp only [hcode, hlead, htrail, Bool.false_eq_true, if_false]
    · exact hnext'

/-- A letter behind a backslash stands for a character. -/
theorem spell_unescape (hletter : unescape? x = some c) (hcode : x ≠ 'u') :
    spell ('\\' :: x :: rest) = (spell rest).push c := by
  rw [spell]
  · simp only [hletter]
  all_goals intros; contradiction

theorem spell_plain (hquote : c ≠ '"') (hbackslash : c ≠ '\\') (hcontrol : 32 ≤ c.toNat) :
    spell (c :: rest) = (spell rest).push c := by
  rw [spell]
  · rw [if_neg (Nat.not_lt.2 hcontrol)]
  all_goals intros; contradiction

theorem spell_escape (c : Char) (rest : List Char) :
    spell (escape c ++ rest) = (spell rest).push c := by
  have hcode {n : Nat} (h : c.toNat = n) : c = Char.ofNat n := by rw [← h, Char.ofNat_toNat]
  unfold escape
  split
  next h => exact spell_unescape (by rw [h]; rfl) (by decide)
  split
  next h => exact spell_unescape (by rw [h]; rfl) (by decide)
  split
  next h => exact spell_unescape (by rw [h]; rfl) (by decide)
  split
  next h => exact spell_unescape (by rw [h]; rfl) (by decide)
  split
  next h => exact spell_unescape (by rw [h]; rfl) (by decide)
  split
  next h => exact spell_unescape (by rw [hcode h]; rfl) (by decide)
  split
  next h => exact spell_unescape (by rw [hcode h]; rfl) (by decide)
  split
  next h =>
    have hsmall : ∀ n < 32, isLead n = false ∧ isTrail n = false := by decide
    obtain ⟨hlead, htrail⟩ := hsmall _ h
    refine (spell_code (hexValue4?_hexDigit _ h) hlead htrail).trans ?_
    rw [Char.ofNat_toNat]
    rfl
  next hquote hbackslash _ _ _ _ _ h => exact spell_plain hquote hbackslash (Nat.not_lt.1 h)

/-- What was written between quotes is read back, whatever stands behind it. -/
theorem spell_flatMap_escape (cs rest : List Char) :
    spell (cs.flatMap escape ++ '"' :: rest) = ⟨cs, none, .ok rest⟩ := by
  induction cs with
  | nil => rw [List.flatMap_nil, List.nil_append, spell]
  | cons c cs ih =>
    rw [List.flatMap_cons, List.append_assoc, spell_escape, ih]
    rfl

end Ripple.Json
