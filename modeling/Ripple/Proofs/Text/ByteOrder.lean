import Mathlib.Data.Char
import Mathlib.Data.List.Lex
import Mathlib.Data.String.Basic

/-!
# The order of texts by their bytes

Texts are compared character by character, and so in the order of their UTF-8 bytes: of two
characters the greater has the greater byte at the first place where they differ, and no
character begins with the bytes of another.
-/

namespace Ripple.Text

/-- The UTF-8 bytes of a text. -/
def bytes (s : String) : List UInt8 := s.toUTF8.data.toList

theorem bytes_eq_flatMap (s : String) : bytes s = s.toList.flatMap String.utf8EncodeChar := by
  rw [bytes, String.toUTF8_eq_toByteArray, ← String.utf8Encode_toList, List.utf8Encode,
    List.data_toByteArray, List.toList_toArray]

theorem append_lt_append_iff (front x y : List UInt8) : front ++ x < front ++ y ↔ x < y := by
  induction front with
  | nil => rfl
  | cons b rest ih => simpa [List.cons_lt_cons_iff] using ih

theorem utf8EncodeChar_append_lt {c d : Char} (h : c < d) (x y : List UInt8) :
    String.utf8EncodeChar c ++ x < String.utf8EncodeChar d ++ y := by
  have hc : c.val.isValidChar := c.valid
  have hd : d.val.isValidChar := d.valid
  have hlt : c.val.toNat < d.val.toNat := h
  have hlead (k : ℕ) : (k % 8 + 240) % 256 = k % 8 + 240 := by omega
  have hfollow (k : ℕ) : (k % 64 + 128) % 256 = k % 64 + 128 := by omega
  have htwice (k : ℕ) : k / 4096 = k / 64 / 64 := (Nat.div_div_eq_div_mul k 64 64).symm
  have hthrice (k : ℕ) : k / 262144 = k / 64 / 64 / 64 := by
    rw [Nat.div_div_eq_div_mul, Nat.div_div_eq_div_mul]
  unfold UInt32.isValidChar Nat.isValidChar at hc hd
  unfold String.utf8EncodeChar
  generalize c.val.toNat = m at *
  generalize d.val.toNat = n at *
  dsimp only
  -- one case for each pair of lengths; the first bytes differ unless the lengths agree
  split_ifs <;>
    simp [List.cons_lt_cons_iff, UInt8.lt_iff_toNat_lt, ← UInt8.toNat_inj, hlead, hfollow, htwice,
      hthrice] <;>
    omega

/-- Texts are in the order of their bytes. -/
theorem bytes_lt_bytes_iff {s t : String} : bytes s < bytes t ↔ s < t := by
  rw [bytes_eq_flatMap, bytes_eq_flatMap, String.lt_iff_toList_lt]
  generalize s.toList = s
  generalize t.toList = t
  induction s generalizing t with
  | nil =>
    cases t with
    | nil => exact iff_of_false (List.not_lt_nil _) (List.not_lt_nil _)
    | cons d t =>
      obtain ⟨b, rest, hd⟩ := List.exists_cons_of_ne_nil (String.utf8EncodeChar_ne_nil (c := d))
      rw [List.flatMap_cons, hd]
      exact iff_of_true (List.nil_lt_cons b _) (List.nil_lt_cons d t)
  | cons c s ih =>
    cases t with
    | nil => exact iff_of_false (List.not_lt_nil _) (List.not_lt_nil _)
    | cons d t =>
      rw [List.flatMap_cons, List.flatMap_cons, List.cons_lt_cons_iff]
      obtain hlt | rfl | hgt := lt_trichotomy c d
      · exact iff_of_true (utf8EncodeChar_append_lt hlt _ _) (.inl hlt)
      · rw [append_lt_append_iff, ih]
        simp
      · refine iff_of_false (List.lt_asymm (utf8EncodeChar_append_lt hgt _ _)) ?_
        rintro (hlt | ⟨rfl, -⟩)
        · exact lt_asymm hgt hlt
        · exact lt_irrefl c hgt

end Ripple.Text
