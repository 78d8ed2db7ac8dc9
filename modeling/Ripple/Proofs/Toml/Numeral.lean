import Ripple.Toml.Reader
import Mathlib.Data.List.Basic
import Mathlib.Data.List.TakeDrop
import Mathlib.Data.List.TakeWhile

/-!
# Reading counts back

The decimal digits of a number are one word, which is no truth value, no float and no moment. It is
read back as that number, unless the number is greater than the greatest integer.
-/

namespace Ripple.Toml

variable {cs rest : List Char} {p : Char → Bool}

/-! ## The longest word -/

theorem takeWhile_append_of_stop (h : ∀ c ∈ cs, p c = true)
    (hstop : ∀ c, rest.head? = some c → p c = false) : (cs ++ rest).takeWhile p = cs := by
  rw [List.takeWhile_append_of_pos h]
  cases rest with
  | nil => exact List.append_nil cs
  | cons c rest => rw [List.takeWhile_cons_of_neg (by simp [hstop c rfl]), List.append_nil]

theorem dropWhile_append_of_stop (h : ∀ c ∈ cs, p c = true)
    (hstop : ∀ c, rest.head? = some c → p c = false) : (cs ++ rest).dropWhile p = rest := by
  rw [List.dropWhile_append_of_pos h]
  cases rest with
  | nil => rfl
  | cons c rest => rw [List.dropWhile_cons_of_neg (by simp [hstop c rfl])]

/-! ## Words of digits -/

section Digits

variable (h : ∀ c ∈ cs, c.isDigit = true)

include h

theorem not_mem_of_isDigit {c : Char} (hc : c.isDigit = false) : c ∉ cs := fun hmem =>
  Bool.false_ne_true (hc.symm.trans (h c hmem))

theorem ungroup_of_isDigit (hne : cs ≠ []) : ungroup Char.isDigit cs = some cs := by
  induction cs with
  | nil => exact absurd rfl hne
  | cons c cs ih =>
    obtain ⟨hc, hcs⟩ := List.forall_mem_cons.1 h
    cases cs with
    | nil => simp [ungroup, hc]
    | cons d ds =>
      rw [ungroup, if_pos hc, ih hcs (List.cons_ne_nil d ds)]
      · rfl
      · nofun
      · rintro _ ⟨rfl, rfl⟩
        exact absurd (hcs '_' List.mem_cons_self) (by decide)

theorem number_of_isDigit : number 10 cs = Nat.ofDigitChars 10 cs 0 := by
  rw [number, Nat.ofDigitChars_eq_foldl]
  refine List.foldl_ext _ _ _ fun n c hc => ?_
  rw [digitOf, if_pos (h c hc)]

theorem splitSign_of_isDigit : splitSign cs = (false, cs) := by
  have hplus := not_mem_of_isDigit h (c := '+') rfl
  have hminus := not_mem_of_isDigit h (c := '-') rfl
  unfold splitSign
  split
  · exact absurd List.mem_cons_self hplus
  · exact absurd List.mem_cons_self hminus
  · rfl

theorem isFloat_of_isDigit : isFloat cs = false := by
  have hnot {c : Char} (hc : c.isDigit = false) : ∀ d ∈ cs, d ≠ c := by
    rintro d hd rfl
    exact not_mem_of_isDigit h hc hd
  have hpoint : ∀ c ∈ cs, decide (c ≠ '.') = true := fun c hc => decide_eq_true (hnot rfl c hc)
  have hmark : ∀ c ∈ cs, (!(decide (c = 'e') || decide (c = 'E'))) = true := fun c hc => by
    simp [hnot (c := 'e') rfl c hc, hnot (c := 'E') rfl c hc]
  have hspecial : ¬(decide (cs = ['i', 'n', 'f']) || decide (cs = ['n', 'a', 'n'])) = true := by
    rw [Bool.or_eq_true, decide_eq_true_eq, decide_eq_true_eq]
    rintro (rfl | rfl)
    · exact hnot (c := 'i') rfl 'i' List.mem_cons_self rfl
    · exact hnot (c := 'n') rfl 'n' List.mem_cons_self rfl
  unfold isFloat
  simp only [splitSign_of_isDigit h, if_neg hspecial, List.span_eq_takeWhile_dropWhile,
    List.takeWhile_eq_self_iff.2 hmark, List.dropWhile_eq_nil_iff.2 hmark,
    List.takeWhile_eq_self_iff.2 hpoint, List.dropWhile_eq_nil_iff.2 hpoint]
  cases wholeDigits? cs <;> rfl

theorem isMoment_of_isDigit : isMoment cs = false := by
  have htime : isTime cs = false := by
    unfold isTime
    split
    · exact absurd (by simp) (not_mem_of_isDigit h (c := ':') rfl)
    · rfl
  have hdate : isDate (cs.take 10) = false := by
    unfold isDate
    split
    next htake =>
      have hminus : '-' ∈ cs.take 10 := by simp [htake]
      exact absurd (List.mem_of_mem_take hminus) (not_mem_of_isDigit h rfl)
    · rfl
  rw [isMoment, htime, hdate]
  rfl

theorem integer?_of_isDigit : integer? cs =
    (wholeDigits? cs).bind fun digits => inRange false (number 10 digits) := by
  have hletter {c : Char} (hc : c.isDigit = false) (more : List Char) : cs ≠ '0' :: c :: more := by
    rintro rfl
    exact not_mem_of_isDigit h hc (by simp)
  rw [integer?]
  · simp only [splitSign_of_isDigit h]
  · exact hletter rfl
  · exact hletter rfl
  · exact hletter rfl

theorem ofWord?_of_isDigit : Item.ofWord? cs = (integer? cs).map .integer := by
  have htrue : cs ≠ ['t', 'r', 'u', 'e'] := by
    rintro rfl
    exact absurd (h 't' List.mem_cons_self) (by decide)
  have hfalse : cs ≠ ['f', 'a', 'l', 's', 'e'] := by
    rintro rfl
    exact absurd (h 'f' List.mem_cons_self) (by decide)
  rw [Item.ofWord?, if_neg]
  simp [htrue, hfalse, isFloat_of_isDigit h, isMoment_of_isDigit h]

end Digits

/-! ## The digits of a number -/

section Number

variable (n : Nat)

theorem isDigit_toDigits : ∀ c ∈ Nat.toDigits 10 n, c.isDigit = true :=
  fun _ => Nat.isDigit_of_mem_toDigits (by decide) (by decide)

/-- No number of two or more digits begins with a zero. -/
theorem toDigits_ne_zero_cons (d : Char) (ds : List Char) : Nat.toDigits 10 n ≠ '0' :: d :: ds := by
  induction n using Nat.strongRecOn generalizing d ds with
  | ind n ih =>
    rw [Nat.toDigits_eq_if (by decide)]
    split
    next => simp
    next hn =>
      intro hdigits
      cases hfront : Nat.toDigits 10 (n / 10) with
      | nil => exact Nat.toDigits_ne_nil hfront
      | cons c cs =>
        obtain rfl : c = '0' := by simpa [hfront] using congrArg List.head? hdigits
        cases cs with
        | nil =>
          have hzero := Nat.ofDigitChars_ten_toDigits (n := n / 10)
          rw [hfront] at hzero
          exact hn (Nat.div_eq_zero_iff.1 hzero.symm |>.resolve_left (by decide))
        | cons d ds => exact ih (n / 10) (by omega) d ds hfront

theorem wholeDigits?_toDigits : wholeDigits? (Nat.toDigits 10 n) = some (Nat.toDigits 10 n) := by
  rw [wholeDigits?, ungroup_of_isDigit (isDigit_toDigits n) Nat.toDigits_ne_nil]
  split
  next hdigits => exact absurd (Option.some.inj hdigits) (toDigits_ne_zero_cons n _ _)
  next => rfl

theorem ofWord?_toDigits : Item.ofWord? (Nat.toDigits 10 n) =
    if n ≤ integerMax then some (.integer n) else none := by
  have hdigits := isDigit_toDigits n
  rw [ofWord?_of_isDigit hdigits, integer?_of_isDigit hdigits, wholeDigits?_toDigits,
    Option.bind_some, number_of_isDigit hdigits, Nat.ofDigitChars_ten_toDigits, inRange,
    if_neg Bool.false_ne_true]
  split <;> rfl

end Number

/-- A written count is read back up to the end of its line. -/
theorem readWord_toDigits {n : Nat} (hn : n ≤ integerMax) (rest : List Char) :
    readWord (Nat.toDigits 10 n ++ '\n' :: rest) = some (.integer n, '\n' :: rest) := by
  have hword : ∀ c ∈ Nat.toDigits 10 n, isWordChar c = true := fun c hc => by
    simp [isWordChar, Char.isAlphanum, isDigit_toDigits n c hc]
  have hstop : ∀ c, ('\n' :: rest).head? = some c → isWordChar c = false := by
    rintro _ ⟨⟩
    rfl
  rw [readWord, takeWhile_append_of_stop hword hstop, dropWhile_append_of_stop hword hstop,
    ofWord?_toDigits, if_pos hn]
  rfl

end Ripple.Toml
