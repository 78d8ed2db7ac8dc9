import Ripple.Toml.Quoted
import Mathlib.Data.Char

/-!
# Reading quoted strings back

A quoted string is read back as it was, whatever it holds, as long as no quote stands right behind
it. In the forms with escapes every character is read back by itself, and a control character by
its code. In a block, quotes stand as they are: those that are waiting when the closing ones come
are part of the text, since there are never more than two of them.
-/

namespace Ripple.Toml

variable {c d : Char} {cs rest : List Char}

/-! ## Escapes -/

theorem hexValue?_hexDigit : ∀ n < 16, hexValue? (hexDigit n) = some n := by decide

theorem toNat_le_of_isCode (h : isCode c = true) : c.toNat ≤ 127 := by
  simp only [isCode, Bool.or_eq_true, Bool.and_eq_true, decide_eq_true_eq] at h
  omega

theorem charOf?_toNat (h : c.toNat ≤ 127) : charOf? c.toNat = some c := by
  rw [charOf?, if_pos (.inl (by omega)), Char.ofNat_toNat]

theorem eq_or_isPlain_of_not_isCode (h : isCode c = false) : c = '\n' ∨ isPlain c = true := by
  simp only [isCode, isPlain, Bool.or_eq_false_iff, Bool.and_eq_false_iff, Bool.or_eq_true,
    Bool.and_eq_true, decide_eq_false_iff_not, decide_eq_true_eq] at h ⊢
  grind

/-- What the readers of strings with escapes have in common: a letter behind a backslash stands
for a character, a code for the character that has it, and what is neither a quote nor a backslash
for itself. -/
structure ReadsEscapes (read : Spot → List Char → Option (List Char × List Char)) : Prop where
  letter : ∀ {x c rest}, escaped? x = some c → read .plain ('\\' :: x :: rest) =
    push c (read .plain rest)
  code : ∀ {x y m n c rest}, hexValue? x = some m → hexValue? y = some n →
    charOf? (16 * m + n) = some c →
    read .plain ('\\' :: 'u' :: '0' :: '0' :: x :: y :: rest) = push c (read .plain rest)
  plain : ∀ {c rest}, isPlain c = true → c ≠ '"' → c ≠ '\\' → c ≠ '\r' →
    read .plain (c :: rest) = push c (read .plain rest)

theorem readsEscapes_readBasic : ReadsEscapes readBasic where
  letter h := by simp [readBasic, h]
  code hx hy hc := by
    have hwidth : codeWidth? 'u' = some 4 := rfl
    have hletter : escaped? 'u' = none := rfl
    have hzero : hexValue? '0' = some 0 := rfl
    simp [readBasic, hwidth, hletter, hzero, hx, hy, hc]
  plain hplain hquote hbackslash _ := by
    rw [readBasic]
    · simp [hplain, hbackslash]
    · exact hquote

/-- A letter that stands for a character ends no line. -/
theorem not_gap_of_escaped? (h : escaped? d = some c) :
    d ≠ '\r' ∧ d ≠ '\n' ∧ isBlank d = false := by
  refine ⟨?_, ?_, Bool.eq_false_iff.2 fun hblank => ?_⟩
  · rintro rfl
    cases h
  · rintro rfl
    cases h
  · obtain rfl | rfl : d = ' ' ∨ d = '\t' := by simpa [isBlank] using hblank
    all_goals cases h

theorem readBasicBlock_backslash : readBasicBlock .plain ('\\' :: rest) =
    readBasicBlock .escape rest := by
  rw [readBasicBlock]
  · rw [if_pos rfl]
  all_goals intros; contradiction

theorem readsEscapes_readBasicBlock : ReadsEscapes readBasicBlock where
  letter {x c rest} h := by
    obtain ⟨hreturn, hline, hblank⟩ := not_gap_of_escaped? h
    rw [readBasicBlock_backslash, readBasicBlock]
    · simp [hline, hblank, h]
    · rintro _ rfl
      exact absurd rfl hreturn
  code {x y m n c rest} hx hy hc := by
    have hwidth : codeWidth? 'u' = some 4 := rfl
    have hletter : escaped? 'u' = none := rfl
    have hblank : isBlank 'u' = false := rfl
    have hzero : hexValue? '0' = some 0 := rfl
    rw [readBasicBlock_backslash]
    simp [readBasicBlock, hwidth, hletter, hblank, hzero, hx, hy, hc]
  plain {c rest} hplain hquote hbackslash hreturn := by
    rw [readBasicBlock]
    · simp [hplain, hbackslash]
    · rintro _ rfl
      exact absurd rfl hquote
    · rintro _ rfl
      exact absurd rfl hreturn

namespace ReadsEscapes

variable {read : Spot → List Char → Option (List Char × List Char)}

/-- A character other than a quote is read back from its escape. -/
theorem escape (h : ReadsEscapes read) (block : Bool) (hquote : c ≠ '"')
    (hline : c = '\n' → block = true → read .plain ('\n' :: rest) = push '\n' (read .plain rest)) :
    read .plain (Toml.escape block c ++ rest) = push c (read .plain rest) := by
  unfold Toml.escape
  split
  next hc => exact h.letter (by rw [hc]; rfl)
  split
  next hc => exact h.letter (by rw [hc]; rfl)
  split
  next hc =>
    split
    next hblock => simpa [hc] using hline hc hblock
    next => exact h.letter (by rw [hc]; rfl)
  split
  next hc => exact h.letter (by rw [hc]; rfl)
  split
  next hc => exact h.letter (by rw [hc]; rfl)
  split
  next hc => exact h.letter (by rw [hc]; rfl)
  split
  next hcode =>
    have hsmall := toNat_le_of_isCode hcode
    refine h.code (hexValue?_hexDigit _ (by omega)) (hexValue?_hexDigit _ (by omega)) ?_
    rw [Nat.div_add_mod, charOf?_toNat hsmall]
  next hnewline _ hreturn hbackslash hcode =>
    have hplain := (eq_or_isPlain_of_not_isCode (Bool.eq_false_iff.2 hcode)).resolve_left hnewline
    exact h.plain hplain hquote hbackslash hreturn

end ReadsEscapes

theorem escapeAll_of_ne {block : Bool} (n : Nat) (hquote : c ≠ '"') :
    escapeAll block n (c :: cs) = escape block c ++ escapeAll block 0 cs := by
  rw [escapeAll, if_neg hquote]

/-! ## On one line -/

/-- What is written with escapes on one line is read back up to the closing quote. -/
theorem readBasic_escapeAll (n : Nat) (cs rest : List Char) :
    readBasic .plain (escapeAll false n cs ++ '"' :: rest) = some (cs, rest) := by
  induction cs generalizing n with
  | nil => rfl
  | cons c cs ih =>
    by_cases hquote : c = '"'
    · subst hquote
      exact (readsEscapes_readBasic.letter rfl).trans (congrArg (push '"') (ih 0))
    · rw [escapeAll_of_ne n hquote, List.append_assoc,
        readsEscapes_readBasic.escape false hquote (by simp), ih]
      rfl

theorem readLiteral_append (h : ∀ c ∈ cs, isPlain c = true ∧ c ≠ '\'') (rest : List Char) :
    readLiteral (cs ++ '\'' :: rest) = some (cs, rest) := by
  induction cs with
  | nil => rfl
  | cons c cs ih =>
    obtain ⟨⟨hplain, hquote⟩, hcs⟩ := List.forall_mem_cons.1 h
    rw [List.cons_append, readLiteral]
    · rw [if_pos hplain, ih hcs]
      rfl
    · exact hquote

/-! ## In a block -/

/-- What the readers of blocks have in common: three quotes close the block, and one that two more
do not follow stands for itself. -/
structure ReadsBlock (mark : Char) (read : List Char → Option (List Char × List Char)) : Prop where
  close : ∀ rest, read (mark :: mark :: mark :: rest) = some (closeBlock mark rest)
  quote : ∀ {cs}, (∀ rest, cs ≠ mark :: mark :: rest) → read (mark :: cs) = push mark (read cs)

theorem readsBlock_readBasicBlock : ReadsBlock '"' (readBasicBlock .plain) where
  close _ := by rw [readBasicBlock]
  quote {cs} h := by
    rw [readBasicBlock]
    · rfl
    · exact fun rest _ hcs => h rest hcs
    · nofun

theorem readsBlock_readLiteralBlock : ReadsBlock '\'' readLiteralBlock where
  close _ := by rw [readLiteralBlock]
  quote {cs} h := by
    rw [readLiteralBlock]
    · rfl
    · exact fun rest _ hcs => h rest hcs
    · nofun

variable {mark : Char} {n : Nat}

theorem replicate_append_cons (n : Nat) (mark : Char) (cs : List Char) :
    List.replicate n mark ++ mark :: cs = List.replicate (n + 1) mark ++ cs := by
  rw [List.replicate_succ', List.append_assoc, List.singleton_append]

theorem closeBlock_of_head?_ne (hrest : rest.head? ≠ some mark) :
    closeBlock mark rest = ([], rest) := by
  match rest with
  | [] => rfl
  | [d] | d :: _ :: _ =>
    rw [closeBlock, if_neg]
    rintro rfl
    exact hrest rfl

/-- Up to two quotes behind the closing ones belong to the text. -/
theorem closeBlock_replicate_append (hn : n ≤ 2) (hrest : rest.head? ≠ some mark) :
    closeBlock mark (List.replicate n mark ++ rest) = (List.replicate n mark, rest) := by
  have hother {d : Char} {more : List Char} (hd : rest = d :: more) : d ≠ mark := by
    rintro rfl
    exact hrest (by rw [hd]; rfl)
  match n, rest with
  | 0, rest => exact closeBlock_of_head?_ne hrest
  | 1, [] => simp [closeBlock]
  | 1, d :: more => simp [closeBlock, hother rfl]
  | 2, rest => simp [closeBlock, List.replicate]

namespace ReadsBlock

variable {read : List Char → Option (List Char × List Char)} {text : List Char}

/-- Up to two quotes that wait in front of the closing ones are part of the text. -/
theorem replicate_close (h : ReadsBlock mark read) (hn : n ≤ 2) (hrest : rest.head? ≠ some mark) :
    read (List.replicate n mark ++ mark :: mark :: mark :: rest) =
      some (List.replicate n mark, rest) := by
  -- the first three quotes close the block, and what was waiting is now behind them
  rw [replicate_append_cons, replicate_append_cons, replicate_append_cons, List.replicate_succ,
    List.replicate_succ, List.replicate_succ]
  exact (h.close _).trans (congrArg some (closeBlock_replicate_append hn hrest))

/-- Up to two quotes in front of another character stand for themselves. -/
theorem replicate_append (h : ReadsBlock mark read) (hn : n ≤ 2) (hc : c ≠ mark)
    (hread : read (c :: cs) = some (text, rest)) :
    read (List.replicate n mark ++ c :: cs) = some (List.replicate n mark ++ text, rest) := by
  have hone : read (mark :: c :: cs) = some (mark :: text, rest) := by
    rw [h.quote fun _ hcs => hc (List.cons.inj hcs).1, hread]
    rfl
  have htwo : read (mark :: mark :: c :: cs) = some (mark :: mark :: text, rest) := by
    rw [h.quote fun _ hcs => hc (List.cons.inj (List.cons.inj hcs).2).1, hone]
    rfl
  obtain rfl | rfl | rfl : n = 0 ∨ n = 1 ∨ n = 2 := by omega
  · exact hread
  · exact hone
  · exact htwo

end ReadsBlock

/-- An escape begins with no quote and no return, and with a line feed only if it is one. -/
theorem exists_escape_eq_cons (block : Bool) (hquote : c ≠ '"') :
    ∃ d ds, escape block c = d :: ds ∧ d ≠ '"' ∧ d ≠ '\r' ∧ (d = '\n' → c = '\n') := by
  have hbackslash {ds : List Char} : ∃ d ds', '\\' :: ds = d :: ds' ∧ d ≠ '"' ∧ d ≠ '\r' ∧
      (d = '\n' → c = '\n') := ⟨_, _, rfl, by decide, by decide, nofun⟩
  unfold escape
  split
  next => exact hbackslash
  split
  next => exact hbackslash
  split
  next hline =>
    split
    next => exact ⟨_, _, rfl, by decide, by decide, fun _ => hline⟩
    next => exact hbackslash
  split
  next => exact hbackslash
  split
  next => exact hbackslash
  split
  next => exact hbackslash
  split
  next => exact hbackslash
  next _ _ _ _ hreturn _ _ => exact ⟨_, _, rfl, hquote, hreturn, id⟩

/-- What is written with escapes in a block is read back up to the closing quotes, with the quotes
that wait in front of it. -/
theorem readBasicBlock_escapeAll {n : Nat} (hn : n ≤ 2) (cs : List Char)
    (hrest : rest.head? ≠ some '"') :
    readBasicBlock .plain
        (List.replicate n '"' ++ (escapeAll true n cs ++ '"' :: '"' :: '"' :: rest)) =
      some (List.replicate n '"' ++ cs, rest) := by
  induction cs generalizing n with
  | nil =>
    rw [List.append_nil]
    exact readsBlock_readBasicBlock.replicate_close hn hrest
  | cons c cs ih =>
    by_cases hquote : c = '"'
    · subst hquote
      by_cases hmore : n < 2
      · have hescape : escapeAll true n ('"' :: cs) = '"' :: escapeAll true (n + 1) cs := by
          simp [escapeAll, hmore]
        rw [hescape, List.cons_append, replicate_append_cons, replicate_append_cons]
        exact ih hmore
      · have hescape : escapeAll true n ('"' :: cs) = '\\' :: '"' :: escapeAll true 0 cs := by
          simp [escapeAll, hmore]
        rw [hescape]
        refine readsBlock_readBasicBlock.replicate_append hn (by decide) ?_
        exact (readsEscapes_readBasicBlock.letter rfl).trans
          (congrArg (push '"') (ih (Nat.zero_le 2)))
    · obtain ⟨d, ds, hescape, hd, -⟩ := exists_escape_eq_cons true hquote
      have hline (rest : List Char) : readBasicBlock .plain ('\n' :: rest) =
          push '\n' (readBasicBlock .plain rest) := by
        rw [readBasicBlock]
        · rfl
        all_goals nofun
      have hread := readsEscapes_readBasicBlock.escape true hquote fun _ _ =>
        hline (escapeAll true 0 cs ++ '"' :: '"' :: '"' :: rest)
      rw [escapeAll_of_ne n hquote, List.append_assoc]
      rw [hescape] at hread ⊢
      exact readsBlock_readBasicBlock.replicate_append hn hd
        (hread.trans (congrArg (push c) (ih (Nat.zero_le 2))))

/-- A text without three quotes in a row is read back from a block without escapes, with the quotes
that wait in front of it. -/
theorem readLiteralBlock_append {n : Nat} (hplain : ∀ c ∈ cs, c = '\n' ∨ isPlain c = true)
    (hrun : longestRun '\'' n cs < 3) (hrest : rest.head? ≠ some '\'') :
    readLiteralBlock (List.replicate n '\'' ++ (cs ++ '\'' :: '\'' :: '\'' :: rest)) =
      some (List.replicate n '\'' ++ cs, rest) := by
  induction cs generalizing n with
  | nil =>
    rw [List.append_nil]
    exact readsBlock_readLiteralBlock.replicate_close (Nat.le_of_lt_succ hrun) hrest
  | cons c cs ih =>
    obtain ⟨hc, hcs⟩ := List.forall_mem_cons.1 hplain
    rw [longestRun] at hrun
    split at hrun
    next hquote =>
      subst hquote
      rw [List.cons_append, replicate_append_cons, replicate_append_cons]
      exact ih hcs hrun
    next hquote =>
      obtain ⟨hn, hrun⟩ := Nat.max_lt.1 hrun
      have hreturn : c ≠ '\r' := by
        rintro rfl
        exact hc.elim (by decide) (by decide)
      have hread : readLiteralBlock (c :: (cs ++ '\'' :: '\'' :: '\'' :: rest)) =
          push c (readLiteralBlock (cs ++ '\'' :: '\'' :: '\'' :: rest)) := by
        rw [readLiteralBlock]
        · rw [if_pos (by simpa using hc)]
        · exact fun _ hmark => absurd hmark hquote
        · exact fun _ hmark => absurd hmark hreturn
      exact readsBlock_readLiteralBlock.replicate_append (Nat.le_of_lt_succ hn) hquote
        (hread.trans (congrArg (push c) (ih (n := 0) hcs hrun)))

/-! ## In any form -/

/-- The line end behind the opening quotes of a block is all that is dropped. -/
theorem dropLineEnd_blockStart (hreturn : rest.head? ≠ some '\r')
    (hline : rest.head? = some '\n' → '\n' ∈ cs) : dropLineEnd (blockStart cs ++ rest) = rest := by
  unfold blockStart
  split
  next => rfl
  next hnone =>
    rw [List.nil_append]
    unfold dropLineEnd
    split
    · exact absurd (List.contains_iff_mem.2 (hline rfl)) hnone
    · exact absurd rfl hreturn
    · rfl

theorem readString_double (h : ∀ rest, cs ≠ '"' :: '"' :: rest) :
    readString ('"' :: cs) = asString (readBasic .plain cs) := by
  rw [readString]
  exact fun rest hcs => h rest hcs

theorem readString_single (h : ∀ rest, cs ≠ '\'' :: '\'' :: rest) :
    readString ('\'' :: cs) = asString (readLiteral cs) := by
  rw [readString]
  exact fun rest hcs => h rest hcs

/-- Two quotes in front of something else are no block. -/
theorem ne_mark_cons_mark_cons {mark : Char} (hrest : rest.head? ≠ some mark)
    (h : cs.head? ≠ some mark) (more : List Char) : cs ++ mark :: rest ≠ mark :: mark :: more := by
  intro hcs
  cases cs with
  | nil => exact hrest (by rw [(List.cons.inj hcs).2]; rfl)
  | cons d ds => exact h (by rw [(List.cons.inj hcs).1]; rfl)

/-- What is written with escapes on one line does not begin with a quote. -/
theorem head?_escapeAll_ne (n : Nat) (cs : List Char) :
    (escapeAll false n cs).head? ≠ some '"' := by
  cases cs with
  | nil => simp [escapeAll]
  | cons c cs =>
    by_cases hquote : c = '"'
    · simp [escapeAll, hquote]
    · obtain ⟨d, ds, hescape, hd, -⟩ := exists_escape_eq_cons false hquote
      rw [escapeAll_of_ne n hquote, hescape]
      simpa using hd

theorem readString_basic (cs : List Char) (hrest : rest.head? ≠ some '"') :
    readString (basic cs ++ rest) = some (String.ofList cs, rest) := by
  have hone := ne_mark_cons_mark_cons hrest (head?_escapeAll_ne 0 cs)
  rw [basic, List.append_assoc, List.singleton_append, List.cons_append,
    readString_double hone, readBasic_escapeAll]
  rfl

theorem readString_literal (h : ∀ c ∈ cs, isPlain c = true ∧ c ≠ '\'')
    (hrest : rest.head? ≠ some '\'') :
    readString (literal cs ++ rest) = some (String.ofList cs, rest) := by
  have hhead : cs.head? ≠ some '\'' := fun hcs => (h _ (List.mem_of_head? hcs)).2 rfl
  rw [literal, List.append_assoc, List.singleton_append, List.cons_append,
    readString_single (ne_mark_cons_mark_cons hrest hhead), readLiteral_append h]
  rfl

theorem readString_basicBlock (cs : List Char) (hrest : rest.head? ≠ some '"') :
    readString (basicBlock cs ++ rest) = some (String.ofList cs, rest) := by
  have hdrop : dropLineEnd (blockStart cs ++ (escapeAll true 0 cs ++ '"' :: '"' :: '"' :: rest)) =
      escapeAll true 0 cs ++ '"' :: '"' :: '"' :: rest := by
    cases cs with
    | nil => rfl
    | cons c cs =>
      by_cases hquote : c = '"'
      · refine dropLineEnd_blockStart ?_ ?_ <;> simp [escapeAll, hquote]
      · obtain ⟨d, ds, hescape, -, hreturn, hline⟩ := exists_escape_eq_cons true hquote
        rw [escapeAll_of_ne 0 hquote, hescape]
        refine dropLineEnd_blockStart (by simpa using hreturn) fun hd => ?_
        rw [hline (Option.some.inj hd)]
        exact List.mem_cons_self
  have hread := readBasicBlock_escapeAll (Nat.zero_le 2) cs hrest
  simp only [basicBlock, List.append_assoc, List.cons_append, List.nil_append, readString, hdrop]
  exact congrArg asString hread

theorem readString_literalBlock (hplain : ∀ c ∈ cs, c = '\n' ∨ isPlain c = true)
    (hrun : longestRun '\'' 0 cs < 3) (hrest : rest.head? ≠ some '\'') :
    readString (literalBlock cs ++ rest) = some (String.ofList cs, rest) := by
  have hdrop : dropLineEnd (blockStart cs ++ (cs ++ '\'' :: '\'' :: '\'' :: rest)) =
      cs ++ '\'' :: '\'' :: '\'' :: rest := by
    cases cs with
    | nil => rfl
    | cons c cs =>
      refine dropLineEnd_blockStart (fun hc => ?_) fun hc => ?_
      · obtain rfl : c = '\r' := Option.some.inj hc
        exact (hplain _ List.mem_cons_self).elim (by decide) (by decide)
      · obtain rfl : c = '\n' := Option.some.inj hc
        exact List.mem_cons_self
  have hread := readLiteralBlock_append (n := 0) hplain hrun hrest
  simp only [literalBlock, List.append_assoc, List.cons_append, List.nil_append, readString, hdrop]
  exact congrArg asString hread

/-- A written string is read back, unless a quote stands right behind it. -/
theorem readString_quote (s : String) (hdouble : rest.head? ≠ some '"')
    (hsingle : rest.head? ≠ some '\'') : readString (quote s ++ rest) = some (s, rest) := by
  have hplain (hcode : (!s.toList.any isCode) = true) :
      ∀ c ∈ s.toList, c = '\n' ∨ isPlain c = true := fun c hc =>
    eq_or_isPlain_of_not_isCode
      (Bool.eq_false_iff.2 (List.any_eq_false.1 (by simpa using hcode) c hc))
  suffices h : readString (quote s ++ rest) = some (String.ofList s.toList, rest) by
    rwa [String.ofList_toList] at h
  unfold quote
  dsimp only
  split
  next => exact readString_basic _ hdouble
  split
  next h =>
    simp only [Bool.and_eq_true] at h
    obtain ⟨⟨hcode, hline⟩, hquote⟩ := h
    refine readString_literal (fun c hc => ⟨(hplain hcode c hc).resolve_left ?_, ?_⟩) hsingle
    · rintro rfl
      simp [hc] at hline
    · rintro rfl
      simp [hc] at hquote
  split
  next => exact readString_basicBlock _ hdouble
  split
  next h =>
    simp only [Bool.and_eq_true, decide_eq_true_eq] at h
    exact readString_literalBlock (hplain h.1) h.2 hsingle
  split
  next => exact readString_basicBlock _ hdouble
  next => exact readString_basic _ hdouble

end Ripple.Toml
