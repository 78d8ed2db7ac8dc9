import Ripple.Toml.Layout
import Ripple.Proofs.Toml.Numeral
import Ripple.Proofs.Toml.Quoting

/-!
# Reading a written document back

A document that is laid out in stanzas is read back as the lines that its stanzas mean, provided
that its keys need no quotes. Every lemma is about what is written with any text behind it, so that
they add up: values and keys to a line, lines to a stanza, stanzas to a document.
-/

namespace Ripple.Toml

variable {cs rest : List Char}

/-! ## Values -/

theorem dropGap_newline (cs : List Char) : dropGap false ('\n' :: cs) = dropGap false cs := by
  rw [dropGap]
  · rfl
  · nofun

theorem dropGap_space (cs : List Char) : dropGap false (' ' :: cs) = dropGap false cs := by
  rw [dropGap]
  · rfl
  · nofun

/-- A gap ends where something is said. -/
theorem dropGap_of_said {c : Char} (h : c ≠ '\r' ∧ c ≠ '\n' ∧ c ≠ '#' ∧ isBlank c = false)
    (cs : List Char) : dropGap false (c :: cs) = c :: cs := by
  obtain ⟨hreturn, hline, hcomment, hblank⟩ := h
  rw [dropGap]
  · simp [hline, hcomment, hblank]
  · exact fun _ hc _ => hreturn hc

theorem exists_quote_eq_cons (s : String) :
    ∃ mark cs, quote s = mark :: cs ∧ (mark = '"' ∨ mark = '\'') := by
  unfold quote
  dsimp only
  repeat' split
  all_goals exact ⟨_, _, rfl, by decide⟩

theorem dropGap_quote (s : String) (rest : List Char) :
    dropGap false (quote s ++ rest) = quote s ++ rest := by
  obtain ⟨mark, cs, hquote, rfl | rfl⟩ := exists_quote_eq_cons s
  all_goals
    rw [hquote]
    exact dropGap_of_said (by decide) _

theorem readItem_quote (room : Nat) (s : String) (hdouble : rest.head? ≠ some '"')
    (hsingle : rest.head? ≠ some '\'') :
    readItem room (quote s ++ rest) = some (.string s, rest) := by
  have hread := readString_quote s hdouble hsingle
  obtain ⟨mark, cs, hquote, rfl | rfl⟩ := exists_quote_eq_cons s
  all_goals
    rw [hquote, List.cons_append] at hread ⊢
    rw [readItem]
    · simp [hread]
    · nofun
    · nofun

theorem readItem_toDigits {n : Nat} (hn : n ≤ integerMax) (room : Nat) (rest : List Char) :
    readItem room (Nat.toDigits 10 n ++ '\n' :: rest) = some (.integer n, '\n' :: rest) := by
  have hread := readWord_toDigits hn rest
  have hdigits := isDigit_toDigits n
  obtain ⟨c, cs, hcs⟩ := List.exists_cons_of_ne_nil (Nat.toDigits_ne_nil (n := n) (b := 10))
  rw [hcs] at hdigits
  have hnot {d : Char} (hd : d.isDigit = false) : c ≠ d := by
    rintro rfl
    exact not_mem_of_isDigit hdigits hd List.mem_cons_self
  rw [hcs, List.cons_append] at hread ⊢
  rw [readItem]
  · simp only [List.head?_cons]
    split
    next heq => exact absurd (Option.some.inj heq) (hnot rfl)
    next heq => exact absurd (Option.some.inj heq) (hnot rfl)
    next => exact hread
  · exact fun _ _ _ hc => hnot rfl (List.cons.inj hc).1
  · exact fun _ _ _ hc => hnot rfl (List.cons.inj hc).1

/-- Where the items of an array begin makes no difference to what they are. -/
theorem readItems_congr {ds : List Char} (h : dropGap false cs = dropGap false ds) (room n : Nat) :
    readItems (readItem room) n cs = readItems (readItem room) n ds := by
  cases n with
  | zero => rfl
  | succ n => simp only [readItems, h]

theorem readItems_quote (room n : Nat) (s : String) (rest : List Char) :
    readItems (readItem room) (n + 1) (quote s ++ ',' :: rest) =
      (readItems (readItem room) n rest).map fun (items, rest) => (.string s :: items, rest) := by
  have hread : readItem room (quote s ++ ',' :: rest) = some (.string s, ',' :: rest) :=
    readItem_quote room s (by simp) (by simp)
  have hcomma : dropGap false (',' :: rest) = ',' :: rest := dropGap_of_said (by decide) rest
  rw [readItems, dropGap_quote]
  obtain ⟨mark, cs, hquote, rfl | rfl⟩ := exists_quote_eq_cons s
  all_goals
    rw [hquote, List.cons_append] at hread ⊢
    simp only [List.cons.injEq, Char.reduceEq, false_and, imp_self, implies_true, hread,
      Option.pure_def, Option.bind_eq_bind, Option.bind_some, hcomma]
    cases readItems (readItem room) n rest <;> rfl

/-- The lines of an array are read back up to the bracket that closes it. -/
theorem readItems_lines (room : Nat) {ss : List String} {n : Nat} (hn : ss.length < n)
    (rest : List Char) :
    readItems (readItem room) n (ss.flatMap Plain.chars.line ++ ']' :: rest) =
      some (ss.map .string, rest) := by
  induction ss generalizing n with
  | nil =>
    obtain ⟨n, rfl⟩ := Nat.exists_eq_add_one.2 hn
    rfl
  | cons s ss ih =>
    obtain ⟨n, rfl⟩ := Nat.exists_eq_add_one.2 (Nat.zero_lt_of_lt hn)
    have hgap : dropGap false ((s :: ss).flatMap Plain.chars.line ++ ']' :: rest) =
        dropGap false (quote s ++ ',' :: '\n' :: (ss.flatMap Plain.chars.line ++ ']' :: rest)) := by
      simp [Plain.chars.line, dropGap_space]
    rw [readItems_congr hgap, readItems_quote, readItems_congr (dropGap_newline _),
      ih (Nat.lt_of_succ_lt_succ hn)]
    rfl

theorem readItem_bracket {room : Nat} {items : List Item}
    (h : readItems (readItem room) (cs.length + 1) cs = some (items, rest)) :
    readItem (room + 1) ('[' :: cs) = some (.array items, rest) := by
  rw [readItem, h]
  rfl

theorem length_le_length_lines (ss : List String) :
    ss.length ≤ (ss.flatMap Plain.chars.line).length := by
  induction ss with
  | nil => exact Nat.le_refl 0
  | cons s ss ih =>
    simp only [List.flatMap_cons, List.length_append, List.length_cons, Plain.chars.line]
    omega

theorem readItem_texts (room : Nat) (ss : List String) (rest : List Char) :
    readItem (room + 1) ((Plain.texts ss).chars ++ rest) = some ((Plain.texts ss).item, rest) := by
  match ss with
  | [] => exact readItem_bracket rfl
  | [s] =>
    have hread : readItem room (quote s ++ ']' :: rest) = some (.string s, ']' :: rest) :=
      readItem_quote room s (by simp) (by simp)
    have hclose : dropGap false (']' :: rest) = ']' :: rest := dropGap_of_said (by decide) rest
    simp only [Plain.chars, List.append_assoc, List.cons_append, List.nil_append]
    refine readItem_bracket ?_
    rw [readItems, dropGap_quote]
    obtain ⟨mark, cs, hquote, rfl | rfl⟩ := exists_quote_eq_cons s
    all_goals
      rw [hquote, List.cons_append] at hread ⊢
      simp [hread, hclose, expect]
  | s :: t :: ss =>
    have hlength := length_le_length_lines (s :: t :: ss)
    simp only [Plain.chars, List.append_assoc, List.cons_append, List.nil_append]
    refine readItem_bracket ?_
    rw [readItems_congr (dropGap_newline _)]
    refine readItems_lines room ?_ rest
    simp only [List.length_append, List.length_cons] at hlength ⊢
    omega

/-- A written value is read back up to the end of its line. -/
theorem readItem_chars {value : Plain} (h : value.isWritable = true) (room : Nat)
    (rest : List Char) :
    readItem (room + 1) (value.chars ++ '\n' :: rest) = some (value.item, '\n' :: rest) := by
  cases value with
  | text s => exact readItem_quote (room + 1) s (by simp) (by simp)
  | count n => exact readItem_toDigits (of_decide_eq_true h) (room + 1) rest
  | texts ss => exact readItem_texts room ss ('\n' :: rest)

/-- A written value does not begin with a blank. -/
theorem exists_chars_eq_cons (value : Plain) :
    ∃ c cs, value.chars = c :: cs ∧ isBlank c = false := by
  cases value with
  | text s =>
    obtain ⟨mark, cs, hquote, rfl | rfl⟩ := exists_quote_eq_cons s
    all_goals exact ⟨_, cs, hquote, rfl⟩
  | count n =>
    obtain ⟨c, cs, hcs⟩ := List.exists_cons_of_ne_nil (Nat.toDigits_ne_nil (n := n) (b := 10))
    have hdigit := isDigit_toDigits n c (by simp [hcs])
    refine ⟨c, cs, hcs, Bool.eq_false_iff.2 fun hblank => ?_⟩
    obtain rfl | rfl : c = ' ' ∨ c = '\t' := by simpa [isBlank] using hblank
    all_goals exact absurd hdigit (by decide)
  | texts ss => rcases ss with _ | ⟨s, _ | ⟨t, ss⟩⟩ <;> exact ⟨'[', _, rfl, rfl⟩

/-! ## Keys -/

/-- Whether a key needs no quotes. -/
def IsBareKey (key : String) : Prop := key.toList ≠ [] ∧ ∀ c ∈ key.toList, isBare c = true

instance : DecidablePred IsBareKey := fun key =>
  decidable_of_iff (key.toList ≠ [] ∧ key.toList.all isBare = true)
    (and_congr_right fun _ => List.all_eq_true)

/-- Whether a path is made of a few keys that need no quotes. -/
structure IsBarePath (path : Path) : Prop where
  ne_nil : path ≠ []
  length_lt : path.length < nestingLimit
  keys : ∀ key ∈ path, IsBareKey key

theorem isBarePath_iff {path : Path} : IsBarePath path ↔
    path ≠ [] ∧ path.length < nestingLimit ∧ ∀ key ∈ path, IsBareKey key :=
  ⟨fun h => ⟨h.ne_nil, h.length_lt, h.keys⟩, fun ⟨hne, hlt, hkeys⟩ => ⟨hne, hlt, hkeys⟩⟩

instance : DecidablePred IsBarePath := fun _ => decidable_of_iff' _ isBarePath_iff

theorem ne_of_isBare {c d : Char} (hc : isBare c = true) (hd : isBare d = false) : c ≠ d := by
  rintro rfl
  exact Bool.false_ne_true (hd.symm.trans hc)

theorem not_isBlank_of_isBare {c : Char} (h : isBare c = true) : isBlank c = false := by
  simp [isBlank, ne_of_isBare h (d := ' ') rfl, ne_of_isBare h (d := '\t') rfl]

theorem dropBlanks_cons {c : Char} (h : isBlank c = false) (cs : List Char) :
    dropBlanks (c :: cs) = c :: cs := by
  rw [dropBlanks, List.dropWhile_cons_of_neg (by simp [h])]

theorem IsBareKey.exists_cons {key : String} (h : IsBareKey key) :
    ∃ c cs, key.toList = c :: cs ∧ isBare c = true := by
  obtain ⟨c, cs, hkey⟩ := List.exists_cons_of_ne_nil h.1
  exact ⟨c, cs, hkey, h.2 c (by simp [hkey])⟩

theorem readPart_of_isBareKey {key : String} (h : IsBareKey key)
    (hstop : ∀ c, rest.head? = some c → isBare c = false) :
    readPart (key.toList ++ rest) = some (key, rest) := by
  have htake := takeWhile_append_of_stop h.2 hstop
  have hdrop := dropWhile_append_of_stop h.2 hstop
  obtain ⟨c, cs, hkey, hc⟩ := h.exists_cons
  rw [hkey, List.cons_append] at htake hdrop
  rw [hkey, List.cons_append, readPart]
  · rw [htake, hdrop, ← String.ofList_toList (s := key), hkey]
  · exact fun _ hquote => ne_of_isBare hc rfl (List.cons.inj hquote).1
  · exact fun _ hquote => ne_of_isBare hc rfl (List.cons.inj hquote).1

theorem pathChars_singleton (key : String) : Heading.pathChars [key] = key.toList := by
  simp [Heading.pathChars]

theorem pathChars_cons_cons (key next : String) (path : Path) :
    Heading.pathChars (key :: next :: path) =
      key.toList ++ '.' :: Heading.pathChars (next :: path) := by
  simp [Heading.pathChars, String.toList_intercalate]

/-- A written path is read back up to the end of its last key and the blanks behind it. -/
theorem readParts_pathChars {path : Path} (hne : path ≠ []) {n : Nat} (hn : path.length ≤ n)
    (hkeys : ∀ key ∈ path, IsBareKey key) (hstop : ∀ c, rest.head? = some c → isBare c = false)
    (hpoint : (dropBlanks rest).head? ≠ some '.') :
    readParts n (Heading.pathChars path ++ rest) = some (path, dropBlanks rest) := by
  induction path generalizing n with
  | nil => exact absurd rfl hne
  | cons key path ih =>
    obtain ⟨n, rfl⟩ := Nat.exists_eq_add_one.2 (Nat.zero_lt_of_lt hn)
    obtain ⟨hkey, hkeys⟩ := List.forall_mem_cons.1 hkeys
    have hblanks (more : List Char) : dropBlanks (key.toList ++ more) = key.toList ++ more := by
      obtain ⟨c, cs, hcs, hc⟩ := hkey.exists_cons
      rw [hcs, List.cons_append, dropBlanks_cons (not_isBlank_of_isBare hc)]
    cases path with
    | nil =>
      rw [pathChars_singleton, readParts, hblanks, readPart_of_isBareKey hkey hstop]
      simp only [Option.pure_def, Option.bind_eq_bind, Option.bind_some]
      split
      next heq => exact absurd (by rw [heq]; rfl) hpoint
      next => rfl
    | cons next path =>
      have hnext := ih (List.cons_ne_nil next path) (Nat.le_of_succ_le_succ hn) hkeys
      have hdot (more : List Char) : dropBlanks ('.' :: more) = '.' :: more := rfl
      rw [pathChars_cons_cons, List.append_assoc, List.cons_append, readParts, hblanks,
        readPart_of_isBareKey hkey (by rintro _ ⟨⟩; rfl)]
      simp [hdot, hnext]

theorem IsBarePath.exists_cons {path : Path} (h : IsBarePath path) :
    ∃ c cs, Heading.pathChars path = c :: cs ∧ isBare c = true := by
  match path with
  | [] => exact absurd rfl h.ne_nil
  | key :: path =>
    obtain ⟨c, cs, hkey, hc⟩ := (h.keys key List.mem_cons_self).exists_cons
    cases path with
    | nil => exact ⟨c, cs, by rw [pathChars_singleton, hkey], hc⟩
    | cons next path => exact ⟨c, _, by rw [pathChars_cons_cons, hkey, List.cons_append], hc⟩

theorem readKey_header {path : Path} (h : IsBarePath path) (rest : List Char) :
    readKey (Heading.pathChars path ++ ']' :: rest) = some (path, ']' :: rest) :=
  readParts_pathChars h.ne_nil (Nat.le_sub_one_of_lt h.length_lt) h.keys (by rintro _ ⟨⟩; rfl)
    (by simp [dropBlanks, isBlank])

theorem readKey_entry {key : String} (h : IsBareKey key) (rest : List Char) :
    readKey (key.toList ++ ' ' :: '=' :: rest) = some ([key], '=' :: rest) := by
  have hread : readKey (Heading.pathChars [key] ++ ' ' :: '=' :: rest) =
      some ([key], dropBlanks (' ' :: '=' :: rest)) :=
    readParts_pathChars (by simp) (by simp [nestingLimit]) (by simpa using h)
      (by rintro _ ⟨⟩; rfl) (by simp [dropBlanks, isBlank])
  rwa [pathChars_singleton] at hread

/-! ## Lines -/

/-- What can begin a line that says something. -/
def BeginsLine (c : Char) : Prop :=
  isBlank c = false ∧ c ≠ '#' ∧ c ≠ '\n' ∧ c ≠ '\r'

theorem beginsLine_of_isBare {c : Char} (h : isBare c = true) : BeginsLine c :=
  ⟨not_isBlank_of_isBare h, ne_of_isBare h rfl, ne_of_isBare h rfl, ne_of_isBare h rfl⟩

theorem endLine_of_beginsLine {c : Char} (h : BeginsLine c) (cs : List Char) :
    endLine (c :: cs) = none := by
  obtain ⟨hblank, hcomment, hline, hreturn⟩ := h
  rw [endLine, dropBlanks_cons hblank, dropComment]
  · split
    next heq => nomatch heq
    next heq => exact absurd (List.cons.inj heq).1 hline
    next heq => exact absurd (List.cons.inj heq).1 hreturn
    next => rfl
  · exact fun _ heq => hcomment (List.cons.inj heq).1

/-- The keys that a header consists of. -/
def Heading.path : Heading → Path
  | table path | element path => path

/-- Whether a text is read as given lines, whatever stands in front of it. -/
def IsReadAs (cs : List Char) (lines : List Line) : Prop :=
  ∀ n, cs.length < n → readLinesUpTo n cs = some lines

theorem isReadAs_nil : IsReadAs [] [] := fun n hn => by
  obtain ⟨n, rfl⟩ := Nat.exists_eq_add_one.2 hn
  rfl

namespace IsReadAs

variable {lines : List Line}

theorem newline (h : IsReadAs rest lines) : IsReadAs ('\n' :: rest) lines := fun n hn => by
  obtain ⟨n, rfl⟩ := Nat.exists_eq_add_one.2 (Nat.zero_lt_of_lt hn)
  have hread := h n (Nat.lt_of_succ_lt_succ hn)
  cases rest with
  | nil =>
    obtain ⟨n, rfl⟩ := Nat.exists_eq_add_one.2 (Nat.lt_of_succ_lt_succ hn)
    exact hread
  | cons c rest => exact hread

/-- A line in front of others is read first. -/
theorem line (h : IsReadAs rest lines) {c : Char} (hc : BeginsLine c) {l : Line}
    (hread : readLine (c :: cs) = some (l, rest)) (hlength : rest.length ≤ cs.length) :
    IsReadAs (c :: cs) (l :: lines) := fun n hn => by
  obtain ⟨n, rfl⟩ := Nat.exists_eq_add_one.2 (Nat.zero_lt_of_lt hn)
  have hrest := h n (Nat.lt_of_le_of_lt hlength (Nat.lt_of_succ_lt_succ hn))
  rw [readLinesUpTo, endLine_of_beginsLine hc, dropBlanks_cons hc.1]
  simp only [hread]
  cases rest with
  | nil =>
    -- Nothing is left, and nothing is what the other lines are read from.
    cases n with
    | zero => nomatch hrest
    | succ n =>
      obtain rfl : [] = lines := Option.some.inj hrest
      rfl
  | cons d rest => simp [hrest]

theorem entry (h : IsReadAs rest lines) {key : String} (hkey : IsBareKey key) {value : Plain}
    (hvalue : value.isWritable = true) :
    IsReadAs (Stanza.entryChars key value ++ rest) (.entry [key] value.item :: lines) := by
  have hread := readKey_entry hkey (' ' :: (value.chars ++ '\n' :: rest))
  have hitem : readItem (nestingLimit - 1) (value.chars ++ '\n' :: rest) =
      some (value.item, '\n' :: rest) := readItem_chars hvalue (nestingLimit - 2) rest
  have hblanks : dropBlanks (' ' :: (value.chars ++ '\n' :: rest)) =
      value.chars ++ '\n' :: rest := by
    obtain ⟨c, cs, hcs, hc⟩ := exists_chars_eq_cons value
    rw [hcs, List.cons_append]
    exact dropBlanks_cons hc (cs ++ '\n' :: rest)
  have hend : endLine ('\n' :: rest) = some rest := rfl
  obtain ⟨c, cs, hcs, hc⟩ := hkey.exists_cons
  simp only [Stanza.entryChars, List.append_assoc, List.cons_append, List.nil_append]
  rw [hcs, List.cons_append] at hread ⊢
  refine h.line (beginsLine_of_isBare hc) ?_ (by simp; omega)
  rw [readLine]
  · simp [readEntry, hread, expect, hblanks, hitem, hend]
  · exact fun _ heq => ne_of_isBare hc rfl (List.cons.inj heq).1
  · exact fun _ heq => ne_of_isBare hc rfl (List.cons.inj heq).1

theorem heading (h : IsReadAs rest lines) {heading : Heading} (hpath : IsBarePath heading.path) :
    IsReadAs (heading.chars ++ '\n' :: rest) (heading.line :: lines) := by
  have hbegins : BeginsLine '[' := by unfold BeginsLine; decide
  have hend : endLine ('\n' :: rest) = some rest := rfl
  cases heading with
  | table path =>
    have hread := readKey_header hpath ('\n' :: rest)
    obtain ⟨c, cs, hcs, hc⟩ := IsBarePath.exists_cons hpath
    simp only [Heading.chars, Heading.path, List.append_assoc, List.cons_append,
      List.nil_append] at hcs hread ⊢
    refine h.line hbegins ?_ (by simp; omega)
    rw [hcs, List.cons_append] at hread ⊢
    rw [readLine]
    · simp only [hread, expect, Option.pure_def, Option.bind_eq_bind, Option.bind_some,
        ↓reduceIte, hend]
      rfl
    · exact fun _ heq => ne_of_isBare hc rfl (List.cons.inj heq).1
  | element path =>
    have hread := readKey_header hpath (']' :: '\n' :: rest)
    simp only [Heading.chars, Heading.path, List.append_assoc, List.cons_append,
      List.nil_append] at hread ⊢
    refine h.line hbegins ?_ (by simp; omega)
    rw [readLine]
    simp only [hread, expect, Option.pure_def, Option.bind_eq_bind, Option.bind_some, ↓reduceIte,
      hend]
    rfl

theorem entries (h : IsReadAs rest lines) {entries : List (String × Plain)}
    (hkeys : ∀ e ∈ entries, IsBareKey e.1) (hvalues : ∀ e ∈ entries, e.2.isWritable = true) :
    IsReadAs ((entries.flatMap fun e => Stanza.entryChars e.1 e.2) ++ rest)
      ((entries.map fun e => .entry [e.1] e.2.item) ++ lines) := by
  induction entries with
  | nil => exact h
  | cons e entries ih =>
    obtain ⟨hkey, hkeys⟩ := List.forall_mem_cons.1 hkeys
    obtain ⟨hvalue, hvalues⟩ := List.forall_mem_cons.1 hvalues
    rw [List.flatMap_cons, List.append_assoc]
    exact (ih hkeys hvalues).entry hkey hvalue

end IsReadAs

/-! ## Documents -/

/-- Whether the keys of a stanza need no quotes. -/
structure Stanza.HasBareKeys (s : Stanza) : Prop where
  path : IsBarePath s.heading.path
  keys : ∀ key ∈ s.entries.map (·.1), IsBareKey key

variable {s : Stanza} {stanzas : List Stanza}

theorem IsReadAs.stanza {lines : List Line} (h : IsReadAs rest lines) (hkeys : s.HasBareKeys)
    (hvalues : s.isWritable = true) : IsReadAs (s.chars ++ rest) (s.lines ++ lines) := by
  rw [Stanza.chars, List.append_assoc]
  have hentries : ∀ e ∈ s.entries, IsBareKey e.1 := fun e he =>
    hkeys.keys e.1 (List.mem_map_of_mem he)
  exact (h.entries hentries (List.all_eq_true.1 hvalues)).heading hkeys.path

theorem isReadAs_documentChars (hkeys : ∀ s ∈ stanzas, s.HasBareKeys)
    (hvalues : ∀ s ∈ stanzas, s.isWritable = true) :
    IsReadAs (documentChars stanzas) (stanzas.flatMap Stanza.lines) := by
  induction stanzas with
  | nil => exact isReadAs_nil
  | cons s stanzas ih =>
    obtain ⟨hkey, hkeys⟩ := List.forall_mem_cons.1 hkeys
    obtain ⟨hvalue, hvalues⟩ := List.forall_mem_cons.1 hvalues
    have hrest := ih hkeys hvalues
    cases stanzas with
    | nil => simpa [documentChars] using isReadAs_nil.stanza hkey hvalue
    | cons t stanzas => exact hrest.newline.stanza hkey hvalue

theorem head?_documentChars (stanzas : List Stanza) :
    (documentChars stanzas).head? ≠ some '\ufeff' := by
  match stanzas with
  | [] => simp [documentChars]
  | [s] | s :: _ :: _ =>
    cases hs : s.heading <;> simp [documentChars, Stanza.chars, hs, Heading.chars]

/-- A document that can be written is read back as the lines of its stanzas. -/
theorem readLines_documentChars (hkeys : ∀ s ∈ stanzas, s.HasBareKeys)
    (hvalues : ∀ s ∈ stanzas, s.isWritable = true) :
    readLines (documentChars stanzas) = some (stanzas.flatMap Stanza.lines) := by
  have hread := isReadAs_documentChars hkeys hvalues _ (Nat.lt_succ_self _)
  have hhead := head?_documentChars stanzas
  unfold readLines
  split
  next heq => exact absurd (by rw [heq]; rfl) hhead
  next => exact hread

/-- What is written is read as the lines of the stanzas put together. -/
theorem read_write? {text : String} (hkeys : ∀ s ∈ stanzas, s.HasBareKeys)
    (h : write? stanzas = some text) : read text = assemble (stanzas.flatMap Stanza.lines) := by
  obtain ⟨hvalues, rfl⟩ : stanzas.all (·.isWritable) = true ∧
      String.ofList (documentChars stanzas) = text := by
    simpa [write?] using h
  rw [read, String.toList_ofList, readLines_documentChars hkeys (List.all_eq_true.1 hvalues)]
  rfl

end Ripple.Toml
