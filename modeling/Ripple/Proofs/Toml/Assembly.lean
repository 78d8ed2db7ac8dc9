import Ripple.Toml.Layout

/-!
# Putting stanzas together

The lines of a document that is laid out in stanzas are put together stanza by stanza. The stanza of
a table that is not there yet adds the table with its entries, in order. The stanza of an element
adds an element to its array, in a table that its path leads to.
-/

namespace Ripple.Toml

/-- The lines of entries without dotted keys. -/
def entryLines (entries : List (String × Plain)) : List Line :=
  entries.map fun e => .entry [e.1] e.2.item

/-- What entries without dotted keys are in a table. -/
def plainEntries (entries : List (String × Plain)) : Entries :=
  entries.map fun e => (e.1, e.2.item)

namespace Entries

variable {key : String} {change : Option Item → Option Item} {es front : Entries} {path : Path}

/-! ## Keys in front of others -/

theorem alter_append (h : ∀ e ∈ front, e.1 ≠ key) :
    alter key change (front ++ es) = (alter key change es).map (front ++ ·) := by
  induction front with
  | nil => simp
  | cons e front ih =>
    obtain ⟨hne, hfront⟩ := List.forall_mem_cons.1 h
    rw [List.cons_append, alter, if_neg hne, ih hfront, Option.map_map]
    rfl

theorem alter_of_forall_ne (h : ∀ e ∈ es, e.1 ≠ key) :
    alter key change es = (change none).map fun item => es ++ [(key, item)] := by
  have happend : alter key change (es ++ []) = (alter key change []).map (es ++ ·) := alter_append h
  rw [List.append_nil, alter, Option.map_map] at happend
  exact happend

theorem alter_append_self (h : ∀ e ∈ front, e.1 ≠ key) (item : Item) :
    alter key change (front ++ [(key, item)]) =
      (change (some item)).map fun item => front ++ [(key, item)] := by
  rw [alter_append h, alter, if_pos rfl, Option.map_map]
  rfl

/-! ## Tables that paths lead to -/

/-- Whether a path leads to a table in larger ones, which `embed` puts around its entries. -/
def LeadsTo (path : Path) (embed : Entries → Entries) : Prop :=
  ∀ change es, within change path (embed es) = (change es).map embed

theorem leadsTo_nil : LeadsTo [] id := fun change es =>
  (congrFun Option.map_id (change es)).symm

variable {embed : Entries → Entries}

theorem LeadsTo.table (h : LeadsTo path embed) (hfront : ∀ e ∈ front, e.1 ≠ key) :
    LeadsTo (key :: path) fun es => front ++ [(key, .table .header (embed es))] := by
  intro change es
  rw [within, alter_append_self hfront]
  simp only [h change es, Option.map_map]
  rfl

theorem LeadsTo.tables (h : LeadsTo path embed) (hfront : ∀ e ∈ front, e.1 ≠ key)
    (earlier : List Entries) :
    LeadsTo (key :: path) fun es => front ++ [(key, .tables (embed es) earlier)] := by
  intro change es
  rw [within, alter_append_self hfront]
  simp only [h change es, Option.map_map]
  rfl

/-- Entries are added behind those of the table that the path leads to. -/
theorem LeadsTo.addLines_entryLines (h : LeadsTo path embed) {entries : List (String × Plain)}
    (hkeys : (entries.map (·.1)).Nodup) (hnew : ∀ e ∈ entries, ∀ d ∈ es, d.1 ≠ e.1) :
    addLines path (entryLines entries) (embed es) = some (embed (es ++ plainEntries entries)) := by
  induction entries generalizing es with
  | nil => rw [plainEntries, List.map_nil, List.append_nil]; rfl
  | cons e entries ih =>
    obtain ⟨hkey, hkeys⟩ := List.nodup_cons.1 hkeys
    obtain ⟨hhead, hnew⟩ := List.forall_mem_cons.1 hnew
    have hput : put e.2.item [e.1] es = some (es ++ [(e.1, e.2.item)]) := by
      rw [put, alter_of_forall_ne hhead]
      rfl
    have hrest : ∀ d ∈ entries, ∀ c ∈ es ++ [(e.1, e.2.item)], c.1 ≠ d.1 := by
      intro d hd c hc
      rcases List.mem_append.1 hc with hc | hc
      · exact hnew d hd c hc
      · obtain rfl := List.mem_singleton.1 hc
        intro hsame
        exact hkey (List.mem_map.2 ⟨d, hd, hsame.symm⟩)
    calc addLines path (entryLines (e :: entries)) (embed es)
        = addLines path (entryLines entries) (embed (es ++ [(e.1, e.2.item)])) := by
          rw [entryLines, List.map_cons, addLines, h, hput]
          rfl
      _ = some (embed (es ++ [(e.1, e.2.item)] ++ plainEntries entries)) := ih hkeys hrest
      _ = some (embed (es ++ plainEntries (e :: entries))) := by
          rw [List.append_assoc]
          rfl

end Entries

/-! ## Stanzas -/

namespace Stanza

open Entries

variable {es front : Entries}

/-- The entries that there are with a stanza added. -/
def addTo (s : Stanza) (es : Entries) : Option Entries := addLines [] s.lines es

theorem lines_eq (s : Stanza) : s.lines = s.heading.line :: entryLines s.entries := rfl

theorem addLines_entryLines_append (path : Path) (entries : List (String × Plain))
    (rest : List Line) (es : Entries) :
    addLines path (entryLines entries ++ rest) es =
      (addLines path (entryLines entries) es).bind (addLines path rest) := by
  induction entries generalizing es with
  | nil => rfl
  | cons e entries ih =>
    simp only [entryLines, List.map_cons, List.cons_append, addLines, Option.bind_assoc] at ih ⊢
    exact congrArg _ (funext ih)

/-- A header is entered, and the path that it gives holds below it. -/
theorem exists_enter (heading : Heading) :
    ∃ (enter : Entries → Option Entries) (below : Path), ∀ path rest es,
      addLines path (heading.line :: rest) es = (enter es).bind (addLines below rest) := by
  cases heading with
  | table p => exact ⟨enter openTable p, p, fun _ _ _ => rfl⟩
  | element p => exact ⟨enter openElement p, p, fun _ _ _ => rfl⟩

/-- The lines of a document are put together stanza by stanza. -/
theorem addLines_flatMap_lines (path : Path) (stanzas : List Stanza) (es : Entries) :
    addLines path (stanzas.flatMap lines) es = stanzas.foldlM (fun es s => s.addTo es) es := by
  induction stanzas generalizing path es with
  | nil => rfl
  | cons s stanzas ih =>
    obtain ⟨enter, below, henter⟩ := exists_enter s.heading
    rw [List.flatMap_cons, List.foldlM_cons, addTo, lines_eq, List.cons_append, henter, henter,
      Option.bind_eq_bind, Option.bind_assoc]
    congr 1
    funext entered
    rw [addLines_entryLines_append, funext (ih below)]

theorem assemble_flatMap_lines (stanzas : List Stanza) :
    assemble (stanzas.flatMap lines) = stanzas.foldlM (fun es s => s.addTo es) [] :=
  addLines_flatMap_lines [] stanzas []

/-- A table that is not there yet is added with its entries. -/
theorem addTo_table {key : String} {entries : List (String × Plain)}
    (hkeys : (entries.map (·.1)).Nodup) (hnew : ∀ e ∈ es, e.1 ≠ key) :
    addTo ⟨.table [key], entries⟩ es =
      some (es ++ [(key, .table .header (plainEntries entries))]) := by
  have hopen : enter openTable [key] es = some (es ++ [(key, .table .header [])]) :=
    alter_of_forall_ne hnew
  rw [addTo, lines_eq, Heading.line, addLines, hopen]
  exact (leadsTo_nil.table hnew).addLines_entryLines hkeys (by simp)

/-- The entry of an array with elements in it, if there are any. -/
def elementsEntry (key : String) (elements : List Entries) : Entries :=
  match elements.reverse with
  | [] => []
  | last :: earlier => [(key, .tables last earlier)]

theorem elementsEntry_nil (key : String) : elementsEntry key [] = [] := rfl

theorem elementsEntry_concat (key : String) (elements : List Entries) (last : Entries) :
    elementsEntry key (elements ++ [last]) = [(key, .tables last elements.reverse)] := by
  rw [elementsEntry, List.reverse_append]
  rfl

/-- An element is added behind those that there are. -/
theorem addTo_element {key sub : String} {entries : List (String × Plain)} {elements : List Entries}
    (hkeys : (entries.map (·.1)).Nodup) (hfront : ∀ e ∈ front, e.1 ≠ key)
    (hnew : ∀ e ∈ es, e.1 ≠ sub) :
    addTo ⟨.element [key, sub], entries⟩
        (front ++ [(key, .table .header (es ++ elementsEntry sub elements))]) =
      some (front ++ [(key, .table .header
        (es ++ elementsEntry sub (elements ++ [plainEntries entries])))]) := by
  have htable := leadsTo_nil.table hfront
  have halter : alter sub openElement (es ++ elementsEntry sub elements) =
      some (es ++ [(sub, .tables [] elements.reverse)]) := by
    unfold elementsEntry
    split
    next h => rw [List.append_nil, alter_of_forall_ne hnew, h]; rfl
    next h => rw [alter_append_self hnew, h]; rfl
  have hopen : enter openElement [key, sub]
        (front ++ [(key, .table .header (es ++ elementsEntry sub elements))]) =
      some (front ++ [(key, .table .header (es ++ [(sub, .tables [] elements.reverse)]))]) :=
    (htable _ _).trans (congrArg _ halter)
  have hinside := (leadsTo_nil.tables hnew elements.reverse).table hfront
  rw [addTo, lines_eq, Heading.line, addLines, hopen, elementsEntry_concat]
  exact hinside.addLines_entryLines hkeys (by simp)

/-- Elements are added one behind the other. -/
theorem foldlM_addTo_element {α : Type} {key sub : String} (entriesOf : α → List (String × Plain))
    (hkeys : ∀ x, ((entriesOf x).map (·.1)).Nodup) (hfront : ∀ e ∈ front, e.1 ≠ key)
    (hnew : ∀ e ∈ es, e.1 ≠ sub) (xs : List α) (elements : List Entries) :
    (xs.map fun x => ⟨.element [key, sub], entriesOf x⟩).foldlM (fun es s => addTo s es)
        (front ++ [(key, .table .header (es ++ elementsEntry sub elements))]) =
      some (front ++ [(key, .table .header
        (es ++ elementsEntry sub (elements ++ xs.map (plainEntries <| entriesOf ·))))]) := by
  induction xs generalizing elements with
  | nil => rw [List.map_nil, List.map_nil, List.append_nil]; rfl
  | cons x xs ih =>
    rw [List.map_cons, List.foldlM_cons, addTo_element (hkeys x) hfront hnew, Option.bind_eq_bind,
      Option.bind_some, ih, List.append_assoc]
    rfl

end Stanza

end Ripple.Toml
