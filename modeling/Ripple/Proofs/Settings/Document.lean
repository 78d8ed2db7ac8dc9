import Ripple.Settings.Document
import Ripple.Proofs.Toml.Assembly
import Ripple.Proofs.Toml.Rereading

/-!
# Settings read back from their document

Settings whose counts are integers in range are written as a document that holds just them, and any
other settings are not written.
-/

namespace Ripple

open Toml (Item Entries Stanza IsBareKey IsBarePath assemble plainEntries)
open Toml.Stanza (addTo addTo_table elementsEntry elementsEntry_concat elementsEntry_nil
  foldlM_addTo_element)
open FieldSource (ofItem?)

variable {s : Settings} {text : String}

/-! ## Which settings can be written -/

/-- Whether the counts of settings are integers of 64 bits with a sign. -/
def Settings.IsWritable (s : Settings) : Prop :=
  s.traversal.maxDepth < Nat.pow 2 63 ∧
    ∀ op ∈ s.messaging.publishOperations, op.argument < Nat.pow 2 63

instance : DecidablePred Settings.IsWritable := fun s => by
  unfold Settings.IsWritable
  infer_instance

theorem MessagingSettings.isWritable_toEntries (m : MessagingSettings) :
    m.toEntries.all (·.2.isWritable) = true := by
  unfold toEntries
  split <;> rfl

theorem isWritable_count {n : Nat} : (Toml.Plain.count n).isWritable = true ↔ n < Nat.pow 2 63 :=
  decide_eq_true_iff.trans (Nat.le_sub_one_iff_lt (by decide))

theorem Settings.isWritable_iff : s.toStanzas.all (·.isWritable) = true ↔ s.IsWritable := by
  have hop (op : PublishOperation) :
      op.toStanza.isWritable = true ↔ op.argument < Nat.pow 2 63 := by
    have hname : (Toml.Plain.text op.name).isWritable = true := rfl
    simp only [PublishOperation.toStanza, Stanza.isWritable, List.all_cons, List.all_nil, hname,
      Bool.true_and, Bool.and_true, isWritable_count]
  have hmessaging : s.messaging.toStanzas.all (·.isWritable) = true ↔
      ∀ op ∈ s.messaging.publishOperations, op.argument < Nat.pow 2 63 := by
    have hfirst : Stanza.isWritable ⟨.table ["messaging"], s.messaging.toEntries⟩ = true :=
      s.messaging.isWritable_toEntries
    simp only [MessagingSettings.toStanzas, List.all_cons, hfirst, Bool.true_and, List.all_map,
      List.all_eq_true, Function.comp_apply, hop]
  have htraversal : s.traversal.toStanza.isWritable = true ↔
      s.traversal.maxDepth < Nat.pow 2 63 := by
    simp only [TraversalSettings.toStanza, Stanza.isWritable, List.all_cons, List.all_nil,
      Bool.and_true, isWritable_count]
  have hservices : s.services.toStanza.isWritable = true := rfl
  have hdiagram : s.diagram.toStanza.isWritable = true := rfl
  rw [toStanzas, List.all_append, Bool.and_eq_true, hmessaging]
  simp only [List.all_cons, List.all_nil, hservices, hdiagram, htraversal, Bool.true_and,
    Bool.and_true, IsWritable, and_comm]

theorem Settings.write?_eq_none_iff : s.write? = none ↔ ¬s.IsWritable := by
  rw [← isWritable_iff, write?, Toml.write?]
  split <;> simp_all

/-! ## What the document holds -/

theorem MessagingSettings.isBareKey_toEntries (m : MessagingSettings) :
    ∀ key ∈ m.toEntries.map (·.1), IsBareKey key := by
  have hkeys : ∀ key ∈ ["command_type", "event_type", "handler_callback_type", "body_marker",
      "event_handler_method", "command_handler_method", "publish_operations"], IsBareKey key := by
    decide
  unfold toEntries
  split
  next => exact hkeys
  next => exact fun key hkey => hkeys key (List.mem_append_left ["publish_operations"] hkey)

theorem Settings.hasBareKeys (s : Settings) : ∀ st ∈ s.toStanzas, st.HasBareKeys := by
  intro st hst
  simp only [toStanzas, MessagingSettings.toStanzas, List.mem_append, List.mem_cons, List.mem_map,
    List.not_mem_nil, or_false] at hst
  rcases hst with (rfl | ⟨op, -, rfl⟩) | rfl | rfl | rfl
  · exact ⟨(by decide : IsBarePath ["messaging"]), s.messaging.isBareKey_toEntries⟩
  · exact ⟨(by decide : IsBarePath ["messaging", "publish_operations"]),
      (by decide : ∀ key ∈ ["name", "argument"], IsBareKey key)⟩
  · exact ⟨(by decide : IsBarePath ["services"]),
      (by decide : ∀ key ∈ ["skip_segments"], IsBareKey key)⟩
  · exact ⟨(by decide : IsBarePath ["diagram"]),
      (by decide : ∀ key ∈ ["external_actor", "unknown_service", "command_color", "event_color"],
        IsBareKey key)⟩
  · exact ⟨(by decide : IsBarePath ["traversal"]),
      (by decide : ∀ key ∈ ["max_depth"], IsBareKey key)⟩

/-- What the document holds of messaging settings. -/
def MessagingSettings.held (m : MessagingSettings) : Entries :=
  plainEntries m.toEntries ++ elementsEntry "publish_operations"
    (m.publishOperations.map fun op => plainEntries op.toStanza.entries)

theorem MessagingSettings.foldlM_toStanzas (m : MessagingSettings) :
    m.toStanzas.foldlM (fun es s => addTo s es) [] =
      some [("messaging", .table .header m.held)] := by
  have hkeys : (m.toEntries.map (·.1)).Nodup := by
    unfold toEntries
    split <;> simp
  have hopen : addTo ⟨.table ["messaging"], m.toEntries⟩ [] =
      some [("messaging", .table .header (plainEntries m.toEntries))] :=
    addTo_table hkeys (by simp)
  rw [toStanzas, List.foldlM_cons, hopen, Option.bind_eq_bind, Option.bind_some, held]
  by_cases hops : m.publishOperations = []
  · simp [hops, elementsEntry_nil]
  · have hnew : ∀ e ∈ plainEntries m.toEntries, e.1 ≠ "publish_operations" := by
      simp [toEntries, hops, plainEntries]
    have hentries (op : PublishOperation) : (op.toStanza.entries.map (·.1)).Nodup := by
      simp [PublishOperation.toStanza]
    have hfront : ∀ e ∈ ([] : Entries), e.1 ≠ "messaging" := List.forall_mem_nil _
    have hfold := foldlM_addTo_element _ hentries hfront hnew m.publishOperations []
    rw [elementsEntry_nil, List.append_nil] at hfold
    exact hfold

/-- The document that settings are written as. -/
theorem Settings.assemble_toStanzas (s : Settings) :
    assemble (s.toStanzas.flatMap Stanza.lines) = some
      [("messaging", .table .header s.messaging.held),
        ("services", .table .header (plainEntries s.services.toStanza.entries)),
        ("diagram", .table .header (plainEntries s.diagram.toStanza.entries)),
        ("traversal", .table .header (plainEntries s.traversal.toStanza.entries))] := by
  have hservices (messaging : Item) : addTo s.services.toStanza [("messaging", messaging)] =
      some [("messaging", messaging),
        ("services", .table .header (plainEntries s.services.toStanza.entries))] :=
    addTo_table (by simp) (by simp)
  have hdiagram (messaging services : Item) :
      addTo s.diagram.toStanza [("messaging", messaging), ("services", services)] =
        some [("messaging", messaging), ("services", services),
          ("diagram", .table .header (plainEntries s.diagram.toStanza.entries))] :=
    addTo_table (by simp) (by simp)
  have htraversal (messaging services diagram : Item) :
      addTo s.traversal.toStanza
          [("messaging", messaging), ("services", services), ("diagram", diagram)] =
        some [("messaging", messaging), ("services", services), ("diagram", diagram),
          ("traversal", .table .header (plainEntries s.traversal.toStanza.entries))] :=
    addTo_table (by simp) (by simp)
  rw [Stanza.assemble_flatMap_lines, toStanzas, List.foldlM_append, s.messaging.foldlM_toStanzas]
  simp [hservices, hdiagram, htraversal]

/-! ## What is read in it -/

/-- Reading in order what each item of a list was made from gives the list. -/
theorem mapM_map_of_forall {α β : Type} {f : β → Option α} {g : α → β} (h : ∀ x, f (g x) = some x)
    (xs : List α) : (xs.map g).mapM f = some xs := by
  induction xs with
  | nil => rfl
  | cons x xs ih => simp [h, ih]

theorem PublishOperation.ofFields?_plainEntries (op : PublishOperation) :
    ofFields? (.named (plainEntries op.toStanza.entries)) = some op := by
  rfl

/-- Under the key of publish operations there is an array of them, empty or of tables. -/
theorem MessagingSettings.exists_get?_held (m : MessagingSettings) :
    ∃ item, Entries.get? "publish_operations" m.held = some item ∧
      FieldSource.items? item = some (m.publishOperations.map fun op =>
        .table .header (plainEntries op.toStanza.entries)) := by
  rcases List.eq_nil_or_concat m.publishOperations with hops | ⟨earlier, last, hops⟩
  · refine ⟨.array [], ?_, by rw [hops]; rfl⟩
    simp [held, toEntries, hops, plainEntries, Entries.get?, Toml.Plain.item]
  · refine ⟨.tables (plainEntries last.toStanza.entries)
      (earlier.map fun op => plainEntries op.toStanza.entries).reverse, ?_, ?_⟩
    · simp [held, toEntries, hops, plainEntries, Entries.get?, elementsEntry_concat]
    · simp [FieldSource.items?, hops]

theorem MessagingSettings.ofFields?_held (m : MessagingSettings) :
    ofFields? (.named m.held) = some m := by
  obtain ⟨item, hget, hitems⟩ := m.exists_get?_held
  have hops : FieldSource.list? (fun item => (ofItem? item).bind PublishOperation.ofFields?)
      (.named m.held) 6 "publish_operations" = some m.publishOperations := by
    rw [FieldSource.list?, FieldSource.field?, hget, Option.bind_some, hitems, Option.bind_some]
    exact mapM_map_of_forall (fun op => op.ofFields?_plainEntries) m.publishOperations
  rw [ofFields?, hops]
  rfl

theorem ServiceSettings.ofFields?_plainEntries (s : ServiceSettings) :
    ofFields? (.named (plainEntries s.toStanza.entries)) = some s := by
  have hget : FieldSource.field? (.named (plainEntries s.toStanza.entries)) 0 "skip_segments" =
      some (.array (s.skipSegments.map Item.string)) := rfl
  have hitems (items : List Item) : FieldSource.items? (.array items) = some items := rfl
  rw [ofFields?, FieldSource.list?, hget, Option.bind_some, hitems, Option.bind_some,
    mapM_map_of_forall]
  · rfl
  · exact fun _ => rfl

theorem DiagramSettings.ofFields?_plainEntries (d : DiagramSettings) :
    ofFields? (.named (plainEntries d.toStanza.entries)) = some d := by
  rfl

theorem TraversalSettings.ofFields?_plainEntries (t : TraversalSettings) :
    ofFields? (.named (plainEntries t.toStanza.entries)) = some t := by
  rfl

/-- Settings are read back from the text that they are written as. -/
theorem Settings.read?_write? (h : s.write? = some text) : read? text = some s := by
  have hmessaging := s.messaging.ofFields?_held
  have hservices := s.services.ofFields?_plainEntries
  have hdiagram := s.diagram.ofFields?_plainEntries
  have htraversal := s.traversal.ofFields?_plainEntries
  rw [read?, Toml.read_write? s.hasBareKeys h, s.assemble_toStanzas, Option.bind_some, ofFields?]
  simp [FieldSource.record?, FieldSource.field?, Entries.get?, ofItem?, hmessaging, hservices,
    hdiagram, htraversal]

end Ripple
