import Ripple.Exchange.Code
import Ripple.Exchange.Diagram
import Ripple.Proofs.Code.Statement
import Ripple.Proofs.Json.Reading

/-!
# Code and diagrams read back

Whatever declared types or command diagrams are written, as a compact or a pretty text, the same
are read back, unless they nest deeper than a text may. Statements and fragments nest in
themselves; no more of them are read than levels are left, and at least one level goes to each.
-/

namespace Ripple

open Json

/-! ## Statements -/

theorem Argument.reads (limit : Nat) (a : Argument) : Reads decoder limit a.toJson a :=
  -- each member has a field of its name, which nothing before it has set
  .record (.cons rfl rfl (.string limit a.typeName)
    (.cons rfl rfl (.string limit a.text) (.nil _))) rfl

theorem Invocation.reads (limit : Nat) (i : Invocation) :
    Reads decoder limit (.object i.members) i :=
  .record (.cons rfl rfl (.string limit i.containingType)
    (.cons rfl rfl (.string limit i.name)
    (.cons rfl rfl (.list fun a _ => a.reads limit) (.nil _)))) rfl

/-- An arm is read back if its guard and its statements are. -/
theorem Arm.reads {γ σ : Type} [Inhabited γ] {recordName guardName : String} {guard : Decoder γ}
    {statement : Decoder σ} {limit : Nat} {guardJson : Json} {bodyJson : List Json} {arm : Arm γ σ}
    (hname : guardName ≠ "statements") (hguard : Reads guard limit guardJson arm.guard)
    (hbody : Reads statement.list limit (.array bodyJson) arm.body) :
    Reads (Arm.decoder recordName guardName guard statement) limit
      (.object [(guardName, guardJson), ("statements", .array bodyJson)]) arm := by
  have hother : ¬(guardName == "statements") = true := fun h => hname (beq_iff_eq.1 h)
  exact .record (.cons (List.find?_cons_of_pos (beq_self_eq_true guardName)) rfl hguard
    (.cons (List.find?_cons_of_neg hother) rfl hbody (.nil _))) rfl

namespace Statement

theorem bodyToJson_eq_map (body : Body) : bodyToJson body = body.map toJson := by
  induction body with
  | nil => rfl
  | cons s rest ih => rw [bodyToJson, ih, List.map_cons]

theorem armsToJson_eq_map (arms : List (Arm String (Statement Invocation))) :
    armsToJson arms = arms.map fun arm => .object [("condition", .string arm.guard),
      ("statements", .array (arm.body.map toJson))] := by
  induction arms with
  | nil => rfl
  | cons arm rest ih => rw [armsToJson, ih, List.map_cons, bodyToJson_eq_map]

theorem casesToJson_eq_map (arms : List (Arm (List String) (Statement Invocation))) :
    casesToJson arms = arms.map fun arm => .object [("labels", .strings arm.guard),
      ("statements", .array (arm.body.map toJson))] := by
  induction arms with
  | nil => rfl
  | cons arm rest ih => rw [casesToJson, ih, List.map_cons, bodyToJson_eq_map]

theorem depth_toJson_pos (s : Statement Invocation) : 0 < s.toJson.depth := by
  cases s <;> exact Nat.succ_pos _

/-- Each level of statements takes at least one level of nesting, that of the list it stands in. -/
theorem reads_decoderWithin (limit : Nat) (s : Statement Invocation) :
    Reads (decoderWithin limit) limit s.toJson s := by
  induction s using Statement.induction generalizing limit with
  | call target =>
    refine .of_succ rfl (depth_toJson_pos _) (fun limit => ?_) limit
    exact .tagged rfl (by simp [Invocation.members]) ((target.reads _).map Statement.call)
  | conditional arms ih =>
    refine .of_succ rfl (depth_toJson_pos _) (fun limit => ?_) limit
    rw [toJson, armsToJson_eq_map]
    have harms : ∀ arm ∈ arms, Reads (Arm.decoder "IfSection" "condition" .string
        (decoderWithin limit)) limit _ arm := fun arm harm =>
      Arm.reads (by decide) (.string limit arm.guard) (.list fun s hs => ih arm harm s hs limit)
    exact .tagged rfl (by simp) (.record (.cons rfl rfl (.list_succ harms) (.nil _)) rfl)
  | switch subject arms ih =>
    refine .of_succ rfl (depth_toJson_pos _) (fun limit => ?_) limit
    rw [toJson, casesToJson_eq_map]
    have harms : ∀ arm ∈ arms, Reads (Arm.decoder "SwitchSection" "labels" (.list .string)
        (decoderWithin limit)) limit _ arm := fun arm harm =>
      Arm.reads (by decide) (.strings limit arm.guard) (.list fun s hs => ih arm harm s hs limit)
    exact .tagged rfl (by simp) (.record (.cons rfl rfl (.string _ subject)
      (.cons rfl rfl (.list_succ harms) (.nil _))) rfl)
  | forEach items body ih =>
    refine .of_succ rfl (depth_toJson_pos _) (fun limit => ?_) limit
    rw [toJson, bodyToJson_eq_map]
    exact .tagged rfl (by simp) (.record (.cons rfl rfl (.string _ items)
      (.cons rfl rfl (.list_succ fun s hs => ih s hs limit) (.nil _))) rfl)
  | block body ih =>
    refine .of_succ rfl (depth_toJson_pos _) (fun limit => ?_) limit
    rw [toJson, bodyToJson_eq_map]
    exact .tagged rfl (by simp)
      (.record (.cons rfl rfl (.list_succ fun s hs => ih s hs limit) (.nil _)) rfl)

end Statement

/-! ## Types and their members -/

theorem TypeKind.reads (limit : Nat) (kind : TypeKind) :
    Reads decoder limit (.string kind.name) kind := by
  cases kind <;> exact .name rfl limit

theorem Member.reads (limit : Nat) (m : Member) : Reads decoder limit m.toJson m :=
  .record (.cons rfl rfl (.string limit m.name)
    (.cons rfl rfl (.string limit m.typeName) (.nil _))) rfl

theorem Parameter.reads (limit : Nat) (p : Parameter) : Reads decoder limit p.toJson p :=
  .record (.cons rfl rfl (.string limit p.typeName) (.cons rfl rfl (.string limit p.name)
    (.cons rfl rfl (.strings limit p.attributes) (.nil _)))) rfl

theorem Method.reads {limit : Nat} (hlimit : limit ≤ nestingLimit) (m : Method) :
    Reads decoder limit m.toJson m := by
  rw [toJson, Statement.bodyToJson_eq_map]
  exact .record (.cons rfl rfl (.string limit m.name)
    (.cons rfl rfl (.list fun p _ => p.reads limit)
    (.cons rfl rfl (.list fun s _ => (s.reads_decoderWithin nestingLimit).mono hlimit)
    (.nil _)))) rfl

theorem TypeDecl.reads {limit : Nat} (hlimit : limit ≤ nestingLimit) (t : TypeDecl) :
    Reads decoder limit t.toJson t :=
  .record (.cons rfl rfl (t.kind.reads limit) (.cons rfl rfl (.string limit t.fullName)
    (.cons rfl rfl (.strings limit t.baseTypes) (.cons rfl rfl (.list fun m _ => m.reads limit)
    (.cons rfl rfl (.list fun m _ => m.reads limit)
    (.cons rfl rfl (.list fun m _ => m.reads hlimit) (.nil _))))))) rfl

/-! ## Diagrams -/

theorem Arrow.reads (limit : Nat) (a : Arrow) : Reads decoder limit (.object a.members) a :=
  .record (.cons rfl rfl (.string limit a.source) (.cons rfl rfl (.string limit a.target)
    (.cons rfl rfl (.string limit a.label) (.cons rfl rfl (.string limit a.color) (.nil _))))) rfl

theorem GroupKind.reads (limit : Nat) (group : Option GroupKind) :
    Reads (.optional (.name names)) limit (.ofOption (fun kind => .string kind.name) group)
      group := by
  cases group with
  | none => exact .absent _ limit
  | some kind => cases kind <;> exact .present (.name rfl limit) nofun

/-- A section is read back if its fragments are. -/
theorem Section.reads {φ : Type} {fragment : Decoder φ} {limit : Nat} {fragmentsJson : List Json}
    {part : Section φ}
    (hfragments : Reads fragment.list limit (.array fragmentsJson) part.fragments) :
    Reads (Section.decoder fragment) limit
      (.object [("groupType", .ofOption (fun kind => .string kind.name) part.group),
        ("label", .string part.label), ("fragments", .array fragmentsJson)]) part :=
  .record (.cons rfl rfl (GroupKind.reads limit part.group)
    (.cons rfl rfl (.string limit part.label) (.cons rfl rfl hfragments (.nil _)))) rfl

namespace Fragment

/-- A property holds of every fragment if it holds of arrows and passes from the fragments inside
a group to the group. -/
theorem induction {P : Fragment → Prop} (arrow : ∀ a, P (.arrow a))
    (alt : ∀ sections, (∀ part ∈ sections, ∀ f ∈ part.fragments, P f) → P (.alt sections))
    (f : Fragment) : P f := by
  refine @Fragment.rec P (fun sections => ∀ part ∈ sections, ∀ f ∈ part.fragments, P f)
    (fun part => ∀ f ∈ part.fragments, P f) (fun fragments => ∀ f ∈ fragments, P f)
    arrow alt ?_ ?_ ?_ ?_ ?_ f
  · simp
  · intro part rest hpart hrest
    exact List.forall_mem_cons.2 ⟨hpart, hrest⟩
  · exact fun _ _ _ h => h
  · simp
  · intro f rest hf hrest
    exact List.forall_mem_cons.2 ⟨hf, hrest⟩

theorem listToJson_eq_map (fragments : List Fragment) :
    listToJson fragments = fragments.map toJson := by
  induction fragments with
  | nil => rfl
  | cons f rest ih => rw [listToJson, ih, List.map_cons]

theorem sectionsToJson_eq_map (sections : List (Section Fragment)) :
    sectionsToJson sections = sections.map fun part => .object
      [("groupType", .ofOption (fun kind => .string kind.name) part.group),
        ("label", .string part.label), ("fragments", .array (part.fragments.map toJson))] := by
  induction sections with
  | nil => rfl
  | cons part rest ih => rw [sectionsToJson, ih, List.map_cons, listToJson_eq_map]

theorem depth_toJson_pos (f : Fragment) : 0 < f.toJson.depth := by
  cases f <;> exact Nat.succ_pos _

/-- Each level of fragments takes at least one level of nesting, that of the list it stands in. -/
theorem reads_decoderWithin (limit : Nat) (f : Fragment) :
    Reads (decoderWithin limit) limit f.toJson f := by
  induction f using Fragment.induction generalizing limit with
  | arrow a =>
    refine .of_succ rfl (depth_toJson_pos _) (fun limit => ?_) limit
    exact .tagged rfl (by simp [Arrow.members]) ((a.reads _).map Fragment.arrow)
  | alt sections ih =>
    refine .of_succ rfl (depth_toJson_pos _) (fun limit => ?_) limit
    rw [toJson, sectionsToJson_eq_map]
    have hsections : ∀ part ∈ sections,
        Reads (Section.decoder (decoderWithin limit)) limit _ part :=
      fun part hpart => Section.reads (.list fun f hf => ih part hpart f hf limit)
    exact .tagged rfl (by simp) (.record (.cons rfl rfl (.list_succ hsections) (.nil _)) rfl)

theorem reads_diagramDecoder {limit : Nat} (hlimit : limit ≤ nestingLimit)
    (fragments : List Fragment) :
    Reads diagramDecoder limit (diagramToJson fragments) fragments := by
  rw [diagramToJson, listToJson_eq_map]
  exact .record (.cons rfl rfl
    (.list fun f _ => (f.reads_decoderWithin nestingLimit).mono hlimit) (.nil _)) rfl

end Fragment

theorem Extraction.reads {limit : Nat} (hlimit : limit ≤ nestingLimit) (e : Extraction) :
    Reads decoder limit e.toJson e :=
  .record (.cons rfl rfl (.string limit e.message)
    (.cons rfl rfl (.strings limit e.participants)
    (.cons rfl rfl (Fragment.reads_diagramDecoder hlimit e.fragments) (.nil _)))) rfl

theorem CommandDiagram.reads {limit : Nat} (hlimit : limit ≤ nestingLimit) (d : CommandDiagram) :
    Reads decoder limit d.toJson d := by
  have hextraction : Reads (.optional Extraction.decoder) limit
      (.ofOption Extraction.toJson d.extraction) d.extraction := by
    cases d.extraction with
    | none => exact .absent _ limit
    | some e => exact .present (e.reads hlimit) nofun
  exact .record (.cons rfl rfl (.string limit d.name) (.cons rfl rfl (.strings limit d.definedIn)
    (.cons rfl rfl hextraction (.nil _)))) rfl

/-! ## Whole texts -/

/-- Declared types and command diagrams are read back from their compact and their pretty texts
as long as these nest at most 127 levels deep; deeper texts are malformed. -/
theorem exchange_texts_read_back :
    (∀ types : List TypeDecl,
      let result : Except ReadError (List TypeDecl) :=
        if (TypeDecl.listToJson types).depth ≤ 127 then .ok types else .error (.fault .malformed)
      TypeDecl.listOfText (TypeDecl.listToJson types).compact = result ∧
        TypeDecl.listOfText (TypeDecl.listToJson types).pretty = result) ∧
    ∀ diagrams : List CommandDiagram,
      let result : Except ReadError (List CommandDiagram) :=
        if (CommandDiagram.listToJson diagrams).depth ≤ 127 then .ok diagrams
        else .error (.fault .malformed)
      CommandDiagram.listOfText (CommandDiagram.listToJson diagrams).compact = result ∧
        CommandDiagram.listOfText (CommandDiagram.listToJson diagrams).pretty = result := by
  refine ⟨fun types => ?_, fun diagrams => ?_⟩
  · have htypes : Reads (.list TypeDecl.decoder) nestingLimit (TypeDecl.listToJson types) types :=
      .list fun t _ => t.reads (Nat.le_refl _)
    exact ⟨htypes.read_compact, htypes.read_pretty⟩
  · have hdiagrams : Reads (.list CommandDiagram.decoder) nestingLimit
        (CommandDiagram.listToJson diagrams) diagrams := .list fun d _ => d.reads (Nat.le_refl _)
    exact ⟨hdiagrams.read_compact, hdiagrams.read_pretty⟩

example : (TypeDecl.listToJson [.empty .classType "Shop.Page"]).depth = 3 := by decide

end Ripple
