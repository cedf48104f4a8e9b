import QueryShield.Proofs.SelectionReading

namespace QueryShield

open Json

theorem readSelections (origin : Origin) {selectionSet : List Selection} {json : Json}
    (form : Form.items (SelectionsWritten selectionSet) (some json)) :
    Selection.setOfJson origin json = .ok selectionSet :=
  Selection.setOfJson_items (fun _ => Selection.listOfJson_written selectionSet origin) form

def FragmentDefinition.filled (fragment : FragmentDefinition) (seen : List String) :
    FragmentDefinition where
  name := if "name" ∈ seen then fragment.name else ""
  typeCondition := if "type_condition" ∈ seen then fragment.typeCondition else ""
  directives := if "directives" ∈ seen then fragment.directives else []
  selectionSet := if "selection_set" ∈ seen then fragment.selectionSet else []

theorem FragmentDefinition.ofJson_written (origin : Origin) {fragment : FragmentDefinition}
    {json : Json} (isWritten : fragment.Written json) :
    FragmentDefinition.ofJson origin json = .ok fragment := by
  obtain ⟨members, rfl, held⟩ := isWritten
  refine Record.read_of_fills fragment.filled rfl rfl ?_ ?_ origin
  · simp only [record, List.forall_mem_cons]
    refine ⟨Slot.mandatory_fills held.name Form.not_exactly_none Form.text_reads ?_,
      Slot.mandatory_fills held.typeCondition Form.not_exactly_none Form.text_reads ?_,
      Slot.optional_fills held.directives (fun _ => toList_directives) ?_,
      Slot.optional_fills held.selectionSet (fun _ => readSelections origin) ?_, nofun⟩
    all_goals intro seen; simp [filled]
  · intro seen told
    simp only [record, List.forall_mem_cons] at told
    obtain ⟨name, typeCondition, directives, set, -⟩ := told
    simp only [filled, held.name.ite_seen_present name Form.not_exactly_none,
      held.typeCondition.ite_seen_present typeCondition Form.not_exactly_none,
      held.directives.ite_seen directives Form.omittableItems_none,
      held.selectionSet.ite_seen_present set Form.not_always_none]

theorem OperationKind.toChoice_text (origin : Origin) (kind : OperationKind) :
    toChoice origin OperationKind.names (.string kind.text) = .ok kind := by
  cases kind <;> rfl

def Operation.filled (operation : Operation) (seen : List String) : Operation where
  kind := if "kind" ∈ seen then operation.kind else .query
  name := if "name" ∈ seen then operation.name else none
  directives := if "directives" ∈ seen then operation.directives else []
  selectionSet := if "selection_set" ∈ seen then operation.selectionSet else []

theorem Operation.ofJson_written (origin : Origin) {operation : Operation} {json : Json}
    (isWritten : operation.Written json) : Operation.ofJson origin json = .ok operation := by
  obtain ⟨members, rfl, held⟩ := isWritten
  refine Record.read_of_fills operation.filled rfl rfl ?_ ?_ origin
  · simp only [record, List.forall_mem_cons]
    refine ⟨Slot.optional_fills held.kind
        (Form.exactly_reads (OperationKind.toChoice_text .met operation.kind)) ?_,
      Slot.optional_fills held.name (fun _ => Form.optionalText_some) ?_,
      Slot.optional_fills held.directives (fun _ => toList_directives) ?_,
      Slot.optional_fills held.selectionSet (fun _ => readSelections origin) ?_, nofun⟩
    all_goals intro seen; simp [filled]
  · intro seen told
    simp only [record, List.forall_mem_cons] at told
    obtain ⟨kind, name, directives, set, -⟩ := told
    simp only [filled, held.kind.ite_seen_present kind Form.not_exactly_none,
      held.name.ite_seen name Form.optionalText_none,
      held.directives.ite_seen directives Form.omittableItems_none,
      held.selectionSet.ite_seen_present set Form.not_always_none]

def Document.filled (document : Document) (seen : List String) : Document where
  sourceLength := if "source_length" ∈ seen then document.sourceLength else 0
  operations := if "operations" ∈ seen then document.operations else []
  fragments := if "fragments" ∈ seen then document.fragments else []
  variableValues := if "variables" ∈ seen then document.variableValues else []

theorem Document.ofJson_written (origin : Origin) {document : Document} {json : Json}
    (isWritten : document.Written json) : Document.ofJson origin json = .ok document := by
  obtain ⟨members, rfl, held⟩ := isWritten
  refine Record.read_of_fills document.filled rfl rfl ?_ ?_ origin
  · simp only [record, List.forall_mem_cons]
    refine ⟨Slot.mandatory_fills held.sourceLength Form.not_exactly_none
        (Form.exactly_reads (toSize_natural document.sourceLength)) ?_,
      Slot.optional_fills held.operations (fun _ => toList_of_items fun _ written =>
        written.imp fun _ _ => Operation.ofJson_written origin) ?_,
      Slot.optional_fills held.fragments (fun _ => toList_of_items fun _ written =>
        written.imp fun _ _ => FragmentDefinition.ofJson_written origin) ?_,
      Slot.optional_fills held.variableValues
        (Form.exactly_reads rfl) ?_, nofun⟩
    all_goals intro seen; simp [filled]
  · intro seen told
    simp only [record, List.forall_mem_cons] at told
    obtain ⟨sourceLength, operations, fragments, variableValues, -⟩ := told
    simp only [filled, held.sourceLength.ite_seen_present sourceLength Form.not_exactly_none,
      held.operations.ite_seen_present operations Form.not_always_none,
      held.fragments.ite_seen_present fragments Form.not_always_none,
      held.variableValues.ite_seen_present variableValues Form.not_exactly_none]

/-- The encoding of a document with finite numbers is a written form of it, and every written form
is read as the document, whether it is decoded at once or was set aside. -/
theorem Document.roundTrip (document : Document) (finite : AllFinite document.doubles) :
    document.Written document.toJson ∧
      (∀ origin, Document.ofJson origin document.toJson = .ok document) ∧
      ∀ json, document.Written json → ∀ origin, Document.ofJson origin json = .ok document :=
  ⟨document.written_toJson finite,
    fun origin => ofJson_written origin (document.written_toJson finite),
    fun _ isWritten origin => ofJson_written origin isWritten⟩

def halfShare : Argument := ⟨"share", .float ⟨0x3FE0000000000000⟩⟩

def postsField : Selection :=
  .field { name := "posts", arguments := [halfShare] } [.fragmentSpread { name := "Post" }]

def halfPage : Document where
  sourceLength := 36
  operations := [{ selectionSet := [postsField] }]

def halfShareJson : Json :=
  .object [
    ("value", .object [("value", .number (.real ⟨0x3FE0000000000000⟩)), ("line", .natural 2),
      ("kind", .string "float")]),
    ("name", .string "share")]

def postsFieldJson : Json :=
  .object [("list", .boolean false), ("alias", .null), ("depth", .natural 1),
    ("name", .string "posts"), ("directives", .array []), ("arguments", .array [halfShareJson]),
    ("selection_set", .array [.object [("alias", .boolean true), ("name", .string "Post"),
      ("kind", .string "fragment_spread")]]),
    ("kind", .string "field")]

def halfPageJson : Json :=
  .object [("client", .string "web"), ("variables", .object []), ("fragments", .array []),
    ("operations", .array [.object [("name", .null), ("directives", .array []),
      ("selection_set", .array [postsFieldJson]), ("kind", .string "query")]]),
    ("source_length", .natural 36)]

theorem roundTrip_halfPage : AllFinite halfPage.doubles ∧
    Document.ofJson .met halfPage.toJson = .ok halfPage ∧ halfPage.Written halfPageJson ∧
    Document.ofJson .setAside halfPageJson = .ok halfPage := by
  have finite : AllFinite halfPage.doubles := by decide
  obtain ⟨-, encoded, others⟩ := halfPage.roundTrip finite
  have half : Value.Written (.float ⟨0x3FE0000000000000⟩)
      (.object [("value", .number (.real ⟨0x3FE0000000000000⟩)), ("line", .natural 2),
        ("kind", .string "float")]) :=
    ⟨_, rfl, ⟨some _, by simp [underName_cons], rfl⟩, ⟨some _, by simp [underName_cons], rfl⟩⟩
  have share : halfShare.Written halfShareJson :=
    ⟨_, rfl, ⟨some _, by simp [underName_cons, halfShare], rfl⟩,
      ⟨some _, by simp [underName_cons], Form.always_some.2 half⟩⟩
  have spread : Selection.Written (.fragmentSpread { name := "Post" })
      (.object [("alias", .boolean true), ("name", .string "Post"),
        ("kind", .string "fragment_spread")]) :=
    ⟨_, rfl, ⟨some _, by simp [underName_cons], rfl⟩, ⟨some _, by simp [underName_cons], rfl⟩,
      ⟨none, by simp [underName_cons], .inr ⟨rfl, rfl⟩⟩⟩
  have posts : postsField.Written postsFieldJson := by
    refine ⟨_, rfl, ⟨some _, ?_, rfl⟩, ⟨some _, ?_, rfl⟩, ⟨some _, ?_, .inr rfl⟩,
      ⟨some _, ?_, .inl (Form.items_array.2 (.cons share .nil))⟩,
      ⟨some _, ?_, .inl (Form.items_array.2 rfl)⟩,
      ⟨some _, ?_, .inl (Form.items_array.2 (selectionsWritten_iff.2 (.cons spread .nil)))⟩,
      ⟨some _, ?_, rfl⟩⟩
    all_goals simp [underName_cons]
  have operation : Operation.Written { selectionSet := [postsField] }
      (.object [("name", .null), ("directives", .array []),
        ("selection_set", .array [postsFieldJson]), ("kind", .string "query")]) := by
    refine ⟨_, rfl, ⟨some _, ?_, rfl⟩, ⟨some _, ?_, .inr rfl⟩,
      ⟨some _, ?_, .inl (Form.items_array.2 rfl)⟩,
      ⟨some _, ?_, Form.items_array.2 (selectionsWritten_iff.2 (.cons posts .nil))⟩⟩
    all_goals simp [underName_cons, OperationKind.text]
  have isWritten : halfPage.Written halfPageJson := by
    refine ⟨_, rfl, ⟨some _, ?_, rfl⟩,
      ⟨some _, ?_, Form.items_array.2 (.cons operation .nil)⟩,
      ⟨some _, ?_, Form.items_array.2 .nil⟩, ⟨some _, ?_, rfl⟩⟩
    all_goals simp [underName_cons, halfPage]
  exact ⟨finite, encoded .met, isWritten, others _ isWritten .setAside⟩

end QueryShield
