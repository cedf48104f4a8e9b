import QueryShield.Proofs.EncodedNumbers
import QueryShield.Proofs.RoundTrip
import QueryShield.Proofs.ShapeReading

namespace QueryShield

open Json Shape

section

variable {motive : String × Json → Prop} {name : String}

theorem forall_mem_optionalText {text : Option String} (each : ∀ s, motive (name, .string s)) :
    ∀ member ∈ optionalMember name (text.map .string), motive member := by
  cases text with
  | none => exact List.forall_mem_nil _
  | some s => exact List.forall_mem_singleton.2 (each s)

theorem forall_mem_nonEmptyMember {items : List Json} (holds : motive (name, .array items)) :
    ∀ member ∈ nonEmptyMember name items, motive member := by
  cases items with
  | nil => exact List.forall_mem_nil _
  | cons item items => exact List.forall_mem_singleton.2 holds

end

theorem Shape.reads_texts (texts : List String) :
    Shape.directives.Reads (.array (texts.map .string)) := by
  refine Reads.list fun item among => ?_
  obtain ⟨text, -, rfl⟩ := List.mem_map.1 among
  exact Reads.scalar rfl

theorem decodable_toJson {selection : Selection} (finite : AllFinite selection.doubles) :
    decodable selection.toJson = .ok selection.toJson := by
  rw [decodable, selection.ofJson_written .met (selection.written_toJson finite)]

theorem Selection.reads_toJson (selection : Selection) (finite : AllFinite selection.doubles) :
    Shape.selection.Reads selection.toJson := by
  have decodes := decodable_toJson finite
  cases selection with
  | field field selectionSet =>
    refine Reads.selection rfl ?_ decodes
    refine List.forall_mem_append.2 ⟨List.forall_mem_append.2 ⟨List.forall_mem_append.2
      ⟨List.forall_mem_append.2 ⟨List.forall_mem_append.2 ⟨?_, ?_⟩, ?_⟩, ?_⟩, ?_⟩, ?_⟩
    · exact List.forall_mem_singleton.2 (by simp)
    · exact forall_mem_optionalText fun _ => by simp
    · exact forall_mem_nonEmptyMember (by simp)
    · exact forall_mem_nonEmptyMember (by simp)
    · exact forall_mem_nonEmptyMember (by simp)
    · exact List.forall_mem_singleton.2 (by simp)
  | inlineFragment fragment selectionSet =>
    refine Reads.selection rfl ?_ decodes
    refine List.forall_mem_append.2 ⟨List.forall_mem_append.2 ⟨?_, ?_⟩, ?_⟩
    · exact forall_mem_optionalText fun _ => by simp
    · exact forall_mem_nonEmptyMember (by simp)
    · exact List.forall_mem_singleton.2 (by simp)
  | fragmentSpread spread =>
    refine Reads.selection rfl ?_ decodes
    refine List.forall_mem_append.2 ⟨?_, ?_⟩
    · exact List.forall_mem_singleton.2 (by simp)
    · exact forall_mem_nonEmptyMember (by simp)

theorem Shape.reads_selections {selections : List Selection}
    (finite : AllFinite (selectionDoubles selections)) :
    Shape.selectionSet.Reads (.array (selectionsToJson selections)) := by
  refine Reads.list ?_
  induction selections with
  | nil => exact List.forall_mem_nil _
  | cons selection rest ih =>
    obtain ⟨inFirst, inRest⟩ := allFinite_append.1 finite
    exact List.forall_mem_cons.2 ⟨selection.reads_toJson inFirst, ih inRest⟩

theorem Operation.reads_toJson (operation : Operation)
    (finite : AllFinite (selectionDoubles operation.selectionSet)) :
    Shape.operation.Reads operation.toJson := by
  refine Reads.record ?_ ?_ rfl
  · refine List.forall_mem_append.2 ⟨List.forall_mem_append.2
      ⟨List.forall_mem_append.2 ⟨?_, ?_⟩, ?_⟩, ?_⟩
    · exact List.forall_mem_singleton.2
        ⟨_, _, rfl, Reads.choice (by cases operation.kind <;> rfl)⟩
    · exact forall_mem_optionalText fun _ => ⟨_, _, rfl, Reads.scalar rfl⟩
    · exact forall_mem_nonEmptyMember ⟨_, _, rfl, reads_texts operation.directives⟩
    · exact List.forall_mem_singleton.2 ⟨_, _, rfl, reads_selections finite⟩
  · cases operation.name <;> cases operation.directives <;>
      simp [optionalMember, nonEmptyMember]

theorem FragmentDefinition.reads_toJson (fragment : FragmentDefinition)
    (finite : AllFinite (selectionDoubles fragment.selectionSet)) :
    Shape.fragment.Reads fragment.toJson := by
  refine Reads.record ?_ ?_ ?_
  · refine List.forall_mem_append.2 ⟨List.forall_mem_append.2 ⟨?_, ?_⟩, ?_⟩
    · exact List.forall_mem_cons.2 ⟨⟨_, _, rfl, Reads.scalar rfl⟩,
        List.forall_mem_singleton.2 ⟨_, _, rfl, Reads.scalar rfl⟩⟩
    · exact forall_mem_nonEmptyMember ⟨_, _, rfl, reads_texts fragment.directives⟩
    · exact List.forall_mem_singleton.2 ⟨_, _, rfl, reads_selections finite⟩
  · cases fragment.directives <;> simp [nonEmptyMember]
  · simp [isComplete]

theorem Document.reads_toJson (document : Document) (finite : AllFinite document.doubles) :
    Shape.document.Reads document.toJson := by
  obtain ⟨inOperations, inFragments⟩ := allFinite_append.1 finite
  refine Reads.record ?_ (by simp) rfl
  refine List.forall_mem_cons.2 ⟨⟨_, _, rfl, Reads.scalar rfl⟩, List.forall_mem_cons.2
    ⟨⟨_, _, rfl, Reads.list fun item among => ?_⟩, List.forall_mem_cons.2
      ⟨⟨_, _, rfl, Reads.list fun item among => ?_⟩, List.forall_mem_singleton.2
        ⟨_, _, rfl, Reads.anyMembers _⟩⟩⟩⟩
  · obtain ⟨operation, inside, rfl⟩ := List.mem_map.1 among
    exact operation.reads_toJson (allFinite_flatMap.1 inOperations operation inside)
  · obtain ⟨fragment, inside, rfl⟩ := List.mem_map.1 among
    exact fragment.reads_toJson (allFinite_flatMap.1 inFragments fragment inside)

theorem Document.ofText_of_tokens {document : Document} {text : String}
    (finite : AllFinite document.doubles) (shallow : document.toJson.nesting ≤ nestingLimit)
    (spelled : tokens text = document.toJson.spell) : ofText text = .ok document := by
  have reads := document.reads_toJson finite (2 * document.toJson.spell.length + 16) nestingLimit
    (by omega) shallow []
  rw [List.append_nil] at reads
  have decodes := document.ofJson_written .met (document.written_toJson finite)
  simp only [ofText, spelled, reads, decodes, bind, Except.bind]
  rfl

/-- The encoding of a document has two texts. Both are read as the document straight away, and both
hold the value that it is decoded from. -/
theorem Document.ofText_encoding (document : Document) (finite : AllFinite document.doubles)
    (sound : document.toJson.Sound Double.IsReadBack) :
    ∀ text ∈ [document.toJson.compact, document.toJson.indented],
      ofText text = .ok document ∧ Json.ofText text = .ok document.toJson := by
  refine List.forall_mem_cons.2 ⟨⟨?_, sound.ofText_compact⟩,
    List.forall_mem_singleton.2 ⟨?_, sound.ofText_indented⟩⟩
  · exact ofText_of_tokens finite sound.shallow (tokens_compact sound.normal)
  · exact ofText_of_tokens finite sound.shallow (tokens_indented sound.normal)

end QueryShield
