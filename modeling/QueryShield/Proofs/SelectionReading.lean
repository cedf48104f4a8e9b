import QueryShield.Proofs.ValueReading

namespace QueryShield

open Json

namespace SelectionDraft

def nameSlot : Slot SelectionDraft :=
  .mandatory "name" toText fun name draft => { draft with name }

def aliasSlot : Slot SelectionDraft :=
  .optional "alias" (toOption toText) fun aliasName draft => { draft with aliasName }

def argumentsSlot : Slot SelectionDraft :=
  .optional "arguments" (Json.toList (Argument.ofJson .setAside)) fun arguments draft =>
    { draft with arguments }

def directivesSlot : Slot SelectionDraft :=
  .optional "directives" (Json.toList toText) fun directives draft => { draft with directives }

def selectionSetSlot : Slot SelectionDraft :=
  .optional "selection_set" (Selection.setOfJson .setAside) fun selectionSet draft =>
    { draft with selectionSet }

def listSlot : Slot SelectionDraft :=
  .optional "list" toBool fun isList draft => { draft with isList }

def typeConditionSlot : Slot SelectionDraft :=
  .optional "type_condition" (toOption toText) fun typeCondition draft =>
    { draft with typeCondition }

end SelectionDraft

open SelectionDraft in
def SelectionKind.record (kind : SelectionKind) : Record SelectionDraft where
  title := kind.title
  initial := {}
  slots :=
    match kind with
    | .field => [nameSlot, aliasSlot, argumentsSlot, directivesSlot, selectionSetSlot, listSlot]
    | .inlineFragment => [typeConditionSlot, directivesSlot, selectionSetSlot]
    | .fragmentSpread => [nameSlot, directivesSlot]

namespace SelectionKind

theorem names_record (kind : SelectionKind) : kind.record.names = kind.members := by
  cases kind <;> rfl

theorem read_slot (kind : SelectionKind) : ∀ slot ∈ kind.record.slots, ∀ json draft,
    slot.read json draft =
      if slot.name = "selection_set" then
        (Selection.setOfJson .setAside json).map fun selectionSet => { draft with selectionSet }
      else draft.put slot.name json := by
  cases kind with
  | field =>
    simp only [record, List.forall_mem_cons]
    exact ⟨fun _ _ => rfl, fun _ _ => rfl, fun _ _ => rfl, fun _ _ => rfl, fun _ _ => rfl,
      fun _ _ => rfl, nofun⟩
  | inlineFragment =>
    simp only [record, List.forall_mem_cons]
    exact ⟨fun _ _ => rfl, fun _ _ => rfl, fun _ _ => rfl, nofun⟩
  | fragmentSpread =>
    simp only [record, List.forall_mem_cons]
    exact ⟨fun _ _ => rfl, fun _ _ => rfl, nofun⟩

theorem draftOfMembers_eq (kind : SelectionKind) (members : List (String × Json))
    (seen : List String) (draft : SelectionDraft) :
    Selection.draftOfMembers kind members seen draft =
      kind.record.readMembers members seen draft := by
  induction members generalizing seen draft with
  | nil => rw [Selection.draftOfMembers]; rfl
  | cons member rest ih =>
    obtain ⟨name, json⟩ := member
    rw [Selection.draftOfMembers, Record.readMembers, ← names_record]
    cases found : kind.record.slot? name with
    | none =>
      have missing := Record.slot?_eq_none_iff.1 found
      rw [if_pos missing, ih]
      rfl
    | some slot =>
      obtain ⟨among, rfl⟩ := Record.slot?_eq_some found
      have known : slot.name ∈ kind.record.names := List.mem_map_of_mem among
      simp only [known, not_true_eq_false, if_false, read_slot kind slot among, ih]
      -- the reader takes the selection set apart from the other members, the slots do not
      by_cases isSet : slot.name = "selection_set" <;> simp only [isSet, if_true, if_false]

theorem names_required (kind : SelectionKind) :
    (kind.record.slots.filter Slot.required).map Slot.name = kind.members.take kind.required := by
  cases kind <;> rfl

theorem find?_required (kind : SelectionKind) (seen : List String) :
    (kind.members.take kind.required).find? (· ∉ seen) =
      (kind.record.slots.find? fun slot => slot.required && slot.name ∉ seen).map Slot.name := by
  rw [← names_required, List.find?_map, List.find?_filter]
  simp only [Function.comp_def]
  congr 2
  funext slot
  simp

end SelectionKind

theorem Selection.ofJson_tagged {origin : Origin} {name : String} (kind : SelectionKind)
    {members : List (String × Json)} (tag : Holds members "kind" (.text name))
    (known : SelectionKind.names.lookup name = some kind) :
    Selection.ofJson origin (.object members) =
      (kind.record.read origin (.object members)).map (·.finish kind) := by
  have once : ∀ name ∈ ["kind"], (underName name members).length ≤ 1 := by
    simp [tag.length_le]
  rw [ofJson, rejectRepeated_ok once, lastNamed_of_holds tag]
  simp only [toIdentifier, readName_of_lookup known, SelectionKind.draftOfMembers_eq,
    SelectionKind.find?_required, Record.read, bind, Except.bind]
  have initial : kind.record.initial = {} := rfl
  rw [initial]
  -- with the members read, both sides look for the first required name that was not among them
  cases kind.record.readMembers members [] {} with
  | error fault => rfl
  | ok result =>
    dsimp only
    cases kind.record.slots.find? fun slot => slot.required && slot.name ∉ result.1 with
    | none => rfl
    | some slot => rfl

theorem toList_directives {directives : List String} {json : Json}
    (form : directivesForm directives (some json)) : Json.toList toText json = .ok directives :=
  toList_texts (Form.omittableItems_some form)

theorem toList_arguments (origin : Origin) {arguments : List Argument} {json : Json}
    (form : Form.items (List.Forall₂ Argument.Written arguments) (some json)) :
    Json.toList (Argument.ofJson origin) json = .ok arguments :=
  toList_of_items (fun _ written => written.imp fun _ _ => Argument.ofJson_written origin) form

theorem Selection.setOfJson_items {origin : Origin} {selectionSet : List Selection}
    {setWritten : List Json → Prop}
    (reads : ∀ items, setWritten items → listOfJson origin items = .ok selectionSet) {json : Json}
    (form : Form.items setWritten (some json)) : setOfJson origin json = .ok selectionSet := by
  obtain ⟨items, rfl, isWritten⟩ := Form.always_some.1 form
  exact reads items isWritten

namespace SelectionDraft

def filled (draft : SelectionDraft) (seen : List String) : SelectionDraft where
  name := if "name" ∈ seen then draft.name else ""
  aliasName := if "alias" ∈ seen then draft.aliasName else none
  arguments := if "arguments" ∈ seen then draft.arguments else []
  directives := if "directives" ∈ seen then draft.directives else []
  selectionSet := if "selection_set" ∈ seen then draft.selectionSet else []
  isList := if "list" ∈ seen then draft.isList else false
  typeCondition := if "type_condition" ∈ seen then draft.typeCondition else none

variable {draft : SelectionDraft} {members : List (String × Json)} {form : Form}

theorem name_fills (holds : Holds members "name" (.text draft.name)) :
    nameSlot.Fills draft.filled members :=
  Slot.mandatory_fills holds Form.not_exactly_none Form.text_reads
    fun seen => by simp [filled]

theorem directives_fills (holds : Holds members "directives" (directivesForm draft.directives)) :
    directivesSlot.Fills draft.filled members :=
  Slot.optional_fills holds (fun _ => toList_directives) fun seen => by simp [filled]

theorem selectionSet_fills (holds : Holds members "selection_set" form)
    (reads : ∀ json, form (some json) →
      Selection.setOfJson .setAside json = .ok draft.selectionSet) :
    selectionSetSlot.Fills draft.filled members :=
  Slot.optional_fills holds reads fun seen => by simp [filled]

end SelectionDraft

def Field.draft (field : Field) (selectionSet : List Selection) : SelectionDraft where
  name := field.name
  aliasName := field.aliasName
  arguments := field.arguments
  directives := field.directives
  selectionSet := selectionSet
  isList := field.isList

def InlineFragment.draft (fragment : InlineFragment) (selectionSet : List Selection) :
    SelectionDraft where
  typeCondition := fragment.typeCondition
  directives := fragment.directives
  selectionSet := selectionSet

def FragmentSpread.draft (spread : FragmentSpread) : SelectionDraft where
  name := spread.name
  directives := spread.directives

/-- Each slot of the kind is filled from its member; what the kind does not have stays empty. -/
theorem Field.WrittenIn.read {field : Field} {selectionSet : List Selection}
    {setWritten : List Json → Prop} {members : List (String × Json)}
    (held : field.WrittenIn selectionSet setWritten members)
    (reads : ∀ items, setWritten items →
      Selection.listOfJson .setAside items = .ok selectionSet) (origin : Origin) :
    SelectionKind.field.record.read origin (.object members) = .ok (field.draft selectionSet) := by
  refine Record.read_of_fills (field.draft selectionSet).filled rfl rfl ?_ ?_ origin
  · simp only [SelectionKind.record, List.forall_mem_cons]
    refine ⟨SelectionDraft.name_fills held.name,
      Slot.optional_fills held.aliasName (fun _ => Form.optionalText_some) ?_,
      Slot.optional_fills held.arguments
        (fun _ form => toList_arguments .setAside (Form.omittableItems_some form)) ?_,
      SelectionDraft.directives_fills held.directives,
      SelectionDraft.selectionSet_fills held.selectionSet
        (fun _ form => Selection.setOfJson_items reads (Form.omittableItems_some form)),
      Slot.optional_fills held.isList (Form.exactly_reads rfl) ?_, nofun⟩
    all_goals intro seen; simp [SelectionDraft.filled, Field.draft]
  · intro seen told
    simp only [SelectionKind.record, List.forall_mem_cons] at told
    obtain ⟨name, aliasName, arguments, directives, set, isList, -⟩ := told
    simp only [SelectionDraft.filled, Field.draft, ite_self,
      held.name.ite_seen_present name Form.not_exactly_none,
      held.aliasName.ite_seen aliasName Form.optionalText_none,
      held.arguments.ite_seen arguments Form.omittableItems_none,
      held.directives.ite_seen directives Form.omittableItems_none,
      held.selectionSet.ite_seen set Form.omittableItems_none,
      held.isList.ite_seen_present isList Form.not_exactly_none]

theorem InlineFragment.WrittenIn.read {fragment : InlineFragment} {selectionSet : List Selection}
    {setWritten : List Json → Prop} {members : List (String × Json)}
    (held : fragment.WrittenIn setWritten members)
    (reads : ∀ items, setWritten items →
      Selection.listOfJson .setAside items = .ok selectionSet) (origin : Origin) :
    SelectionKind.inlineFragment.record.read origin (.object members) =
      .ok (fragment.draft selectionSet) := by
  refine Record.read_of_fills (fragment.draft selectionSet).filled rfl rfl ?_ ?_ origin
  · simp only [SelectionKind.record, List.forall_mem_cons]
    refine ⟨Slot.optional_fills held.typeCondition (fun _ => Form.optionalText_some) ?_,
      SelectionDraft.directives_fills held.directives,
      SelectionDraft.selectionSet_fills held.selectionSet
        (fun _ => Selection.setOfJson_items reads), nofun⟩
    intro seen; simp [SelectionDraft.filled, InlineFragment.draft]
  · intro seen told
    simp only [SelectionKind.record, List.forall_mem_cons] at told
    obtain ⟨typeCondition, directives, set, -⟩ := told
    simp only [SelectionDraft.filled, InlineFragment.draft, ite_self,
      held.typeCondition.ite_seen typeCondition Form.optionalText_none,
      held.directives.ite_seen directives Form.omittableItems_none,
      held.selectionSet.ite_seen_present set Form.not_always_none]

theorem FragmentSpread.WrittenIn.read {spread : FragmentSpread} {members : List (String × Json)}
    (held : spread.WrittenIn members) (origin : Origin) :
    SelectionKind.fragmentSpread.record.read origin (.object members) = .ok spread.draft := by
  refine Record.read_of_fills spread.draft.filled rfl rfl ?_ ?_ origin
  · simp only [SelectionKind.record, List.forall_mem_cons]
    exact ⟨SelectionDraft.name_fills held.name, SelectionDraft.directives_fills held.directives,
      nofun⟩
  · intro seen told
    simp only [SelectionKind.record, List.forall_mem_cons] at told
    obtain ⟨name, directives, -⟩ := told
    simp only [SelectionDraft.filled, FragmentSpread.draft, ite_self,
      held.name.ite_seen_present name Form.not_exactly_none,
      held.directives.ite_seen directives Form.omittableItems_none]

mutual

theorem Selection.ofJson_written : ∀ (selection : Selection) (origin : Origin) {json : Json},
    selection.Written json → Selection.ofJson origin json = .ok selection
  | .field own selectionSet, origin, _, ⟨members, rfl, tag, held⟩ => by
    rw [ofJson_tagged .field tag rfl,
      held.read (fun _ => listOfJson_written selectionSet .setAside) origin]
    rfl
  | .inlineFragment own selectionSet, origin, _, ⟨members, rfl, tag, held⟩ => by
    rw [ofJson_tagged .inlineFragment tag rfl,
      held.read (fun _ => listOfJson_written selectionSet .setAside) origin]
    rfl
  | .fragmentSpread own, origin, _, ⟨members, rfl, tag, held⟩ => by
    rw [ofJson_tagged .fragmentSpread tag rfl, held.read origin]
    rfl

theorem Selection.listOfJson_written :
    ∀ (selections : List Selection) (origin : Origin) {items : List Json},
      SelectionsWritten selections items → Selection.listOfJson origin items = .ok selections
  | [], _, [], _ => rfl
  | selection :: selections, origin, _ :: _, ⟨first, others⟩ => by
    rw [listOfJson, ofJson_written selection origin first,
      listOfJson_written selections origin others]
    rfl

end

end QueryShield
