import QueryShield.Proofs.JsonPrinting
import QueryShield.Proofs.WrittenForms

namespace QueryShield

open Json

theorem Number.normal_ofInt64 (kept : Double → Prop) (n : Int64) : (ofInt64 n).Normal kept := by
  unfold ofInt64
  by_cases nonNegative : 0 ≤ n
  · rw [if_pos nonNegative]
    trivial
  · rw [if_neg nonNegative]
    exact Int64.not_le.1 nonNegative

namespace Json

theorem itemNumbers_append (first second : List Json) :
    itemNumbers (first ++ second) = itemNumbers first ++ itemNumbers second := by
  induction first with
  | nil => rfl
  | cons item items ih => simp [itemNumbers, ih]

theorem memberNumbers_append (first second : List (String × Json)) :
    memberNumbers (first ++ second) = memberNumbers first ++ memberNumbers second := by
  induction first with
  | nil => rfl
  | cons member members ih => simp [memberNumbers, ih]

theorem itemNumbers_strings (texts : List String) : itemNumbers (texts.map .string) = [] := by
  induction texts with
  | nil => rfl
  | cons text texts ih => simpa [itemNumbers, numbers] using ih

theorem memberNumbers_nonEmptyMember (name : String) (items : List Json) :
    memberNumbers (nonEmptyMember name items) = itemNumbers items := by
  cases items <;> simp [nonEmptyMember, memberNumbers, itemNumbers, numbers]

theorem memberNumbers_optionalText (name : String) (text : Option String) :
    memberNumbers (optionalMember name (text.map .string)) = [] := by
  cases text <;> simp [optionalMember, memberNumbers, numbers]

theorem numbers_tagged (kind : String) (value : Json) :
    (tagged kind value).numbers = value.numbers := by
  simp [tagged, numbers, memberNumbers]

end Json

section

variable {kept : Double → Prop}

mutual

theorem Value.normal_toJson : ∀ value : Value, (∀ x ∈ value.doubles, kept x) →
    ∀ n ∈ value.toJson.numbers, n.Normal kept
  | .reference _, _ => by simp [Value.toJson, numbers_tagged, numbers]
  | .int i, _ => by
    simpa [Value.toJson, numbers_tagged, numbers] using Number.normal_ofInt64 kept i
  | .float x, keeps => by
    rw [Value.toJson, numbers_tagged, finiteJson]
    split
    · simpa [numbers, Number.Normal, Value.doubles] using keeps
    · simp [numbers]
  | .string _, _ => by simp [Value.toJson, numbers_tagged, numbers]
  | .boolean _, _ => by simp [Value.toJson, numbers_tagged, numbers]
  | .null, _ => by simp [Value.toJson, numbers, memberNumbers]
  | .enumeration _, _ => by simp [Value.toJson, numbers_tagged, numbers]
  | .list items, keeps => by
    rw [Value.toJson, numbers_tagged]
    exact valuesToJson_normal items keeps
  | .object members, keeps => by
    rw [Value.toJson, numbers_tagged]
    exact valueMembersToJson_normal members keeps

theorem valuesToJson_normal : ∀ values : List Value, (∀ x ∈ valueDoubles values, kept x) →
    ∀ n ∈ itemNumbers (valuesToJson values), n.Normal kept
  | [], _ => List.forall_mem_nil _
  | value :: rest, keeps => by
    rw [valueDoubles, List.forall_mem_append] at keeps
    rw [valuesToJson, itemNumbers, List.forall_mem_append]
    exact ⟨value.normal_toJson keeps.1, valuesToJson_normal rest keeps.2⟩

theorem valueMembersToJson_normal : ∀ members : List (String × Value),
    (∀ x ∈ valueMemberDoubles members, kept x) →
    ∀ n ∈ memberNumbers (valueMembersToJson members), n.Normal kept
  | [], _ => List.forall_mem_nil _
  | (_, value) :: rest, keeps => by
    rw [valueMemberDoubles, List.forall_mem_append] at keeps
    rw [valueMembersToJson, memberNumbers, List.forall_mem_append]
    exact ⟨value.normal_toJson keeps.1, valueMembersToJson_normal rest keeps.2⟩

end

theorem arguments_normal : ∀ arguments : List Argument,
    (∀ x ∈ arguments.flatMap (·.value.doubles), kept x) →
    ∀ n ∈ itemNumbers (arguments.map Argument.toJson), n.Normal kept
  | [], _ => List.forall_mem_nil _
  | argument :: rest, keeps => by
    rw [List.flatMap_cons, List.forall_mem_append] at keeps
    rw [List.map_cons, itemNumbers, List.forall_mem_append]
    refine ⟨?_, arguments_normal rest keeps.2⟩
    simpa [Argument.toJson, numbers, memberNumbers] using argument.value.normal_toJson keeps.1

mutual

theorem Selection.normal_toJson : ∀ selection : Selection, (∀ x ∈ selection.doubles, kept x) →
    ∀ n ∈ selection.toJson.numbers, n.Normal kept
  | .field field selectionSet, keeps => by
    rw [Selection.doubles, List.forall_mem_append] at keeps
    have normal := List.forall_mem_append.2 ⟨arguments_normal field.arguments keeps.1,
      selectionsToJson_normal selectionSet keeps.2⟩
    simpa [Selection.toJson, numbers, memberNumbers, memberNumbers_append,
      memberNumbers_optionalText, memberNumbers_nonEmptyMember, itemNumbers_strings] using normal
  | .inlineFragment _ selectionSet, keeps => by
    simpa [Selection.toJson, numbers, memberNumbers, memberNumbers_append,
      memberNumbers_optionalText, memberNumbers_nonEmptyMember, itemNumbers_strings]
      using selectionsToJson_normal selectionSet keeps
  | .fragmentSpread _, _ => by
    simp [Selection.toJson, numbers, memberNumbers, memberNumbers_nonEmptyMember,
      itemNumbers_strings]

theorem selectionsToJson_normal : ∀ selections : List Selection,
    (∀ x ∈ selectionDoubles selections, kept x) →
    ∀ n ∈ itemNumbers (selectionsToJson selections), n.Normal kept
  | [], _ => List.forall_mem_nil _
  | selection :: rest, keeps => by
    rw [selectionDoubles, List.forall_mem_append] at keeps
    rw [selectionsToJson, itemNumbers, List.forall_mem_append]
    exact ⟨selection.normal_toJson keeps.1, selectionsToJson_normal rest keeps.2⟩

end

theorem Operation.normal_toJson (operation : Operation)
    (keeps : ∀ x ∈ selectionDoubles operation.selectionSet, kept x) :
    ∀ n ∈ operation.toJson.numbers, n.Normal kept := by
  simpa [Operation.toJson, numbers, memberNumbers, memberNumbers_append,
    memberNumbers_optionalText, memberNumbers_nonEmptyMember, itemNumbers_strings]
    using selectionsToJson_normal operation.selectionSet keeps

theorem FragmentDefinition.normal_toJson (fragment : FragmentDefinition)
    (keeps : ∀ x ∈ selectionDoubles fragment.selectionSet, kept x) :
    ∀ n ∈ fragment.toJson.numbers, n.Normal kept := by
  simpa [FragmentDefinition.toJson, numbers, memberNumbers, memberNumbers_append,
    memberNumbers_nonEmptyMember, itemNumbers_strings]
    using selectionsToJson_normal fragment.selectionSet keeps

theorem Document.normal_toJson (document : Document) (keeps : ∀ x ∈ document.doubles, kept x)
    (keepsVariables : ∀ n ∈ memberNumbers document.variableValues, n.Normal kept) :
    ∀ n ∈ document.toJson.numbers, n.Normal kept := by
  rw [doubles, List.forall_mem_append] at keeps
  have operations : ∀ n ∈ itemNumbers (document.operations.map Operation.toJson),
      n.Normal kept := by
    simp only [mem_itemNumbers, List.mem_map]
    rintro n ⟨_, ⟨operation, among, rfl⟩, inside⟩
    exact operation.normal_toJson
      (fun x under => keeps.1 x (List.mem_flatMap.2 ⟨operation, among, under⟩)) n inside
  have fragments : ∀ n ∈ itemNumbers (document.fragments.map FragmentDefinition.toJson),
      n.Normal kept := by
    simp only [mem_itemNumbers, List.mem_map]
    rintro n ⟨_, ⟨fragment, among, rfl⟩, inside⟩
    exact fragment.normal_toJson
      (fun x under => keeps.2 x (List.mem_flatMap.2 ⟨fragment, among, under⟩)) n inside
  simp only [toJson, numbers, memberNumbers, natural, List.append_nil, List.forall_mem_append,
    List.forall_mem_singleton]
  exact ⟨trivial, operations, fragments, keepsVariables⟩

end

end QueryShield
