import QueryShield.Document.Introspection

namespace QueryShield

namespace Document

/-- What stands at the top level with the given selections. The spreads of some names are not
followed. -/
inductive TopLevel (document : Document) (avoided : List String) (own : List Selection) :
    Selection → Prop where
  | own {selection : Selection} (member : selection ∈ own) :
    TopLevel document avoided own selection
  | inInlineFragment {fragment : InlineFragment} {selectionSet : List Selection}
    {selection : Selection}
    (around : TopLevel document avoided own (.inlineFragment fragment selectionSet))
    (member : selection ∈ selectionSet) : TopLevel document avoided own selection
  | inSpread {spread : FragmentSpread} {definition : FragmentDefinition} {selection : Selection}
    (around : TopLevel document avoided own (.fragmentSpread spread))
    (followed : spread.name ∉ avoided)
    (found : document.fragment? spread.name = some definition)
    (member : selection ∈ definition.selectionSet) : TopLevel document avoided own selection

def TopField (document : Document) (avoided : List String) (own : List Selection) (field : Field) :
    Prop :=
  ∃ selectionSet, document.TopLevel avoided own (.field field selectionSet)

def spreadSelections (document : Document) (name : String) : List Selection :=
  ((document.fragment? name).map FragmentDefinition.selectionSet).getD []

variable {document : Document} {avoided : List String} {own rest : List Selection}
  {selection : Selection}

theorem TopLevel.mono {others : List Selection} (top : document.TopLevel avoided own selection)
    (more : ∀ selection ∈ own, document.TopLevel avoided others selection) :
    document.TopLevel avoided others selection := by
  induction top with
  | own member => exact more _ member
  | inInlineFragment _ member ih => exact ih.inInlineFragment member
  | inSpread _ followed found member ih => exact ih.inSpread followed found member

theorem TopLevel.congr {other : Document} (same : document.fragment? = other.fragment?)
    (top : document.TopLevel avoided own selection) : other.TopLevel avoided own selection := by
  induction top with
  | own member => exact .own member
  | inInlineFragment _ member ih => exact ih.inInlineFragment member
  | inSpread _ followed found member ih => exact ih.inSpread followed (same ▸ found) member

theorem TopLevel.fewer {others : List String} (top : document.TopLevel avoided own selection)
    (fewer : others ⊆ avoided) : document.TopLevel others own selection := by
  induction top with
  | own member => exact .own member
  | inInlineFragment _ member ih => exact ih.inInlineFragment member
  | inSpread _ followed found member ih =>
    exact ih.inSpread (fun member => followed (fewer member)) found member

theorem topLevel_append {first second : List Selection} :
    document.TopLevel avoided (first ++ second) selection ↔
      document.TopLevel avoided first selection ∨ document.TopLevel avoided second selection := by
  constructor
  · intro top
    induction top with
    | own member => exact (List.mem_append.1 member).imp .own .own
    | inInlineFragment _ member ih =>
      exact ih.imp (.inInlineFragment · member) (.inInlineFragment · member)
    | inSpread _ followed found member ih =>
      exact ih.imp (.inSpread · followed found member) (.inSpread · followed found member)
  · rintro (top | top)
    · exact top.mono fun _ member => .own (List.mem_append_left _ member)
    · exact top.mono fun _ member => .own (List.mem_append_right _ member)

theorem not_topLevel_nil : ¬ document.TopLevel avoided [] selection := by
  intro top
  induction top with
  | own member => exact List.not_mem_nil member
  | inInlineFragment _ _ ih => exact ih
  | inSpread _ _ _ _ ih => exact ih

theorem topLevel_closed {first : Selection}
    (noFragment : ∀ fragment selectionSet, first ≠ .inlineFragment fragment selectionSet)
    (noSpread : ∀ spread, first = .fragmentSpread spread → spread.name ∈ avoided) :
    document.TopLevel avoided (first :: rest) selection ↔
      selection = first ∨ document.TopLevel avoided rest selection := by
  constructor
  · intro top
    induction top with
    | own member => exact (List.mem_cons.1 member).imp_right .own
    | inInlineFragment _ member ih =>
      rcases ih with ih | ih
      · exact absurd ih.symm (noFragment _ _)
      · exact .inr (ih.inInlineFragment member)
    | inSpread _ followed found member ih =>
      rcases ih with ih | ih
      · exact absurd (noSpread _ ih.symm) followed
      · exact .inr (ih.inSpread followed found member)
  · rintro (rfl | top)
    · exact .own List.mem_cons_self
    · exact top.mono fun _ member => .own (List.mem_cons_of_mem _ member)

theorem topLevel_inlineFragment {fragment : InlineFragment} {selectionSet : List Selection} :
    document.TopLevel avoided (.inlineFragment fragment selectionSet :: rest) selection ↔
      selection = .inlineFragment fragment selectionSet ∨
        document.TopLevel avoided (selectionSet ++ rest) selection := by
  constructor
  · intro top
    induction top with
    | own member =>
      exact (List.mem_cons.1 member).imp_right fun member => .own (List.mem_append_right _ member)
    | inInlineFragment _ member ih =>
      rcases ih with ih | ih
      · cases ih
        exact .inr (.own (List.mem_append_left _ member))
      · exact .inr (ih.inInlineFragment member)
    | inSpread _ followed found member ih =>
      rcases ih with ih | ih
      · cases ih
      · exact .inr (ih.inSpread followed found member)
  · rintro (rfl | top)
    · exact .own List.mem_cons_self
    · refine top.mono fun inner member => ?_
      rcases List.mem_append.1 member with member | member
      · exact .inInlineFragment (.own List.mem_cons_self) member
      · exact .own (List.mem_cons_of_mem _ member)

theorem mem_spreadSelections {name : String} :
    selection ∈ document.spreadSelections name ↔
      ∃ definition, document.fragment? name = some definition ∧
        selection ∈ definition.selectionSet := by
  cases found : document.fragment? name <;> simp [spreadSelections, found]

/-- A fragment needs to be followed once only. -/
theorem topLevel_followedSpread {spread : FragmentSpread} (followed : spread.name ∉ avoided) :
    document.TopLevel avoided (.fragmentSpread spread :: rest) selection ↔
      selection = .fragmentSpread spread ∨ document.TopLevel (spread.name :: avoided)
        (document.spreadSelections spread.name ++ rest) selection := by
  constructor
  · intro top
    induction top with
    | own member =>
      exact (List.mem_cons.1 member).imp_right fun member => .own (List.mem_append_right _ member)
    | inInlineFragment _ member ih =>
      rcases ih with ih | ih
      · cases ih
      · exact .inr (ih.inInlineFragment member)
    | @inSpread inner definition selection _ notAvoided found member ih =>
      refine .inr ?_
      by_cases same : inner.name = spread.name
      · rw [same] at found
        exact .own (List.mem_append_left _ (mem_spreadSelections.2 ⟨definition, found, member⟩))
      · rcases ih with ih | ih
        · cases ih
          exact absurd rfl same
        · exact ih.inSpread (by simp [same, notAvoided]) found member
  · rintro (rfl | top)
    · exact .own List.mem_cons_self
    · induction top with
      | own member =>
        rcases List.mem_append.1 member with member | member
        · obtain ⟨definition, found, inside⟩ := mem_spreadSelections.1 member
          exact .inSpread (.own List.mem_cons_self) followed found inside
        · exact .own (List.mem_cons_of_mem _ member)
      | inInlineFragment _ member ih => exact ih.inInlineFragment member
      | inSpread _ notAvoided found member ih =>
        exact ih.inSpread (fun avoided => notAvoided (List.mem_cons_of_mem _ avoided)) found member

theorem not_topField_nil {field : Field} : ¬ document.TopField avoided [] field :=
  fun ⟨_, top⟩ => not_topLevel_nil top

theorem topField_field {field other : Field} {selectionSet : List Selection} :
    document.TopField avoided (.field field selectionSet :: rest) other ↔
      other = field ∨ document.TopField avoided rest other := by
  have top : ∀ inner, document.TopLevel avoided (.field field selectionSet :: rest)
      (.field other inner) ↔ .field other inner = Selection.field field selectionSet ∨
        document.TopLevel avoided rest (.field other inner) := fun inner =>
    topLevel_closed (by simp) (by simp)
  constructor
  · rintro ⟨inner, found⟩
    rcases (top inner).1 found with same | later
    · cases same
      exact .inl rfl
    · exact .inr ⟨inner, later⟩
  · rintro (rfl | ⟨inner, later⟩)
    · exact ⟨selectionSet, (top selectionSet).2 (.inl rfl)⟩
    · exact ⟨inner, (top inner).2 (.inr later)⟩

theorem topField_inlineFragment {fragment : InlineFragment} {field : Field}
    {selectionSet : List Selection} :
    document.TopField avoided (.inlineFragment fragment selectionSet :: rest) field ↔
      document.TopField avoided (selectionSet ++ rest) field := by
  simp [TopField, topLevel_inlineFragment]

theorem topField_avoidedSpread {spread : FragmentSpread} {field : Field}
    (avoids : spread.name ∈ avoided) :
    document.TopField avoided (.fragmentSpread spread :: rest) field ↔
      document.TopField avoided rest field := by
  have top : ∀ inner, document.TopLevel avoided (.fragmentSpread spread :: rest)
      (.field field inner) ↔ .field field inner = Selection.fragmentSpread spread ∨
        document.TopLevel avoided rest (.field field inner) := fun inner =>
    topLevel_closed (by simp) (fun other same => by cases same; exact avoids)
  simp [TopField, top]

theorem topField_followedSpread {spread : FragmentSpread} {field : Field}
    (followed : spread.name ∉ avoided) :
    document.TopField avoided (.fragmentSpread spread :: rest) field ↔
      document.TopField (spread.name :: avoided)
        (document.spreadSelections spread.name ++ rest) field := by
  simp [TopField, topLevel_followedSpread followed]

theorem topField_append {first second : List Selection} {field : Field} :
    document.TopField avoided (first ++ second) field ↔
      document.TopField avoided first field ∨ document.TopField avoided second field := by
  simp only [TopField, topLevel_append, exists_or]

theorem topField_spread {spread : FragmentSpread} {field : Field} :
    document.TopField [] (.fragmentSpread spread :: rest) field ↔
      document.TopField [] (document.spreadSelections spread.name) field ∨
        document.TopField [] rest field := by
  rw [← topField_append]
  constructor
  · intro top
    obtain ⟨inner, top⟩ := (topField_followedSpread List.not_mem_nil).1 top
    exact ⟨inner, top.fewer (List.nil_subset _)⟩
  · rintro ⟨inner, top⟩
    refine ⟨inner, top.mono fun other member => ?_⟩
    rcases List.mem_append.1 member with member | member
    · obtain ⟨definition, found, inside⟩ := mem_spreadSelections.1 member
      exact .inSpread (.own List.mem_cons_self) List.not_mem_nil found inside
    · exact .own (List.mem_cons_of_mem _ member)

end Document

namespace Introspection

def OnlyIntrospection (document : Document) (avoided : List String) (pending : List Selection)
    (sawField : Bool) : Prop :=
  (∀ field, document.TopField avoided pending field → isIntrospectionField field.name = true) ∧
  (sawField = true ∨ ∃ field, document.TopField avoided pending field)

theorem onlyIntrospection_congr {document other : Document} {avoided others : List String}
    {pending rest : List Selection} {sawField : Bool}
    (same : ∀ field, document.TopField avoided pending field ↔ other.TopField others rest field) :
    OnlyIntrospection document avoided pending sawField ↔
      OnlyIntrospection other others rest sawField := by
  simp only [OnlyIntrospection, same]

theorem search_iff (document : Document) (pending : List Selection) (expanded : List String)
    (sawField : Bool) :
    search document pending expanded sawField = true ↔
      OnlyIntrospection document expanded pending sawField := by
  fun_induction search document pending expanded sawField with
  | case1 expanded sawField => simp [OnlyIntrospection, Document.not_topField_nil]
  | case2 expanded sawField field selectionSet rest asks ih =>
    rw [ih]
    simp only [OnlyIntrospection, Document.topField_field]
    constructor
    · intro only
      refine ⟨?_, .inr ⟨field, .inl rfl⟩⟩
      rintro other (rfl | later)
      · exact asks
      · exact only.1 other later
    · exact fun only => ⟨fun other later => only.1 other (.inr later), .inl trivial⟩
  | case3 expanded sawField field selectionSet rest other =>
    refine ⟨fun found => absurd found Bool.false_ne_true, fun only => ?_⟩
    exact absurd (only.1 field (Document.topField_field.2 (.inl rfl))) other
  | case4 expanded sawField fragment selectionSet rest ih =>
    rw [ih]
    exact onlyIntrospection_congr fun field => Document.topField_inlineFragment.symm
  | case5 expanded sawField spread rest seen ih =>
    rw [ih]
    exact onlyIntrospection_congr fun field => (Document.topField_avoidedSpread seen).symm
  | case6 expanded sawField spread rest fresh missing ih =>
    rw [ih]
    refine onlyIntrospection_congr fun field => ?_
    rw [Document.topField_followedSpread fresh]
    simp [Document.spreadSelections, missing]
  | case7 expanded sawField spread rest fresh definition found ih =>
    rw [ih]
    refine onlyIntrospection_congr fun field => ?_
    rw [Document.topField_followedSpread fresh]
    simp [Document.spreadSelections, found]

end Introspection

theorem Operation.isIntrospectionOnly_iff (operation : Operation) (document : Document) :
    operation.isIntrospectionOnly document = true ↔
      Introspection.OnlyIntrospection document [] operation.selectionSet false :=
  Introspection.search_iff document operation.selectionSet [] false

theorem Operation.isIntrospectionOnly_eq {operation other : Operation}
    {document another : Document} (same : ∀ field,
      document.TopField [] operation.selectionSet field ↔
        another.TopField [] other.selectionSet field) :
    operation.isIntrospectionOnly document = other.isIntrospectionOnly another := by
  rw [Bool.eq_iff_iff, isIntrospectionOnly_iff, isIntrospectionOnly_iff]
  exact Introspection.onlyIntrospection_congr same

theorem Operation.isIntrospectionOnly_congr (operation : Operation) {document other : Document}
    (same : document.fragment? = other.fragment?) :
    operation.isIntrospectionOnly document = operation.isIntrospectionOnly other :=
  isIntrospectionOnly_eq fun _ =>
    ⟨fun ⟨inner, top⟩ => ⟨inner, top.congr same⟩, fun ⟨inner, top⟩ => ⟨inner, top.congr same.symm⟩⟩

end QueryShield
