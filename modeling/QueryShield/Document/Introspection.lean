import QueryShield.Document.Fragments

namespace QueryShield

def introspectionFields : List String := ["__schema", "__type", "__typename"]

def isIntrospectionField (name : String) : Bool := introspectionFields.contains name

namespace Introspection

def unexpandedCount (document : Document) (expanded : List String) : Nat :=
  document.unmarkedCount expanded.contains

noncomputable def weight : List Selection → Nat
  | [] => 0
  | selection :: rest => sizeOf selection + weight rest

theorem weight_le_sizeOf (pending : List Selection) : weight pending ≤ sizeOf pending := by
  induction pending with
  | nil => simp [weight]
  | cons selection rest ih =>
    simp only [weight, List.cons.sizeOf_spec]
    omega

theorem weight_append (first second : List Selection) :
    weight (first ++ second) = weight first + weight second := by
  induction first with
  | nil => simp [weight]
  | cons selection rest ih =>
    simp only [List.cons_append, weight, ih]
    omega

theorem weight_lt_cons (selection : Selection) (rest : List Selection) :
    weight rest < weight (selection :: rest) := by
  have : 0 < sizeOf selection := by
    cases selection <;> simp only [Selection.field.sizeOf_spec,
      Selection.inlineFragment.sizeOf_spec, Selection.fragmentSpread.sizeOf_spec] <;> omega
  simp only [weight]
  omega

theorem contains_cons (name : String) (expanded : List String) (other : String)
    (seen : expanded.contains other) : (name :: expanded).contains other := by
  simp only [List.contains_eq_mem, List.mem_cons, decide_eq_true_eq] at seen ⊢
  exact .inr seen

/-- Whether all fields among the pending selections are introspection fields and at least one field
was seen, now or before. -/
def search (document : Document) (pending : List Selection) (expanded : List String)
    (sawField : Bool) : Bool :=
  match pending with
  | [] => sawField
  | .field field _ :: rest =>
    if isIntrospectionField field.name then search document rest expanded true else false
  | .inlineFragment _ selectionSet :: rest =>
    search document (selectionSet ++ rest) expanded sawField
  | .fragmentSpread spread :: rest =>
    if _fresh : spread.name ∈ expanded then search document rest expanded sawField
    else
      match _found : document.fragment? spread.name with
      | none => search document rest (spread.name :: expanded) sawField
      | some definition =>
        search document (definition.selectionSet ++ rest) (spread.name :: expanded) sawField
termination_by (unexpandedCount document expanded, weight pending)
decreasing_by
  · exact Prod.Lex.right _ (weight_lt_cons _ _)
  · have := weight_le_sizeOf selectionSet
    refine Prod.Lex.right _ ?_
    rw [weight_append]
    simp only [weight, Selection.inlineFragment.sizeOf_spec]
    omega
  · exact Prod.Lex.right _ (weight_lt_cons _ _)
  · have fewer : unexpandedCount document (spread.name :: expanded) ≤
        unexpandedCount document expanded :=
      document.unmarkedCount_le (contains_cons spread.name expanded)
    rcases Nat.lt_or_eq_of_le fewer with fewer | same
    · exact Prod.Lex.left _ _ fewer
    · rw [same]
      exact Prod.Lex.right _ (weight_lt_cons _ _)
  · exact Prod.Lex.left _ _ (Document.unmarkedCount_lt (contains_cons spread.name expanded) _found
      (by simp [_fresh]) (by simp))

end Introspection

def Operation.isIntrospectionOnly (operation : Operation) (document : Document) : Bool :=
  Introspection.search document operation.selectionSet [] false

end QueryShield
