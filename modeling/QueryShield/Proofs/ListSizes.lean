import QueryShield.Proofs.NodeMaps
import QueryShield.Proofs.Unmeasured

namespace QueryShield

def Field.plain (node : Field) : Field := { node with arguments := [], isList := false }

def Document.plain (document : Document) : Document := document.mapNodes { field := Field.plain }

inductive Argument.SizeRaised : Argument → Argument → Prop where
  | same (argument : Argument) : SizeRaised argument argument
  | literal (name : String) {size larger : Int64} (natural : 0 ≤ size) (more : size ≤ larger) :
    SizeRaised { name, value := .int size } { name, value := .int larger }

def VariablesRaised (values others : List (String × Json)) : Prop :=
  ∀ name, lastNamed name others = lastNamed name values ∨
    ∃ size larger : UInt64, size ≤ larger ∧
      lastNamed name values = some (.number (.natural size)) ∧
      lastNamed name others = some (.number (.natural larger))

/-- Any literal sizes and any sizes in variables are larger, and the rest of the trees is the same.
The text may be longer. -/
structure Document.SizesRaised (document other : Document) : Prop where
  variableValues : VariablesRaised document.variableValues other.variableValues
  rewritten : document.Rewritten (.ofArguments Argument.SizeRaised) other

theorem toUInt64_mono {size larger : Int64} (natural : 0 ≤ size) (more : size ≤ larger) :
    size.toUInt64 ≤ larger.toUInt64 := by
  rw [UInt64.le_iff_toNat_le, Int64.toNat_toUInt64_of_le natural,
    Int64.toNat_toUInt64_of_le (Int64.le_trans natural more)]
  exact Int.toNat_le_toNat (Int64.le_iff_toInt_le.1 more)

theorem Value.size?_variablesRaised {values others : List (String × Json)}
    (raised : VariablesRaised values others) (value : Value) :
    Option.Rel (· ≤ ·) (value.size? values) (value.size? others) := by
  have same : ∀ size : Option UInt64, Option.Rel (· ≤ ·) size size := rel_refl UInt64.le_refl
  cases value with
  | reference name =>
    rcases raised name with kept | ⟨size, larger, more, before, after⟩
    · rw [size?, size?, kept]
      exact same _
    · rw [size?, size?, before, after]
      exact .some more
  | _ => exact same _

theorem Argument.SizeRaised.size? {values others : List (String × Json)}
    (bound : VariablesRaised values others) {argument other : Argument}
    (raised : argument.SizeRaised other) :
    Option.Rel (· ≤ ·) (argument.value.size? values) (other.value.size? others) := by
  cases raised with
  | same => exact argument.value.size?_variablesRaised bound
  | literal name natural more =>
    rw [Value.size?, Value.size?, if_pos natural, if_pos (Int64.le_trans natural more)]
    exact .some (toUInt64_mono natural more)

theorem Argument.SizeRaised.name {argument other : Argument} (raised : argument.SizeRaised other) :
    argument.name = other.name := by
  cases raised <;> rfl

namespace CostLimit

theorem one_le_cardinality {limit : CostLimit} (sound : limit.check = .ok ())
    (variableValues : List (String × Json)) (node : Field) :
    1 ≤ limit.cardinality variableValues node := by
  have multiplier : 1 ≤ limit.listMultiplier.toNat := by
    unfold check at sound
    split at sound
    · cases sound
    · next positive => exact Nat.pos_of_ne_zero fun zero => positive (UInt64.toNat_inj.1 zero)
  rw [UInt64.le_iff_toNat_le, toNat_cardinality, factor]
  split
  · exact Nat.le_max_left _ _
  · split
    · exact multiplier
    · exact Nat.le_refl 1

theorem cardinality_plain (limit : CostLimit) (variableValues : List (String × Json))
    (node : Field) : limit.cardinality variableValues node.plain = 1 := by
  unfold cardinality
  induction limit.listSizeArguments with
  | nil => rfl
  | cons name rest ih => exact ih

theorem plain_fits : ({ field := Field.plain } : NodeMap).Fits
    (.ofFields (fun node other => other = node.plain) fun plain => by rw [plain]; rfl) where
  field := fun _ => rfl
  inlineFragment := fun _ => rfl
  fragmentSpread := fun _ => rfl
  spreadName := fun _ => rfl
  fragmentDefinition := fun _ => rfl
  definedName := fun _ => rfl
  operation := fun _ => rfl

/-- Whatever sizes the fields have, and whether they are known or not, the query costs no less than
without lists; and it costs no less with larger sizes. -/
theorem cost_sizes {limit : CostLimit} (sound : limit.check = .ok ()) (document : Document) :
    limit.cost document.plain ≤ limit.cost document ∧
    ∀ other, document.SizesRaised other → limit.cost document ≤ limit.cost other := by
  constructor
  · have matched := document.matched_mapNodes plain_fits (Set.injOn_id _) fun _ _ => trivial
    refine cost_matched .ge matched fun {node partner} same => ?_
    obtain rfl : partner = node.plain := same
    rw [cardinality_plain]
    exact one_le_cardinality sound _ node
  · intro other raised
    have matched := raised.rewritten.matched_ofArguments
    exact cost_matched .le matched (cardinality_ofArguments .le Argument.SizeRaised.name
      (Argument.SizeRaised.size? raised.variableValues))

end CostLimit

def shelfBooks (size : Int64) : FragmentDefinition where
  name := "Books"
  typeCondition := "Shelf"
  selectionSet := [
    .field { name := "books", arguments := [{ name := "limit", value := .reference "page" }] }
      [.field { name := "title" } [],
        .field { name := "series", arguments := [{ name := "first", value := .int size }] }
          [.fragmentSpread { name := "Books" }]]]

def library (size : Int64) (page : UInt64) : Document where
  sourceLength := 150
  operations := [{ selectionSet :=
    [.field { name := "shelves", isList := true } [.fragmentSpread { name := "Books" }],
      .field { name := "news", arguments := [{ name := "last", value := .reference "page" }] }
        []] }]
  fragments := [shelfBooks size]
  variableValues := [("page", .natural page)]

theorem library_raised : (library 0 2).SizesRaised (library 3 5) where
  variableValues := by
    intro name
    by_cases page : name = "page"
    · subst page
      exact .inr ⟨2, 5, by decide, rfl, rfl⟩
    · have elsewhere : ¬ "page" = name := fun same => page same.symm
      simp [library, lastNamed, elsewhere]
  rewritten := by
    have same : ∀ name value, List.Forall₂ Argument.SizeRaised [{ name, value }]
        [{ name, value }] := fun _ _ => .cons (.same _) .nil
    have series : List.Forall₂ Argument.SizeRaised [{ name := "first", value := .int 0 }]
        [{ name := "first", value := .int 3 }] :=
      .cons (.literal "first" (by decide) (by decide)) .nil
    have body : Selection.SetMatched (.ofArguments Argument.SizeRaised)
        (shelfBooks 0).selectionSet (shelfBooks 3).selectionSet :=
      .field ⟨rfl, same _ _⟩
        (.field ⟨rfl, .nil⟩ .nil (.field ⟨rfl, series⟩ (.fragmentSpread rfl trivial rfl .nil) .nil))
        .nil
    have news : Selection.SetMatched (.ofArguments Argument.SizeRaised)
        (library 0 2).operations[0].selectionSet (library 3 5).operations[0].selectionSet :=
      .field ⟨rfl, .nil⟩ (.fragmentSpread rfl trivial rfl .nil)
        (.field ⟨rfl, same _ _⟩ .nil .nil)
    exact ⟨.cons ⟨rfl, news⟩ .nil, .cons ⟨rfl, rfl, body⟩ .nil⟩

/-- The books are on a cycle, and their pages and the news follow one variable. -/
theorem cost_library :
    let limit : CostLimit := {}
    limit.cost (library 0 2).plain ≤ limit.cost (library 0 2) ∧
      limit.cost (library 0 2) ≤ limit.cost (library 3 5) := by
  have sound : ({} : CostLimit).check = .ok () := rfl
  obtain ⟨unsized, larger⟩ := CostLimit.cost_sizes sound (library 0 2)
  exact ⟨unsized, larger _ library_raised⟩

example :
    let limit : CostLimit := {}
    limit.cost (library 0 2).plain = 8 ∧ limit.cost (library 0 2) = 122 ∧
      limit.cost (library 3 5) = 475 := by
  refine ⟨?_, ?_, ?_⟩ <;> cbv

end QueryShield
