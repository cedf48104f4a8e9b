import QueryShield.Document.Introspection
import QueryShield.Number.Capped
import QueryShield.Policy.Basic
import QueryShield.Walk.Measure

namespace QueryShield

def Operation.isExempt (operation : Operation) (document : Document) (ignoreIntrospection : Bool) :
    Bool :=
  ignoreIntrospection && operation.isIntrospectionOnly document

namespace DepthLimit

def measure : Measure UInt64 where
  empty := 0
  combine := max
  field := fun _ _ children => addCapped children 1

def depth (limit : DepthLimit) (document : Document) : UInt64 :=
  measure.largest document (·.isExempt document limit.ignoreIntrospection)

end DepthLimit

namespace AliasLimit

def measure : Measure UInt64 where
  empty := 0
  combine := addCapped
  field := fun field _ children => addCapped children (if field.isAliased then 1 else 0)

def count (limit : AliasLimit) (document : Document) : UInt64 :=
  measure.largest document (·.isExempt document limit.ignoreIntrospection)

end AliasLimit

def distinct : List String → List String
  | [] => []
  | name :: rest => if name ∈ rest then distinct rest else name :: distinct rest

namespace DirectiveLimit

def applied (limit : DirectiveLimit) (directives : List String) : UInt64 :=
  capped (if limit.allowDuplicates then directives else distinct directives).length

def measure (limit : DirectiveLimit) : Measure UInt64 where
  empty := 0
  combine := addCapped
  field := fun field _ children => addCapped children (limit.applied field.directives)
  inlineFragment := fun fragment _ children =>
    addCapped children (limit.applied fragment.directives)
  fragmentDefinition := fun definition children =>
    addCapped children (limit.applied definition.directives)
  fragmentSpread := fun spread fragment => addCapped fragment (limit.applied spread.directives)
  operation := fun operation children => addCapped children (limit.applied operation.directives)

def count (limit : DirectiveLimit) (document : Document) : UInt64 :=
  limit.measure.largest document (·.isExempt document limit.ignoreIntrospection)

end DirectiveLimit

namespace CostLimit

/-- How many items the field is taken to have, from the names of size arguments that are left. The
first one with a size decides, and no list counts as empty. A size argument makes the field a list
even where its size is not known. -/
def cardinalityFrom (limit : CostLimit) (variableValues : List (String × Json)) (field : Field)
    (isSized : Bool) : List String → UInt64
  | [] => if field.isList || isSized then limit.listMultiplier else 1
  | name :: rest =>
    match field.argument? name with
    | none => limit.cardinalityFrom variableValues field isSized rest
    | some argument =>
      match argument.value.size? variableValues with
      | some size => max size 1
      | none => limit.cardinalityFrom variableValues field true rest

def cardinality (limit : CostLimit) (variableValues : List (String × Json)) (field : Field) :
    UInt64 :=
  limit.cardinalityFrom variableValues field false limit.listSizeArguments

def measure (limit : CostLimit) (variableValues : List (String × Json)) : Measure UInt64 where
  empty := 0
  combine := addCapped
  field := fun field selectionSet children =>
    let base :=
      if selectionSet.isEmpty then limit.scalarCost else addCapped limit.objectCost children
    mulCapped base (limit.cardinality variableValues field)

def cost (limit : CostLimit) (document : Document) : UInt64 :=
  (limit.measure document.variableValues).largest document
    (·.isExempt document limit.ignoreIntrospection)

end CostLimit

end QueryShield
