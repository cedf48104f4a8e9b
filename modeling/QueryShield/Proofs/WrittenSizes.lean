import QueryShield.Proofs.Unmeasured

namespace QueryShield

/-- The literals for a value. An integer beyond 64 bits with a sign has none. What a list or an
object holds is left open, as no size looks into them. -/
inductive Json.Literal : Json → Value → Prop where
  | null : Literal .null .null
  | boolean (b : Bool) : Literal (.boolean b) (.boolean b)
  | int (n : Int64) : Literal (.number (.ofInt64 n)) (.int n)
  | float (x : Double) : Literal (.number (.real x)) (.float x)
  | string (s : String) : Literal (.string s) (.string s)
  | list (items : List Json) (values : List Value) : Literal (.array items) (.list values)
  | object (members : List (String × Json)) (values : List (String × Value)) :
    Literal (.object members) (.object values)

inductive Argument.WrittenOut (variableValues : List (String × Json)) :
    Argument → Argument → Prop where
  | same (argument : Argument) : WrittenOut variableValues argument argument
  | literal (name : String) {variableName : String} {json : Json} {value : Value}
    (bound : lastNamed variableName variableValues = some json) (literal : json.Literal value) :
    WrittenOut variableValues { name, value := .reference variableName } { name, value }

/-- Any of the variables that have a value are written out as it, at any of their places. -/
structure Document.WrittenOut (document other : Document) : Prop where
  sourceLength : document.sourceLength = other.sourceLength
  variableValues : document.variableValues = other.variableValues
  rewritten :
    document.Rewritten (.ofArguments (Argument.WrittenOut document.variableValues)) other

theorem Number.natural?_ofInt64 (n : Int64) :
    (ofInt64 n).natural? = if 0 ≤ n then some n.toUInt64 else none := by
  unfold ofInt64
  split <;> rfl

theorem Json.Literal.size? {json : Json} {value : Value} (literal : json.Literal value)
    {variableName : String} {variableValues : List (String × Json)}
    (bound : lastNamed variableName variableValues = some json) :
    (Value.reference variableName).size? variableValues = value.size? variableValues := by
  rw [Value.size?, bound]
  cases literal with
  | int n => exact Number.natural?_ofInt64 n
  | null | boolean | float | string | list | object => rfl

namespace Argument.WrittenOut

variable {variableValues : List (String × Json)} {argument other : Argument}

theorem name (written : WrittenOut variableValues argument other) :
    argument.name = other.name := by
  cases written <;> rfl

theorem size? (written : WrittenOut variableValues argument other) :
    argument.value.size? variableValues = other.value.size? variableValues := by
  cases written with
  | same => rfl
  | literal _ bound literal => exact literal.size? bound

end Argument.WrittenOut

/-- Writing variables out changes no cost, and nothing that is found wrong. -/
theorem Document.WrittenOut.verdict {document other : Document}
    (written : document.WrittenOut other) :
    (∀ limit : CostLimit, limit.cost document = limit.cost other) ∧
    ∀ {policy : Policy} {protection : Protection}, policy.protection = .ok protection →
      protection.validate document = protection.validate other := by
  have matched := written.rewritten.matched_ofArguments
  have unmeasured : ∀ limit : CostLimit,
      (Matching.ofArguments (Argument.WrittenOut document.variableValues)).Unmeasured limit
        document.variableValues other.variableValues := fun limit => by
    rw [← written.variableValues]
    exact Matching.unmeasured_ofArguments Argument.WrittenOut.name Argument.WrittenOut.size?
  constructor
  · intro limit
    exact CostLimit.cost_matched .eq matched (unmeasured limit).cardinality
  · intro policy protection accepted
    exact Policy.validate_matched accepted written.sourceLength matched (unmeasured policy.cost)

def thread (replies likes : Value) : FragmentDefinition where
  name := "Thread"
  typeCondition := "Post"
  selectionSet := [
    .field { name := "replies", arguments := [{ name := "last", value := replies }] }
      [.fragmentSpread { name := "Thread" }, .field { name := "text" } []],
    .field { name := "likes", arguments := [{ name := "limit", value := likes }] } []]

def five : Double := ⟨0x4014000000000000⟩

def forum (posts replies likes : Value) : Document where
  sourceLength := 200
  operations := [{ selectionSet := [
    .field { name := "posts", arguments := [{ name := "first", value := posts }] }
      [.fragmentSpread { name := "Thread" }],
    .field { name := "visitors", arguments := [{ name := "limit", value := .reference "all" }] }
      []] }]
  fragments := [thread replies likes]
  variableValues := [("page", .number (.ofInt64 20)), ("newest", .number (.ofInt64 (-1))),
    ("some", .number (.real five)), ("all", .natural 9223372036854775808)]

def forumVariables : Document := forum (.reference "page") (.reference "newest") (.reference "some")

def forumLiterals : Document := forum (.int 20) (.int (-1)) (.float five)

theorem forum_writtenOut : forumVariables.WrittenOut forumLiterals where
  sourceLength := rfl
  variableValues := rfl
  rewritten := by
    have page : Argument.WrittenOut forumVariables.variableValues
        { name := "first", value := .reference "page" } { name := "first", value := .int 20 } :=
      .literal "first" rfl (.int 20)
    have newest : Argument.WrittenOut forumVariables.variableValues
        { name := "last", value := .reference "newest" } { name := "last", value := .int (-1) } :=
      .literal "last" rfl (.int (-1))
    have some : Argument.WrittenOut forumVariables.variableValues
        { name := "limit", value := .reference "some" }
        { name := "limit", value := .float five } :=
      .literal "limit" rfl (.float five)
    have body : Selection.SetMatched
        (.ofArguments (Argument.WrittenOut forumVariables.variableValues))
        forumVariables.fragments[0].selectionSet forumLiterals.fragments[0].selectionSet :=
      .field ⟨rfl, .cons newest .nil⟩
        (.fragmentSpread rfl trivial rfl (.field ⟨rfl, .nil⟩ .nil .nil))
        (.field ⟨rfl, .cons some .nil⟩ .nil .nil)
    have posts : Selection.SetMatched
        (.ofArguments (Argument.WrittenOut forumVariables.variableValues))
        forumVariables.operations[0].selectionSet forumLiterals.operations[0].selectionSet :=
      .field ⟨rfl, .cons page .nil⟩ (.fragmentSpread rfl trivial rfl .nil)
        (.field ⟨rfl, .cons (.same _) .nil⟩ .nil .nil)
    exact ⟨.cons ⟨rfl, posts⟩ .nil, .cons ⟨rfl, rfl, body⟩ .nil⟩

/-- The thread is on a cycle. The replies and the likes are lists of no known size. -/
theorem verdict_forum :
    ({} : CostLimit).cost forumVariables = ({} : CostLimit).cost forumLiterals ∧
    (Protection.ofGuards ({} : Policy).guards).validate forumVariables =
      [.cost 9223372036854776648 5000] := by
  obtain ⟨cost, verdict⟩ := Document.WrittenOut.verdict forum_writtenOut
  have accepted : ({} : Policy).protection = .ok (Protection.ofGuards ({} : Policy).guards) := rfl
  refine ⟨cost {}, ?_⟩
  rw [verdict accepted]
  cbv

end QueryShield
