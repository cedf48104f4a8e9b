import QueryShield.Guard.Basic
import QueryShield.Guard.Measures

namespace QueryShield

def violationAbove (observed limit : UInt64) (violation : Violation) : Option Violation :=
  if limit < observed then some violation else none

def CharacterLimit.guard (limit : CharacterLimit) : Guard where
  kind := .characterLimit
  isEnabled := limit.enabled
  evaluate := fun document =>
    violationAbove document.sourceLength limit.maxCharacters
      (.characterLimit document.sourceLength limit.maxCharacters)
  shortCircuits := true

def CostLimit.guard (limit : CostLimit) : Guard where
  kind := .cost
  isEnabled := limit.enabled
  evaluate := fun document =>
    let cost := limit.cost document
    violationAbove cost limit.maxCost (.cost cost limit.maxCost)

def AliasLimit.guard (limit : AliasLimit) : Guard where
  kind := .aliases
  isEnabled := limit.enabled
  evaluate := fun document =>
    let count := limit.count document
    violationAbove count limit.maxAliases.toUInt64 (.aliases count limit.maxAliases)

def DirectiveLimit.guard (limit : DirectiveLimit) : Guard where
  kind := .directives
  isEnabled := limit.enabled
  evaluate := fun document =>
    let count := limit.count document
    violationAbove count limit.maxDirectives.toUInt64 (.directives count limit.maxDirectives)

def DepthLimit.guard (limit : DepthLimit) : Guard where
  kind := .depth
  isEnabled := limit.enabled
  evaluate := fun document =>
    let depth := limit.depth document
    violationAbove depth limit.maxDepth.toUInt64 (.depth depth limit.maxDepth)

def SuggestionMask.guard (setting : SuggestionMask) : Guard where
  kind := .fieldSuggestion
  isEnabled := setting.enabled
  maskError := fun error =>
    match Suggestion.masked? setting.mask error.message with
    | some message => { error with message }
    | none => error
  validates := false
  masksErrors := true

theorem SuggestionMask.maskError_guard (setting : SuggestionMask) (error : ResponseError) :
    setting.guard.maskError error =
      { error with message := Suggestion.mask setting.mask error.message } := by
  simp only [guard, Suggestion.mask]
  cases Suggestion.masked? setting.mask error.message <;> rfl

/-- All guards of a policy, enabled or not. The limit on the length comes before those on trees. -/
def Policy.guards (policy : Policy) : List Guard :=
  [policy.fieldSuggestion.guard, policy.characterLimit.guard, policy.cost.guard,
    policy.aliases.guard, policy.directives.guard, policy.depth.guard]

end QueryShield
