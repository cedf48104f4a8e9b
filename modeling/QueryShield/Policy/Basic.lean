import QueryShield.Suggestion
import QueryShield.Text.Blank

namespace QueryShield

structure CharacterLimit where
  enabled : Bool := true
  maxCharacters : UInt64 := 15000
  deriving DecidableEq, Repr, Inhabited

structure CostLimit where
  enabled : Bool := true
  maxCost : UInt64 := 5000
  scalarCost : UInt64 := 1
  objectCost : UInt64 := 2
  /-- How many items a list is taken to have when no argument says it. -/
  listMultiplier : UInt64 := 10
  listSizeArguments : List String := ["first", "last", "limit", "pageSize"]
  ignoreIntrospection : Bool := true
  deriving DecidableEq, Repr, Inhabited

structure DepthLimit where
  enabled : Bool := true
  maxDepth : UInt32 := 6
  ignoreIntrospection : Bool := true
  deriving DecidableEq, Repr, Inhabited

structure AliasLimit where
  enabled : Bool := true
  maxAliases : UInt32 := 15
  ignoreIntrospection : Bool := false
  deriving DecidableEq, Repr, Inhabited

structure DirectiveLimit where
  enabled : Bool := true
  maxDirectives : UInt32 := 50
  /-- Whether repetitions of a directive on one node are counted. -/
  allowDuplicates : Bool := true
  ignoreIntrospection : Bool := false
  deriving DecidableEq, Repr, Inhabited

structure SuggestionMask where
  enabled : Bool := true
  mask : String := "[Suggestion hidden]"
  deriving DecidableEq, Repr, Inhabited

structure Policy where
  characterLimit : CharacterLimit := {}
  cost : CostLimit := {}
  depth : DepthLimit := {}
  aliases : AliasLimit := {}
  directives : DirectiveLimit := {}
  fieldSuggestion : SuggestionMask := {}
  deriving DecidableEq, Repr, Inhabited

inductive SettingFault where
  | zeroListMultiplier
  | blankSizeArgument
  | suggestionInMask
  deriving DecidableEq, Repr

def SettingFault.message : SettingFault → String
  | zeroListMultiplier => "cost.list_multiplier must be at least 1"
  | blankSizeArgument => "cost.list_size_arguments must not contain empty names"
  | suggestionInMask => "field_suggestion.mask must not itself contain a suggestion"

def CostLimit.check (limit : CostLimit) : Except SettingFault Unit :=
  if limit.listMultiplier = 0 then .error .zeroListMultiplier
  else if limit.listSizeArguments.any Text.isBlankText then .error .blankSizeArgument
  else .ok ()

def SuggestionMask.check (setting : SuggestionMask) : Except SettingFault Unit :=
  if Suggestion.occursIn setting.mask.toList then .error .suggestionInMask else .ok ()

namespace Policy

/-- The first setting that makes no sense, whether its guard is enabled or not. -/
def check (policy : Policy) : Except SettingFault Unit := do
  policy.cost.check
  policy.fieldSuggestion.check

def disabled : Policy where
  characterLimit := { enabled := false }
  cost := { enabled := false }
  depth := { enabled := false }
  aliases := { enabled := false }
  directives := { enabled := false }
  fieldSuggestion := { enabled := false }

end Policy

end QueryShield
