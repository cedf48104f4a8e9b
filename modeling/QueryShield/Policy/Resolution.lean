import QueryShield.Json.Decoding
import QueryShield.Policy.Basic

namespace QueryShield

open Json

def CharacterLimit.record : Record CharacterLimit where
  title := "CharacterLimitConfig"
  initial := {}
  closed := true
  slots := [
    .optional "enabled" toBool fun enabled limit => { limit with enabled },
    .optional "max_characters" toSize fun maxCharacters limit => { limit with maxCharacters }]

def CostLimit.record : Record CostLimit where
  title := "CostConfig"
  initial := {}
  closed := true
  slots := [
    .optional "enabled" toBool fun enabled limit => { limit with enabled },
    .optional "max_cost" toCount fun maxCost limit => { limit with maxCost },
    .optional "scalar_cost" toCount fun scalarCost limit => { limit with scalarCost },
    .optional "object_cost" toCount fun objectCost limit => { limit with objectCost },
    .optional "list_multiplier" toCount fun listMultiplier limit => { limit with listMultiplier },
    .optional "list_size_arguments" (Json.toList toText) fun listSizeArguments limit =>
      { limit with listSizeArguments },
    .optional "ignore_introspection" toBool fun ignoreIntrospection limit =>
      { limit with ignoreIntrospection }]

def DepthLimit.record : Record DepthLimit where
  title := "DepthConfig"
  initial := {}
  closed := true
  slots := [
    .optional "enabled" toBool fun enabled limit => { limit with enabled },
    .optional "max_depth" toSmallCount fun maxDepth limit => { limit with maxDepth },
    .optional "ignore_introspection" toBool fun ignoreIntrospection limit =>
      { limit with ignoreIntrospection }]

def AliasLimit.record : Record AliasLimit where
  title := "AliasConfig"
  initial := {}
  closed := true
  slots := [
    .optional "enabled" toBool fun enabled limit => { limit with enabled },
    .optional "max_aliases" toSmallCount fun maxAliases limit => { limit with maxAliases },
    .optional "ignore_introspection" toBool fun ignoreIntrospection limit =>
      { limit with ignoreIntrospection }]

def DirectiveLimit.record : Record DirectiveLimit where
  title := "DirectiveConfig"
  initial := {}
  closed := true
  slots := [
    .optional "enabled" toBool fun enabled limit => { limit with enabled },
    .optional "max_directives" toSmallCount fun maxDirectives limit =>
      { limit with maxDirectives },
    .optional "allow_duplicate_directives" toBool fun allowDuplicates limit =>
      { limit with allowDuplicates },
    .optional "ignore_introspection" toBool fun ignoreIntrospection limit =>
      { limit with ignoreIntrospection }]

def SuggestionMask.record : Record SuggestionMask where
  title := "FieldSuggestionConfig"
  initial := {}
  closed := true
  slots := [
    .optional "enabled" toBool fun enabled setting => { setting with enabled },
    .optional "mask" toText fun mask setting => { setting with mask }]

def Policy.record : Record Policy where
  title := "PolicyConfig"
  initial := {}
  closed := true
  slots := [
    .optional "character_limit" (CharacterLimit.record.read .met) fun characterLimit policy =>
      { policy with characterLimit },
    .optional "cost" (CostLimit.record.read .met) fun cost policy => { policy with cost },
    .optional "depth" (DepthLimit.record.read .met) fun depth policy => { policy with depth },
    .optional "aliases" (AliasLimit.record.read .met) fun aliases policy =>
      { policy with aliases },
    .optional "directives" (DirectiveLimit.record.read .met) fun directives policy =>
      { policy with directives },
    .optional "field_suggestion" (SuggestionMask.record.read .met) fun fieldSuggestion policy =>
      { policy with fieldSuggestion }]

inductive PolicyError where
  | setting (fault : SettingFault)
  | json (fault : Fault)
  | yaml

def PolicyError.message : PolicyError → String
  | setting fault => "Configuration error: " ++ fault.message
  | json fault => "JSON parse error: " ++ fault.message
  | yaml => "YAML parse error"

namespace Policy

def ofJson : Json → Decoded Policy := record.read .met

def checked (policy : Policy) : Except PolicyError Policy :=
  match policy.check with
  | .ok () => .ok policy
  | .error fault => .error (.setting fault)

def resolve (overrides : Json) : Except PolicyError Policy :=
  match ofJson overrides with
  | .ok policy => policy.checked
  | .error fault => .error (.json fault)

def ofText (read : String → Option Policy) (text : String) : Except PolicyError Policy :=
  match read text with
  | none => .error .yaml
  | some policy => policy.checked

end Policy

def CharacterLimit.toJson (limit : CharacterLimit) : Json :=
  .object [("enabled", .boolean limit.enabled), ("max_characters", .natural limit.maxCharacters)]

def CostLimit.toJson (limit : CostLimit) : Json :=
  .object [("enabled", .boolean limit.enabled), ("max_cost", .natural limit.maxCost),
    ("scalar_cost", .natural limit.scalarCost), ("object_cost", .natural limit.objectCost),
    ("list_multiplier", .natural limit.listMultiplier),
    ("list_size_arguments", .strings limit.listSizeArguments),
    ("ignore_introspection", .boolean limit.ignoreIntrospection)]

def DepthLimit.toJson (limit : DepthLimit) : Json :=
  .object [("enabled", .boolean limit.enabled), ("max_depth", .natural limit.maxDepth.toUInt64),
    ("ignore_introspection", .boolean limit.ignoreIntrospection)]

def AliasLimit.toJson (limit : AliasLimit) : Json :=
  .object [("enabled", .boolean limit.enabled),
    ("max_aliases", .natural limit.maxAliases.toUInt64),
    ("ignore_introspection", .boolean limit.ignoreIntrospection)]

def DirectiveLimit.toJson (limit : DirectiveLimit) : Json :=
  .object [("enabled", .boolean limit.enabled),
    ("max_directives", .natural limit.maxDirectives.toUInt64),
    ("allow_duplicate_directives", .boolean limit.allowDuplicates),
    ("ignore_introspection", .boolean limit.ignoreIntrospection)]

def SuggestionMask.toJson (setting : SuggestionMask) : Json :=
  .object [("enabled", .boolean setting.enabled), ("mask", .string setting.mask)]

def Policy.toJson (policy : Policy) : Json :=
  .object [("character_limit", policy.characterLimit.toJson), ("cost", policy.cost.toJson),
    ("depth", policy.depth.toJson), ("aliases", policy.aliases.toJson),
    ("directives", policy.directives.toJson), ("field_suggestion", policy.fieldSuggestion.toJson)]

end QueryShield
