import QueryShield.Policy.Yaml
import QueryShield.Proofs.PartialRecords

namespace QueryShield

open Json

def CharacterLimit.override (limit : CharacterLimit) (chosen : String → Bool)
    (values : CharacterLimit) : CharacterLimit where
  enabled := if chosen "enabled" then values.enabled else limit.enabled
  maxCharacters := if chosen "max_characters" then values.maxCharacters else limit.maxCharacters

def CostLimit.override (limit : CostLimit) (chosen : String → Bool) (values : CostLimit) :
    CostLimit where
  enabled := if chosen "enabled" then values.enabled else limit.enabled
  maxCost := if chosen "max_cost" then values.maxCost else limit.maxCost
  scalarCost := if chosen "scalar_cost" then values.scalarCost else limit.scalarCost
  objectCost := if chosen "object_cost" then values.objectCost else limit.objectCost
  listMultiplier := if chosen "list_multiplier" then values.listMultiplier else limit.listMultiplier
  listSizeArguments :=
    if chosen "list_size_arguments" then values.listSizeArguments else limit.listSizeArguments
  ignoreIntrospection :=
    if chosen "ignore_introspection" then values.ignoreIntrospection else limit.ignoreIntrospection

def DepthLimit.override (limit : DepthLimit) (chosen : String → Bool) (values : DepthLimit) :
    DepthLimit where
  enabled := if chosen "enabled" then values.enabled else limit.enabled
  maxDepth := if chosen "max_depth" then values.maxDepth else limit.maxDepth
  ignoreIntrospection :=
    if chosen "ignore_introspection" then values.ignoreIntrospection else limit.ignoreIntrospection

def AliasLimit.override (limit : AliasLimit) (chosen : String → Bool) (values : AliasLimit) :
    AliasLimit where
  enabled := if chosen "enabled" then values.enabled else limit.enabled
  maxAliases := if chosen "max_aliases" then values.maxAliases else limit.maxAliases
  ignoreIntrospection :=
    if chosen "ignore_introspection" then values.ignoreIntrospection else limit.ignoreIntrospection

def DirectiveLimit.override (limit : DirectiveLimit) (chosen : String → Bool)
    (values : DirectiveLimit) : DirectiveLimit where
  enabled := if chosen "enabled" then values.enabled else limit.enabled
  maxDirectives := if chosen "max_directives" then values.maxDirectives else limit.maxDirectives
  allowDuplicates :=
    if chosen "allow_duplicate_directives" then values.allowDuplicates else limit.allowDuplicates
  ignoreIntrospection :=
    if chosen "ignore_introspection" then values.ignoreIntrospection else limit.ignoreIntrospection

def SuggestionMask.override (setting : SuggestionMask) (chosen : String → Bool)
    (values : SuggestionMask) : SuggestionMask where
  enabled := if chosen "enabled" then values.enabled else setting.enabled
  mask := if chosen "mask" then values.mask else setting.mask

/-- The policy with the chosen settings of another one, by the names of record and field. -/
def Policy.override (policy : Policy) (chosen : String → String → Bool) (values : Policy) :
    Policy where
  characterLimit := policy.characterLimit.override (chosen "character_limit") values.characterLimit
  cost := policy.cost.override (chosen "cost") values.cost
  depth := policy.depth.override (chosen "depth") values.depth
  aliases := policy.aliases.override (chosen "aliases") values.aliases
  directives := policy.directives.override (chosen "directives") values.directives
  fieldSuggestion :=
    policy.fieldSuggestion.override (chosen "field_suggestion") values.fieldSuggestion

theorem Policy.override_all (policy values : Policy) :
    policy.override (fun _ _ => true) values = values := rfl

structure Policy.GivenIn (policy : Policy) (chosen : String → String → Bool)
    (members : List (String × Json)) : Prop where
  characterLimit : Holds members "character_limit"
    (.settings (chosen "character_limit") policy.characterLimit.toJson)
  cost : Holds members "cost" (.settings (chosen "cost") policy.cost.toJson)
  depth : Holds members "depth" (.settings (chosen "depth") policy.depth.toJson)
  aliases : Holds members "aliases" (.settings (chosen "aliases") policy.aliases.toJson)
  directives : Holds members "directives" (.settings (chosen "directives") policy.directives.toJson)
  fieldSuggestion : Holds members "field_suggestion"
    (.settings (chosen "field_suggestion") policy.fieldSuggestion.toJson)
  known : ∀ member ∈ members, member.1 ∈ settings.map Prod.fst

inductive Policy.Misnamed (members : List (String × Json)) : Prop where
  | record {name : String} {json : Json} (present : (name, json) ∈ members)
    (unknown : settings.lookup name = none)
  | field {name : String} {inner : List (String × Json)} {fields : List (String × SettingKind)}
    {field : String} {json : Json} (present : (name, .object inner) ∈ members)
    (known : settings.lookup name = some fields) (within : (field, json) ∈ inner)
    (unknown : fields.lookup field = none)

theorem CharacterLimit.overridable (values : CharacterLimit) :
    record.Overridable (({} : CharacterLimit).override · values) values.toJson where
  distinct := by decide
  start := rfl
  within := by simp [override, record, Record.names, Slot.optional]
  slots := by
    refine .cons (Slot.optional_chooses rfl fun chosen => ?_) <|
      .cons (Slot.optional_chooses (toSize_natural _) fun chosen => ?_) .nil
    all_goals simp [override]

theorem CostLimit.overridable (values : CostLimit) :
    record.Overridable (({} : CostLimit).override · values) values.toJson where
  distinct := by decide
  start := rfl
  within := by simp [override, record, Record.names, Slot.optional]
  slots := by
    refine .cons (Slot.optional_chooses rfl fun chosen => ?_) <|
      .cons (Slot.optional_chooses (toCount_natural _) fun chosen => ?_) <|
      .cons (Slot.optional_chooses (toCount_natural _) fun chosen => ?_) <|
      .cons (Slot.optional_chooses (toCount_natural _) fun chosen => ?_) <|
      .cons (Slot.optional_chooses (toCount_natural _) fun chosen => ?_) <|
      .cons (Slot.optional_chooses (toList_texts (Form.items_array.2 rfl)) fun chosen => ?_) <|
      .cons (Slot.optional_chooses rfl fun chosen => ?_) .nil
    all_goals simp [override]

theorem DepthLimit.overridable (values : DepthLimit) :
    record.Overridable (({} : DepthLimit).override · values) values.toJson where
  distinct := by decide
  start := rfl
  within := by simp [override, record, Record.names, Slot.optional]
  slots := by
    refine .cons (Slot.optional_chooses rfl fun chosen => ?_) <|
      .cons (Slot.optional_chooses (toSmallCount_natural _) fun chosen => ?_) <|
      .cons (Slot.optional_chooses rfl fun chosen => ?_) .nil
    all_goals simp [override]

theorem AliasLimit.overridable (values : AliasLimit) :
    record.Overridable (({} : AliasLimit).override · values) values.toJson where
  distinct := by decide
  start := rfl
  within := by simp [override, record, Record.names, Slot.optional]
  slots := by
    refine .cons (Slot.optional_chooses rfl fun chosen => ?_) <|
      .cons (Slot.optional_chooses (toSmallCount_natural _) fun chosen => ?_) <|
      .cons (Slot.optional_chooses rfl fun chosen => ?_) .nil
    all_goals simp [override]

theorem DirectiveLimit.overridable (values : DirectiveLimit) :
    record.Overridable (({} : DirectiveLimit).override · values) values.toJson where
  distinct := by decide
  start := rfl
  within := by simp [override, record, Record.names, Slot.optional]
  slots := by
    refine .cons (Slot.optional_chooses rfl fun chosen => ?_) <|
      .cons (Slot.optional_chooses (toSmallCount_natural _) fun chosen => ?_) <|
      .cons (Slot.optional_chooses rfl fun chosen => ?_) <|
      .cons (Slot.optional_chooses rfl fun chosen => ?_) .nil
    all_goals simp [override]

theorem SuggestionMask.overridable (values : SuggestionMask) :
    record.Overridable (({} : SuggestionMask).override · values) values.toJson where
  distinct := by decide
  start := rfl
  within := by simp [override, record, Record.names, Slot.optional]
  slots := by
    refine .cons (Slot.optional_chooses rfl fun chosen => ?_) <|
      .cons (Slot.optional_chooses rfl fun chosen => ?_) .nil
    all_goals simp [override]

end QueryShield
