import QueryShield.Proofs.GivenSettings
import QueryShield.Proofs.SeparatingMasks
import QueryShield.Proofs.Verdict

namespace QueryShield

open Json

namespace Policy

variable {policy : Policy} {chosen : String → String → Bool} {members : List (String × Json)}

def filled (policy : Policy) (seen : List String) : Policy where
  characterLimit := if "character_limit" ∈ seen then policy.characterLimit else {}
  cost := if "cost" ∈ seen then policy.cost else {}
  depth := if "depth" ∈ seen then policy.depth else {}
  aliases := if "aliases" ∈ seen then policy.aliases else {}
  directives := if "directives" ∈ seen then policy.directives else {}
  fieldSuggestion := if "field_suggestion" ∈ seen then policy.fieldSuggestion else {}

theorem ofJson_given (given : policy.GivenIn chosen members) :
    ofJson (.object members) = .ok (({} : Policy).override chosen policy) := by
  have characterLimit := CharacterLimit.overridable policy.characterLimit
  have cost := CostLimit.overridable policy.cost
  have depth := DepthLimit.overridable policy.depth
  have aliases := AliasLimit.overridable policy.aliases
  have directives := DirectiveLimit.overridable policy.directives
  have fieldSuggestion := SuggestionMask.overridable policy.fieldSuggestion
  refine Record.read_of_known (({} : Policy).override chosen policy).filled
    (fun _ => given.known) rfl ?_ (fun seen told => ?_) .met
  · simp only [record, List.forall_mem_cons]
    refine ⟨Slot.optional_fills given.characterLimit (characterLimit.read_settings .met) ?_,
      Slot.optional_fills given.cost (cost.read_settings .met) ?_,
      Slot.optional_fills given.depth (depth.read_settings .met) ?_,
      Slot.optional_fills given.aliases (aliases.read_settings .met) ?_,
      Slot.optional_fills given.directives (directives.read_settings .met) ?_,
      Slot.optional_fills given.fieldSuggestion (fieldSuggestion.read_settings .met) ?_, nofun⟩
    all_goals intro seen; simp [filled, override]
  · simp only [record, List.forall_mem_cons] at told
    obtain ⟨toldCharacters, toldCost, toldDepth, toldAliases, toldDirectives, toldMask, -⟩ := told
    simp only [filled, override, Policy.mk.injEq]
    exact ⟨given.characterLimit.ite_seen toldCharacters characterLimit.unchosen_settings,
      given.cost.ite_seen toldCost cost.unchosen_settings,
      given.depth.ite_seen toldDepth depth.unchosen_settings,
      given.aliases.ite_seen toldAliases aliases.unchosen_settings,
      given.directives.ite_seen toldDirectives directives.unchosen_settings,
      given.fieldSuggestion.ite_seen toldMask fieldSuggestion.unchosen_settings⟩

def overrides (policy : Policy) (chosen : String → String → Bool) : List (String × Json) :=
  policy.toJson.members.map fun (name, full) =>
    (name, .object (full.members.filter fun member => chosen name member.1))

theorem given_overrides (policy : Policy) (chosen : String → String → Bool) :
    policy.GivenIn chosen (policy.overrides chosen) := by
  have written : ∀ (full : Json) (chosen : String → Bool), Form.settings chosen full
      (some (.object (full.members.filter fun member => chosen member.1))) :=
    fun full chosen => ⟨_, .refl _, .inl rfl⟩
  refine ⟨⟨_, ?_, written _ _⟩, ⟨_, ?_, written _ _⟩, ⟨_, ?_, written _ _⟩, ⟨_, ?_, written _ _⟩,
    ⟨_, ?_, written _ _⟩, ⟨_, ?_, written _ _⟩, ?_⟩
  iterate 6 simp [overrides, toJson, Json.members, underName_cons]
  simp [overrides, toJson, Json.members, settings]

theorem overrides_all (policy : Policy) :
    .object (policy.overrides fun _ _ => true) = policy.toJson := by
  have whole : ∀ full : Json, full.members.filter (fun _ => true) = full.members := fun full => by
    rw [List.filter_eq_self]
    exact fun _ _ => rfl
  simp only [overrides, whole]
  rfl

/-- The table of settings lists the fields of each record as the reader knows them. -/
theorem read_slot_misnamed {inner : List (String × Json)} {fields : List (String × SettingKind)}
    {field : String} {json : Json} (within : (field, json) ∈ inner)
    (unknown : fields.lookup field = none) :
    ∀ slot ∈ record.slots, settings.lookup slot.name = some fields →
      ∀ policy, ∃ fault, slot.read (.object inner) policy = .error fault := by
  have refused : ∀ {σ : Type} {r : Record σ}, r.closed = true → fields.map Prod.fst = r.names →
      ∃ fault, r.read .met (.object inner) = .error fault := fun closed same =>
    Record.read_unknown closed within (same ▸ not_mem_of_lookup unknown) .met
  have listed : ∀ {known : List (String × SettingKind)}, some known = some fields →
      fields = known := fun same => (Option.some.inj same).symm
  simp only [record, List.forall_mem_cons]
  refine ⟨fun known => ?_, fun known => ?_, fun known => ?_, fun known => ?_, fun known => ?_,
    fun known => ?_, nofun⟩
  all_goals
    obtain rfl := listed known
    exact Slot.optional_refused (refused rfl rfl)

theorem ofJson_misnamed (misnamed : Misnamed members) :
    ∃ fault, ofJson (.object members) = .error fault := by
  cases misnamed with
  | @record name _ present unknown =>
    have missing : name ∉ Policy.record.names := not_mem_of_lookup unknown
    exact Record.read_unknown rfl present missing .met
  | field present known within unknown =>
    refine Record.read_refused rfl present (fun slot found => ?_) .met
    obtain ⟨among, rfl⟩ := Record.slot?_eq_some found
    exact read_slot_misnamed within unknown slot among known

end Policy

theorem CostLimit.check_fails_iff {limit : CostLimit} : (∃ fault, limit.check = .error fault) ↔
    limit.listMultiplier = 0 ∨
      ∃ name ∈ limit.listSizeArguments, ∀ c ∈ name.toList, Text.isBlank c := by
  have blank : limit.listSizeArguments.any Text.isBlankText = true ↔
      ∃ name ∈ limit.listSizeArguments, ∀ c ∈ name.toList, Text.isBlank c := by
    simp only [List.any_eq_true, Text.isBlankText, List.all_eq_true]
  rw [← blank, check]
  split
  · next zero => exact ⟨fun _ => .inl zero, fun _ => ⟨_, rfl⟩⟩
  · next positive =>
    split
    · next isBlank => exact ⟨fun _ => .inr isBlank, fun _ => ⟨_, rfl⟩⟩
    · next named => exact ⟨nofun, fun failed => (failed.elim positive named).elim⟩

theorem SuggestionMask.check_fails_iff {setting : SuggestionMask} :
    (∃ fault, setting.check = .error fault) ↔ Suggestion.phrase <:+: setting.mask.toList := by
  rw [← Suggestion.occursIn_iff, check]
  split
  · next occurs => exact ⟨fun _ => occurs, fun _ => ⟨_, rfl⟩⟩
  · next absent => exact ⟨nofun, fun occurs => absurd occurs absent⟩

namespace Policy

theorem check_fails_iff {policy : Policy} : (∃ fault, policy.check = .error fault) ↔
    policy.cost.listMultiplier = 0 ∨
    (∃ name ∈ policy.cost.listSizeArguments, ∀ c ∈ name.toList, Text.isBlank c) ∨
    Suggestion.phrase <:+: policy.fieldSuggestion.mask.toList := by
  rw [← or_assoc, ← CostLimit.check_fails_iff, ← SuggestionMask.check_fails_iff]
  unfold check
  cases cost : policy.cost.check with
  | error fault => exact ⟨fun _ => .inl ⟨fault, rfl⟩, fun _ => ⟨fault, rfl⟩⟩
  | ok _ => exact ⟨.inr, fun failed => failed.resolve_left nofun⟩

theorem resolve_of_ofJson {overrides : Json} {merged : Policy}
    (read : ofJson overrides = .ok merged) :
    (merged.check = .ok () → resolve overrides = .ok merged) ∧
    ∀ fault, merged.check = .error fault → resolve overrides = .error (.setting fault) := by
  have resolved : resolve overrides = merged.checked := by rw [resolve, read]
  constructor
  · intro sound
    rw [resolved, checked, sound]
  · intro fault failed
    rw [resolved, checked, failed]

theorem protection_of_resolve {overrides : Json} {policy : Policy}
    (resolved : resolve overrides = .ok policy) :
    policy.protection = .ok (.ofGuards policy.guards) := by
  unfold resolve at resolved
  split at resolved
  · obtain rfl := eq_of_checked resolved
    exact protection_of_checked resolved
  · cases resolved

/-- Overrides that give some settings of a policy replace those of the default policy, or else say
which setting makes no sense; so a policy is read back from all of its settings. Overrides with a
name that is no setting are never read. A policy makes no sense in three ways only, and one that was
resolved has a protection. -/
theorem resolve_overrides (policy : Policy) :
    (∀ chosen members, policy.GivenIn chosen members →
      let merged := ({} : Policy).override chosen policy
      (merged.check = .ok () → resolve (.object members) = .ok merged) ∧
      ∀ fault, merged.check = .error fault →
        resolve (.object members) = .error (.setting fault)) ∧
    (policy.check = .ok () → resolve policy.toJson = .ok policy) ∧
    (∀ members, Misnamed members → ∃ fault, resolve (.object members) = .error (.json fault)) ∧
    ((∃ fault, policy.check = .error fault) ↔
      policy.cost.listMultiplier = 0 ∨
      (∃ name ∈ policy.cost.listSizeArguments, ∀ c ∈ name.toList, Text.isBlank c) ∨
      Suggestion.phrase <:+: policy.fieldSuggestion.mask.toList) ∧
    ∀ overrides, resolve overrides = .ok policy →
      policy.protection = .ok (.ofGuards policy.guards) := by
  refine ⟨fun chosen members given => resolve_of_ofJson (ofJson_given given), ?_,
    fun members misnamed => ?_, check_fails_iff, fun overrides => protection_of_resolve⟩
  · have read := ofJson_given (policy.given_overrides fun _ _ => true)
    rw [overrides_all, override_all] at read
    exact (resolve_of_ofJson read).1
  · obtain ⟨fault, failed⟩ := ofJson_misnamed misnamed
    exact ⟨fault, by rw [resolve, failed]⟩

end Policy

def mildPolicy : Policy where
  cost := { maxCost := 300 }
  depth := { maxDepth := 4 }

def harshPolicy : Policy where
  cost := { maxCost := 300, listMultiplier := 0 }
  depth := { enabled := false, maxDepth := 4 }

def limitsOnly (record field : String) : Bool :=
  [("cost", "max_cost"), ("depth", "max_depth")].contains (record, field)

def limitOverrides : List (String × Json) :=
  [("depth", .object [("max_depth", .natural 4)]), ("aliases", .object []),
    ("cost", .object [("max_cost", .natural 300)])]

theorem harshPolicy_given : harshPolicy.GivenIn limitsOnly limitOverrides := by
  have left : ∀ {chosen : String → Bool} {full : Json},
      (full.members.filter fun member => chosen member.1) = [] → Form.settings chosen full none :=
    fun none => ⟨[], by rw [none], .inr ⟨rfl, rfl⟩⟩
  refine ⟨⟨none, ?_, left rfl⟩, ⟨some _, ?_, _, .refl _, .inl rfl⟩,
    ⟨some _, ?_, _, .refl _, .inl rfl⟩, ⟨some _, ?_, _, .refl _, .inl rfl⟩, ⟨none, ?_, left rfl⟩,
    ⟨none, ?_, left rfl⟩, by decide⟩
  all_goals rfl

theorem resolve_harshPolicy :
    Policy.resolve (.object limitOverrides) = .ok mildPolicy ∧
    Policy.resolve harshPolicy.toJson = .error (.setting .zeroListMultiplier) ∧
    (∃ fault, Policy.resolve (.object [("depth", .object [("max_cost", .natural 300)])]) =
      .error (.json fault)) ∧
    (∃ fault, harshPolicy.check = .error fault) ∧
    Policy.resolve mildPolicy.toJson = .ok mildPolicy ∧
    mildPolicy.protection = .ok (.ofGuards mildPolicy.guards) := by
  obtain ⟨given, -, misnamed, fails, -⟩ := Policy.resolve_overrides harshPolicy
  obtain ⟨-, readBack, -, -, protects⟩ := Policy.resolve_overrides mildPolicy
  have merged := (given _ _ harshPolicy_given).1 rfl
  have whole := given _ _ (harshPolicy.given_overrides fun _ _ => true)
  rw [Policy.overrides_all, Policy.override_all] at whole
  have misplaced : Policy.Misnamed [("depth", .object [("max_cost", .natural 300)])] :=
    .field (List.mem_singleton_self _) rfl (List.mem_singleton_self _) rfl
  exact ⟨merged, whole.2 _ rfl, misnamed _ misplaced, fails.2 (.inl rfl), readBack rfl,
    protects _ merged⟩

end QueryShield
