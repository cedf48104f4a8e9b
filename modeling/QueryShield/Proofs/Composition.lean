import Mathlib
import QueryShield.Proofs.Verdict

namespace QueryShield

def Guard.stops (guard : Guard) (document : Document) : Bool :=
  guard.shortCircuits && (guard.evaluate document).isSome

def Policy.threshold? (policy : Policy) : GuardKind → Option (ViolationCode × UInt64)
  | .characterLimit => some (.characterLimit, policy.characterLimit.maxCharacters)
  | .cost => some (.cost, policy.cost.maxCost)
  | .aliases => some (.aliases, policy.aliases.maxAliases.toUInt64)
  | .directives => some (.directives, policy.directives.maxDirectives.toUInt64)
  | .depth => some (.depth, policy.depth.maxDepth.toUInt64)
  | .fieldSuggestion => none
  | .custom _ => none

theorem violationAbove_eq_some {observed limit : UInt64} {violation found : Violation}
    (rejects : violationAbove observed limit violation = some found) :
    limit < observed ∧ found = violation := by
  unfold violationAbove at rejects
  split at rejects
  · rename_i above
    exact ⟨above, (Option.some.inj rejects).symm⟩
  · cases rejects

namespace Protection

variable {document : Document} {guard : Guard} {guards behind : List Guard}

theorem validators_cons_of_active (enabled : guard.isEnabled = true)
    (validates : guard.validates = true) :
    (ofGuards (guard :: behind)).validators = guard :: (ofGuards behind).validators := by
  simp [ofGuards, enabled, validates]

theorem validators_cons_of_silent (silent : guard.validates = false) :
    (ofGuards (guard :: behind)).validators = (ofGuards behind).validators := by
  simp [ofGuards, silent]

theorem rejections_append (document : Document) (first second : List Guard) :
    rejections document (first ++ second) = rejections document first ++
      if first.any (·.stops document) then [] else rejections document second := by
  induction first with
  | nil => rfl
  | cons guard rest ih =>
    rw [List.cons_append, rejections, rejections, ih, List.any_cons, Guard.stops]
    cases guard.evaluate document with
    | none => simp
    | some violation => cases guard.shortCircuits <;> simp

theorem rejections_of_stops (stops : guard.stops document = true) :
    rejections document (guard :: behind) = [guard].filterMap (·.evaluate document) := by
  obtain ⟨shortCircuits, rejects⟩ := Bool.and_eq_true_iff.1 stops
  obtain ⟨violation, rejects⟩ := Option.isSome_iff_exists.1 rejects
  simp [rejections, rejects, shortCircuits]

theorem rejections_of_passes (passes : ∀ guard ∈ guards, guard.stops document = false) :
    rejections document guards = guards.filterMap (·.evaluate document) := by
  induction guards with
  | nil => rfl
  | cons guard rest ih =>
    obtain ⟨here, later⟩ := List.forall_mem_cons.1 passes
    rw [rejections, ih later, List.filterMap_cons]
    cases rejects : guard.evaluate document with
    | none => rfl
    | some violation =>
      have further : guard.shortCircuits = false := by simpa [Guard.stops, rejects] using here
      simp [further]

theorem rejections_sublist (document : Document) (guards : List Guard) :
    (rejections document guards).Sublist (guards.filterMap (·.evaluate document)) := by
  induction guards with
  | nil => exact .slnil
  | cons guard rest ih =>
    rw [rejections, List.filterMap_cons]
    cases guard.evaluate document with
    | none => exact ih
    | some violation =>
      cases guard.shortCircuits with
      | false => exact ih.cons_cons violation
      | true => exact (List.nil_sublist _).cons_cons violation

theorem mem_rejections {violation : Violation} (member : violation ∈ rejections document guards) :
    ∃ guard ∈ guards, guard.evaluate document = some violation :=
  List.mem_filterMap.1 ((rejections_sublist document guards).subset member)

theorem validate_of_stops {protection : Protection} {before : List Guard}
    (split : protection.validators = before ++ guard :: behind)
    (passes : ∀ earlier ∈ before, earlier.stops document = false)
    (stops : guard.stops document = true) :
    protection.validate document = (before ++ [guard]).filterMap (·.evaluate document) := by
  have further : before.any (·.stops document) = false := by
    simpa only [List.any_eq_false, Bool.not_eq_true] using passes
  rw [validate, split, rejections_append, further, rejections_of_passes passes,
    List.filterMap_append]
  simp only [Bool.false_eq_true, ↓reduceIte, rejections_of_stops stops]

theorem first_stop (document : Document) (guards : List Guard) :
    (∃ before guard behind, guards = before ++ guard :: behind ∧
      (∀ earlier ∈ before, earlier.stops document = false) ∧ guard.stops document = true) ∨
    ∀ guard ∈ guards, guard.stops document = false := by
  cases found : guards.find? (·.stops document) with
  | none =>
    right
    intro guard member
    simpa using List.find?_eq_none.1 found guard member
  | some guard =>
    left
    obtain ⟨stops, before, behind, split, passes⟩ := List.find?_eq_some_iff_append.1 found
    refine ⟨before, guard, behind, split, fun earlier member => ?_, stops⟩
    simpa using passes earlier member

/-- What the guards in front find, and what those behind them find unless one in front stops. -/
theorem validate_append (document : Document) (guards hosts : List Guard) :
    ∃ others, (ofGuards (guards ++ hosts)).validate document =
        (ofGuards guards).validate document ++ others ∧
      ∀ violation ∈ others, ∃ host ∈ hosts, host.isEnabled = true ∧ host.validates = true ∧
        host.evaluate document = some violation := by
  have parts : (ofGuards (guards ++ hosts)).validators =
      (ofGuards guards).validators ++ (ofGuards hosts).validators := List.filter_append _ _
  rw [validate, parts, rejections_append]
  refine ⟨_, rfl, fun violation member => ?_⟩
  split at member
  · exact absurd member List.not_mem_nil
  · obtain ⟨host, listed, rejects⟩ := mem_rejections member
    obtain ⟨given, active⟩ := List.mem_filter.1 listed
    obtain ⟨enabled, validates⟩ := Bool.and_eq_true_iff.1 active
    exact ⟨host, given, enabled, validates, rejects⟩

end Protection

namespace Policy

theorem evaluate_guards (policy : Policy) {guard : Guard} (member : guard ∈ policy.guards)
    {document : Document} {violation : Violation}
    (rejects : guard.evaluate document = some violation) :
    policy.threshold? guard.kind = some (violation.code, violation.limit) ∧
      violation.limit < violation.observed := by
  simp only [guards, List.mem_cons, List.not_mem_nil, or_false] at member
  rcases member with rfl | rfl | rfl | rfl | rfl | rfl
  · cases rejects
  all_goals
    obtain ⟨above, rfl⟩ := violationAbove_eq_some rejects
    exact ⟨rfl, above⟩

theorem codes_sublist (policy : Policy) (document : Document) {guards : List Guard}
    (own : ∀ guard ∈ guards, guard ∈ policy.guards) :
    ((guards.filterMap (·.evaluate document)).map Violation.code).Sublist
      (guards.filterMap fun guard => (policy.threshold? guard.kind).map Prod.fst) := by
  induction guards with
  | nil => exact .slnil
  | cons guard rest ih =>
    obtain ⟨here, later⟩ := List.forall_mem_cons.1 own
    rw [List.filterMap_cons, List.filterMap_cons]
    cases rejects : guard.evaluate document with
    | none =>
      cases (policy.threshold? guard.kind).map Prod.fst with
      | none => exact ih later
      | some code => exact (ih later).cons code
    | some violation =>
      rw [(policy.evaluate_guards here rejects).1]
      exact (ih later).cons_cons _

theorem codes_validate (policy : Policy) (document : Document) :
    (((Protection.ofGuards policy.guards).validate document).map Violation.code).Sublist
      [.characterLimit, .cost, .aliases, .directives, .depth] := by
  have enabled : (Protection.ofGuards policy.guards).validators.Sublist policy.guards :=
    List.filter_sublist
  have found : (((Protection.ofGuards policy.guards).validate document).map Violation.code).Sublist
      (((Protection.ofGuards policy.guards).validators.filterMap (·.evaluate document)).map
        Violation.code) := (Protection.rejections_sublist _ _).map _
  have ofKinds := policy.codes_sublist document fun guard member => enabled.subset member
  exact (found.trans ofKinds).trans (enabled.filterMap _)

theorem validate_tooLong {policy : Policy} {document : Document} (hosts : List Guard)
    (enabled : policy.characterLimit.enabled = true)
    (tooLong : policy.characterLimit.maxCharacters < document.sourceLength) :
    (Protection.ofGuards (policy.guards ++ hosts)).validate document =
      [.characterLimit document.sourceLength policy.characterLimit.maxCharacters] := by
  have first : (Protection.ofGuards (policy.guards ++ hosts)).validators =
      policy.characterLimit.guard ::
        (Protection.ofGuards (policy.guards.drop 2 ++ hosts)).validators :=
    (Protection.validators_cons_of_silent rfl).trans
      (Protection.validators_cons_of_active enabled rfl)
  have rejects : policy.characterLimit.guard.evaluate document = some
      (.characterLimit document.sourceLength policy.characterLimit.maxCharacters) := if_pos tooLong
  have stops : policy.characterLimit.guard.stops document = true := by
    rw [Guard.stops, rejects]
    rfl
  rw [Protection.validate, first, Protection.rejections_of_stops stops, List.filterMap_cons,
    rejects]
  rfl

/-- The protection of an accepted policy with further guards of a host. The enabled guards are at
work in the order in which they were set up. What a validation answers is all that is found up to
the first validator that rejects and spares those behind it, whatever these would find. What the
built-in guards find comes first: at most one violation for each, of its kind and beyond its limit,
and that of the length alone if the text is too long. -/
theorem validate_composed {policy : Policy} {hosts : List Guard} {protection : Protection}
    (accepted : policy.protectionWith hosts = .ok protection) :
    (policy.guards.map Guard.kind =
        [.fieldSuggestion, .characterLimit, .cost, .aliases, .directives, .depth] ∧
      protection.validators =
        (policy.guards ++ hosts).filter (fun guard => guard.isEnabled && guard.validates) ∧
      protection.hooks =
        (policy.guards ++ hosts).filter (fun guard => guard.isEnabled && guard.masksErrors)) ∧
    ∀ document : Document,
      ((∃ before guard behind, protection.validators = before ++ guard :: behind ∧
          (∀ earlier ∈ before, earlier.stops document = false) ∧ guard.stops document = true ∧
          protection.validate document = (before ++ [guard]).filterMap (·.evaluate document) ∧
          ∀ others, { protection with validators := before ++ guard :: others }.validate document =
            protection.validate document) ∨
        (∀ guard ∈ protection.validators, guard.stops document = false) ∧
          protection.validate document =
            protection.validators.filterMap (·.evaluate document)) ∧
      (policy.characterLimit.enabled = true →
        policy.characterLimit.maxCharacters < document.sourceLength →
        protection.validate document =
          [.characterLimit document.sourceLength policy.characterLimit.maxCharacters]) ∧
      ∃ own others, protection.validate document = own ++ others ∧
        (own.map Violation.code).Sublist [.characterLimit, .cost, .aliases, .directives, .depth] ∧
        (∀ violation ∈ own, ∃ guard ∈ policy.guards, guard.isEnabled = true ∧
          guard.validates = true ∧ guard.evaluate document = some violation ∧
          policy.threshold? guard.kind = some (violation.code, violation.limit) ∧
          violation.limit < violation.observed) ∧
        ∀ violation ∈ others, ∃ host ∈ hosts, host.isEnabled = true ∧ host.validates = true ∧
          host.evaluate document = some violation := by
  obtain rfl := protectionWith_ofGuards accepted
  refine ⟨⟨rfl, rfl, rfl⟩, fun document => ⟨?_, validate_tooLong hosts, ?_⟩⟩
  · rcases Protection.first_stop document (Protection.ofGuards (policy.guards ++ hosts)).validators
      with ⟨before, guard, behind, split, passes, stops⟩ | passes
    · have answer := Protection.validate_of_stops split passes stops
      refine .inl ⟨before, guard, behind, split, passes, stops, answer, fun others => ?_⟩
      rw [answer]
      exact Protection.validate_of_stops rfl passes stops
    · exact .inr ⟨passes, Protection.rejections_of_passes passes⟩
  · obtain ⟨others, whole, fromHosts⟩ := Protection.validate_append document policy.guards hosts
    refine ⟨_, others, whole, policy.codes_validate document, fun violation member => ?_, fromHosts⟩
    obtain ⟨guard, listed, rejects⟩ := Protection.mem_rejections member
    obtain ⟨built, active⟩ := List.mem_filter.1 listed
    obtain ⟨enabled, validates⟩ := Bool.and_eq_true_iff.1 active
    obtain ⟨threshold, above⟩ := policy.evaluate_guards built rejects
    exact ⟨guard, built, enabled, validates, rejects, threshold, above⟩

end Policy

def shortQueries : Policy where
  characterLimit := { maxCharacters := 40 }
  aliases := { maxAliases := 0 }

def refusal : Violation where
  code := .cost
  message := "No tokens left"
  observed := 1
  limit := 0

def tokenBucket : Guard where
  kind := .custom "token_bucket"
  isEnabled := true
  evaluate := fun _ => some refusal
  shortCircuits := true

def lastResort : Guard where
  kind := .custom "last_resort"
  isEnabled := true
  evaluate := fun _ => some refusal

def aliasedQuery : Document where
  sourceLength := 40
  operations := [{ selectionSet := [.field { name := "user", aliasName := some "me" } []] }]

theorem validate_shortQueries :
    ∃ protection, shortQueries.protectionWith [tokenBucket, lastResort] = .ok protection ∧
      protection.validate { aliasedQuery with sourceLength := 41 } = [.characterLimit 41 40] ∧
      protection.validate aliasedQuery = [.aliases 1 0, refusal] := by
  have accepted : shortQueries.protectionWith [tokenBucket, lastResort] =
      .ok (.ofGuards (shortQueries.guards ++ [tokenBucket, lastResort])) := rfl
  obtain ⟨-, answers⟩ := Policy.validate_composed accepted
  obtain ⟨-, tooLong, -⟩ := answers { aliasedQuery with sourceLength := 41 }
  refine ⟨_, accepted, tooLong rfl (by decide), ?_⟩
  cbv

end QueryShield
