import QueryShield.Protection

namespace QueryShield

def Policy.treeMeasures (policy : Policy) : List (Document → UInt64) :=
  [policy.cost.cost, policy.aliases.count, policy.directives.count, policy.depth.depth]

theorem Policy.treeMeasures_largest (policy : Policy) :
    ∀ measured ∈ policy.treeMeasures,
      ∃ (m : List (String × Json) → Measure UInt64) (ignored : Bool),
      (∀ variableValues, (m variableValues).empty = 0) ∧ ∀ document, measured document =
        (m document.variableValues).largest document (·.isExempt document ignored) := by
  intro measured member
  simp only [treeMeasures, List.mem_cons, List.not_mem_nil, or_false] at member
  rcases member with rfl | rfl | rfl | rfl
  · exact ⟨policy.cost.measure, policy.cost.ignoreIntrospection, fun _ => rfl, fun _ => rfl⟩
  · exact ⟨fun _ => AliasLimit.measure, policy.aliases.ignoreIntrospection, fun _ => rfl,
      fun _ => rfl⟩
  · exact ⟨fun _ => policy.directives.measure, policy.directives.ignoreIntrospection,
      fun _ => rfl, fun _ => rfl⟩
  · exact ⟨fun _ => DepthLimit.measure, policy.depth.ignoreIntrospection, fun _ => rfl,
      fun _ => rfl⟩

/-- The built-in guards see no more of a document than its length and the measured values. -/
theorem Policy.evaluate_congr (policy : Policy) {document other : Document}
    (length : document.sourceLength = other.sourceLength)
    (agree : ∀ measured ∈ policy.treeMeasures, measured document = measured other) :
    ∀ guard ∈ policy.guards, guard.evaluate document = guard.evaluate other := by
  simp only [treeMeasures, List.forall_mem_cons, List.not_mem_nil, false_implies,
    implies_true, and_true] at agree
  obtain ⟨cost, aliases, directives, depth⟩ := agree
  intro guard member
  simp only [guards, List.mem_cons, List.not_mem_nil, or_false] at member
  rcases member with rfl | rfl | rfl | rfl | rfl | rfl
  · rfl
  · simp only [CharacterLimit.guard, length]
  · simp only [CostLimit.guard, cost]
  · simp only [AliasLimit.guard, aliases]
  · simp only [DirectiveLimit.guard, directives]
  · simp only [DepthLimit.guard, depth]

theorem Protection.rejections_congr {document other : Document} (guards : List Guard)
    (agree : ∀ guard ∈ guards, guard.evaluate document = guard.evaluate other) :
    rejections document guards = rejections other guards := by
  induction guards with
  | nil => rfl
  | cons guard rest ih =>
    have later := ih fun guard member => agree guard (List.mem_cons_of_mem _ member)
    simp only [rejections, agree guard List.mem_cons_self, later]

theorem Policy.eq_of_checked {policy accepted : Policy} (sound : policy.checked = .ok accepted) :
    accepted = policy := by
  unfold checked at sound
  split at sound <;> cases sound
  rfl

theorem Policy.protection_of_checked {policy : Policy} (sound : policy.checked = .ok policy) :
    policy.protection = .ok (.ofGuards policy.guards) := by
  rw [protection, checkedGuards, sound]
  rfl

theorem Policy.protectionWith_ofGuards {policy : Policy} {hosts : List Guard}
    {protection : Protection} (accepted : policy.protectionWith hosts = .ok protection) :
    protection = .ofGuards (policy.guards ++ hosts) := by
  unfold protectionWith checkedGuards checked at accepted
  cases sound : policy.check with
  | error fault =>
    rw [sound] at accepted
    cases accepted
  | ok _ =>
    rw [sound] at accepted
    cases accepted
    rfl

theorem Policy.protection_ofGuards {policy : Policy} {protection : Protection}
    (accepted : policy.protection = .ok protection) : protection = .ofGuards policy.guards := by
  have alone : policy.protection = policy.protectionWith [] := by
    simp only [protectionWith, List.append_nil]
    rfl
  rw [alone] at accepted
  have built := protectionWith_ofGuards accepted
  rwa [List.append_nil] at built

theorem Policy.validate_congr {policy : Policy} {protection : Protection}
    (accepted : policy.protection = .ok protection) {document other : Document}
    (length : document.sourceLength = other.sourceLength)
    (agree : ∀ measured ∈ policy.treeMeasures, measured document = measured other) :
    protection.validate document = protection.validate other := by
  obtain rfl := protection_ofGuards accepted
  refine Protection.rejections_congr _ fun guard member => ?_
  exact policy.evaluate_congr length agree guard (List.mem_filter.1 member).1

end QueryShield
