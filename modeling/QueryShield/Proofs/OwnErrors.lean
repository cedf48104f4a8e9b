import Mathlib
import QueryShield.Proofs.Composition
import QueryShield.Proofs.ResponseHooks

namespace QueryShield

namespace Suggestion

theorem free_of_not_mem {text : List Char} (absent : 'D' ∉ text) : ¬ phrase <:+: text :=
  fun inText => absent (inText.subset (by decide))

theorem not_mem_decimal (n : Nat) : 'D' ∉ (toString n).toList := by
  rw [Nat.toString_eq_repr, Nat.toList_repr]
  intro member
  have digit : Char.isDigit 'D' :=
    Nat.isDigit_of_mem_toDigits (by decide) (by decide) member
  cases digit

theorem mask_of_free (mask : String) {message : String} (free : ¬ phrase <:+: message.toList) :
    Suggestion.mask mask message = message := by
  rw [Suggestion.mask, masked?_eq_none.2 free, Option.getD_none]

end Suggestion

inductive Violation.BuiltIn : Violation → Prop
  | characterLimit (observed limit : UInt64) : BuiltIn (.characterLimit observed limit)
  | cost (observed limit : UInt64) : BuiltIn (.cost observed limit)
  | aliases (observed : UInt64) (limit : UInt32) : BuiltIn (.aliases observed limit)
  | directives (observed : UInt64) (limit : UInt32) : BuiltIn (.directives observed limit)
  | depth (observed : UInt64) (limit : UInt32) : BuiltIn (.depth observed limit)
  | batch (operations : UInt64) : BuiltIn (.batch operations)

theorem not_mem_comparison {opening middle : String} (observed limit : Nat)
    (opens : 'D' ∉ opening.toList) (joins : 'D' ∉ middle.toList) :
    'D' ∉ (opening ++ toString observed ++ middle ++ toString limit).toList := by
  simp only [String.toList_append, List.mem_append, not_or]
  exact ⟨⟨⟨opens, Suggestion.not_mem_decimal observed⟩, joins⟩, Suggestion.not_mem_decimal limit⟩

theorem Violation.BuiltIn.message_free {violation : Violation} (builtIn : violation.BuiltIn) :
    ¬ Suggestion.phrase <:+: violation.message.toList := by
  apply Suggestion.free_of_not_mem
  -- All messages but the last name what was observed and what is allowed.
  cases builtIn with
  | characterLimit => exact not_mem_comparison _ _ (by decide) (by decide)
  | cost => exact not_mem_comparison _ _ (by decide) (by decide)
  | aliases => exact not_mem_comparison _ _ (by decide) (by decide)
  | directives => exact not_mem_comparison _ _ (by decide) (by decide)
  | depth => exact not_mem_comparison _ _ (by decide) (by decide)
  | batch operations =>
    simp only [Violation.batch, String.toList_append, List.mem_append, not_or]
    exact ⟨⟨by decide, Suggestion.not_mem_decimal operations.toNat⟩, by decide⟩

theorem Policy.evaluate_builtIn (policy : Policy) {guard : Guard} (member : guard ∈ policy.guards)
    {document : Document} {violation : Violation}
    (rejects : guard.evaluate document = some violation) : violation.BuiltIn := by
  simp only [guards, List.mem_cons, List.not_mem_nil, or_false] at member
  rcases member with rfl | rfl | rfl | rfl | rfl | rfl
  · cases rejects
  all_goals obtain ⟨-, rfl⟩ := violationAbove_eq_some rejects
  · exact .characterLimit ..
  · exact .cost ..
  · exact .aliases ..
  · exact .directives ..
  · exact .depth ..

def Protection.found (protection : Protection) (document : Document) (operations : UInt64) :
    List Violation :=
  protection.validate document ++ (protection.checkBatch operations).toList

theorem Policy.found_builtIn (policy : Policy) {document : Document} {operations : UInt64}
    {violation : Violation}
    (member : violation ∈ (Protection.ofGuards policy.guards).found document operations) :
    violation.BuiltIn := by
  rcases List.mem_append.1 member with inDocument | ofBatch
  · obtain ⟨guard, listed, rejects⟩ := Protection.mem_rejections inDocument
    exact policy.evaluate_builtIn (List.mem_filter.1 listed).1 rejects
  · rw [Option.mem_toList, Protection.checkBatch] at ofBatch
    split at ofBatch
    · obtain rfl := Option.some.inj ofBatch
      exact .batch operations
    · cases ofBatch

theorem Protection.dropDebugDetails_ofViolation (violation : Violation) :
    dropDebugDetails (.ofViolation violation) = .ofViolation violation := rfl

theorem Policy.maskError_builtIn (policy : Policy) {violation : Violation}
    (builtIn : violation.BuiltIn) :
    (Protection.ofGuards policy.guards).maskError (.ofViolation violation) =
      .ofViolation violation := by
  have shown : policy.fieldSuggestion.shown (ResponseError.ofViolation violation).message =
      violation.message := by
    rw [SuggestionMask.shown, ResponseError.ofViolation,
      Suggestion.mask_of_free _ builtIn.message_free, ite_self]
  rw [← List.append_nil policy.guards, policy.maskError_alone (List.forall_mem_nil _), shown]
  exact Protection.dropDebugDetails_ofViolation violation

/-- Two accepted policies, one that finds the violations and one whose hooks run on the errors for
them. No hook changes the message or an extension of such an error, whatever the numbers in it. -/
theorem Policy.maskErrors_found {policy other : Policy} {protection masking : Protection}
    (accepted : policy.protection = .ok protection)
    (accepted' : other.protection = .ok masking) :
    (∀ document operations,
      masking.maskErrors ((protection.found document operations).map .ofViolation) =
        (protection.found document operations).map .ofViolation) ∧
    (∀ document operations, ∀ violation ∈ protection.found document operations,
      violation.BuiltIn) ∧
    ∀ violation : Violation, violation.BuiltIn →
      (∀ mask, Suggestion.mask mask violation.message = violation.message) ∧
      masking.maskError (.ofViolation violation) =
        { message := violation.message
          extensions := [("code", .string violation.code.text),
            ("observed", .natural violation.observed), ("limit", .natural violation.limit),
            ("zentinel", .boolean true)] } := by
  obtain rfl := protection_ofGuards accepted
  obtain rfl := protection_ofGuards accepted'
  refine ⟨fun document operations => ?_, fun _ _ _ => policy.found_builtIn,
    fun violation builtIn => ⟨fun mask => ?_, other.maskError_builtIn builtIn⟩⟩
  · rw [Protection.maskErrors, List.map_map]
    exact List.map_congr_left fun violation member =>
      other.maskError_builtIn (policy.found_builtIn member)
  · exact Suggestion.mask_of_free mask builtIn.message_free

def queryMask : Policy where
  fieldSuggestion := { mask := "Query" }

theorem maskErrors_aliasedQuery :
    ∃ protection masking, shortQueries.protection = .ok protection ∧
      queryMask.protection = .ok masking ∧
      protection.found aliasedQuery 3 = [.aliases 1 0, .batch 3] ∧
      masking.maskErrors ([.aliases 1 0, .batch 3].map .ofViolation) =
        [.aliases 1 0, .batch 3].map .ofViolation ∧
      Suggestion.mask "" (Violation.depth 31 30).message =
        "Query depth of 31 exceeds maximum allowed depth of 30" := by
  have accepted : shortQueries.protection = .ok (.ofGuards shortQueries.guards) := rfl
  have accepted' : queryMask.protection = .ok (.ofGuards queryMask.guards) := rfl
  have found : (Protection.ofGuards shortQueries.guards).found aliasedQuery 3 =
      [.aliases 1 0, .batch 3] := by cbv
  obtain ⟨unchanged, -, each⟩ := Policy.maskErrors_found accepted accepted'
  have masked := unchanged aliasedQuery 3
  rw [found] at masked
  exact ⟨_, _, accepted, accepted', found, masked, ((each _ (.depth 31 30)).1 "").trans (by decide)⟩

end QueryShield
