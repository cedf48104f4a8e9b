import Mathlib.Data.List.Forall2
import QueryShield.Proofs.SeparatingMasks
import QueryShield.Proofs.Verdict

namespace QueryShield

def SuggestionMask.shown (setting : SuggestionMask) (message : String) : String :=
  if setting.enabled then Suggestion.mask setting.mask message else message

namespace Protection

theorem extensions_dropDebugDetails (error : ResponseError) :
    (dropDebugDetails error).extensions =
      error.extensions.filter fun entry => entry.1 ≠ "stacktrace" ∧ entry.1 ≠ "exception" :=
  List.filter_congr fun entry _ => by simp [debugExtensions]

theorem not_debugDetail {error : ResponseError} {entry : String × Json}
    (member : entry ∈ (dropDebugDetails error).extensions) :
    entry.1 ≠ "stacktrace" ∧ entry.1 ≠ "exception" := by
  rw [extensions_dropDebugDetails] at member
  exact of_decide_eq_true (List.mem_filter.1 member).2

theorem dropDebugDetails_idempotent (error : ResponseError) :
    dropDebugDetails (dropDebugDetails error) = dropDebugDetails error := by
  simp [dropDebugDetails]

end Protection

namespace Policy

theorem hooks_ofGuards (policy : Policy) (hosts : List Guard) :
    (Protection.ofGuards (policy.guards ++ hosts)).hooks =
      (if policy.fieldSuggestion.enabled then [policy.fieldSuggestion.guard] else []) ++
        hosts.filter fun host => host.isEnabled && host.masksErrors := by
  have own : policy.guards.filter (fun guard => guard.isEnabled && guard.masksErrors) =
      if policy.fieldSuggestion.enabled then [policy.fieldSuggestion.guard] else [] := by
    cases enabled : policy.fieldSuggestion.enabled <;>
      simp [guards, SuggestionMask.guard, CharacterLimit.guard, CostLimit.guard,
        AliasLimit.guard, DirectiveLimit.guard, DepthLimit.guard, enabled]
  simp only [Protection.ofGuards, List.filter_append, own]

/-- The hooks of the host see the message that the built-in one has masked. -/
theorem maskError_ofGuards (policy : Policy) (hosts : List Guard) (error : ResponseError) :
    (Protection.ofGuards (policy.guards ++ hosts)).maskError error =
      Protection.dropDebugDetails
        ((hosts.filter fun host => host.isEnabled && host.masksErrors).foldl
          (fun error host => host.maskError error)
          { error with message := policy.fieldSuggestion.shown error.message }) := by
  change Protection.dropDebugDetails (List.foldl _ error _) = _
  rw [hooks_ofGuards, List.foldl_append, SuggestionMask.shown]
  cases policy.fieldSuggestion.enabled with
  | true =>
    rw [if_pos rfl, if_pos rfl, List.foldl_cons, SuggestionMask.maskError_guard]
    rfl
  | false => rfl

theorem maskError_alone (policy : Policy) {hosts : List Guard}
    (silent : ∀ host ∈ hosts, host.isEnabled = true → host.masksErrors = false)
    (error : ResponseError) :
    (Protection.ofGuards (policy.guards ++ hosts)).maskError error =
      Protection.dropDebugDetails
        { error with message := policy.fieldSuggestion.shown error.message } := by
  have none : (hosts.filter fun host => host.isEnabled && host.masksErrors) = [] := by
    rw [List.filter_eq_nil_iff]
    intro host member active
    obtain ⟨enabled, masks⟩ := Bool.and_eq_true_iff.1 active
    rw [silent host member enabled] at masks
    cases masks
  rw [maskError_ofGuards, none, List.foldl_nil]

/-- Every error comes out in its place and shows no debug details. It has gone through the built-in
hook and those of the host, in their order, and through nothing else. -/
theorem maskErrors_each {policy : Policy} {hosts : List Guard} {protection : Protection}
    (accepted : policy.protectionWith hosts = .ok protection) (errors others : List ResponseError) :
    protection.maskErrors (errors ++ others) =
        protection.maskErrors errors ++ protection.maskErrors others ∧
      List.Forall₂ (fun error masked => masked = Protection.dropDebugDetails
          ((hosts.filter fun host => host.isEnabled && host.masksErrors).foldl
            (fun error host => host.maskError error)
            { error with message := policy.fieldSuggestion.shown error.message }))
        errors (protection.maskErrors errors) ∧
      (∀ masked ∈ protection.maskErrors errors, ∀ entry ∈ masked.extensions,
        entry.1 ≠ "stacktrace" ∧ entry.1 ≠ "exception") ∧
      ((∀ host ∈ hosts, host.isEnabled = true → host.masksErrors = false) →
        List.Forall₂ (fun error masked => masked.locations = error.locations ∧
            masked.path = error.path ∧
            masked.extensions = error.extensions.filter
              (fun entry => entry.1 ≠ "stacktrace" ∧ entry.1 ≠ "exception") ∧
            masked.message = policy.fieldSuggestion.shown error.message)
          errors (protection.maskErrors errors)) := by
  obtain rfl := protectionWith_ofGuards accepted
  refine ⟨List.map_append, ?_, ?_, fun silent => ?_⟩
  · exact List.forall₂_map_right_iff.2
      (List.forall₂_same.2 fun error _ => policy.maskError_ofGuards hosts error)
  · intro masked member entry listed
    obtain ⟨error, -, rfl⟩ := List.mem_map.1 member
    exact Protection.not_debugDetail listed
  · refine List.forall₂_map_right_iff.2 (List.forall₂_same.2 fun error _ => ?_)
    rw [policy.maskError_alone silent]
    exact ⟨rfl, rfl, Protection.extensions_dropDebugDetails _, rfl⟩

end Policy

def unknownField : ResponseError where
  message := "No field nme. Did you mean name?"
  extensions := [("stacktrace", .array []), ("code", .string "INVALID")]

def timeout : ResponseError where
  message := "Timed out"
  path := [.string "user"]

def tracer : Guard where
  kind := .custom "tracer"
  isEnabled := true
  maskError := fun error => { error with extensions := error.extensions ++ [("exception", .null)] }
  masksErrors := true

theorem maskErrors_traced :
    ∃ traced untraced, ({} : Policy).protectionWith [tracer] = .ok traced ∧
      ({} : Policy).protectionWith [{ tracer with isEnabled := false }] = .ok untraced ∧
      traced.maskErrors ([unknownField] ++ [timeout]) =
        traced.maskErrors [unknownField] ++ traced.maskErrors [timeout] ∧
      (∀ masked ∈ traced.maskErrors [unknownField], ∀ entry ∈ masked.extensions,
        entry.1 ≠ "stacktrace" ∧ entry.1 ≠ "exception") ∧
      ∃ masked, untraced.maskErrors [unknownField] = [masked] ∧
        masked.message = "No field nme. [Suggestion hidden]" ∧
        masked.extensions = [("code", .string "INVALID")] := by
  have accepted : ({} : Policy).protectionWith [tracer] =
      .ok (.ofGuards (({} : Policy).guards ++ [tracer])) := rfl
  have accepted' : ({} : Policy).protectionWith [{ tracer with isEnabled := false }] =
      .ok (.ofGuards (({} : Policy).guards ++ [{ tracer with isEnabled := false }])) := rfl
  obtain ⟨append, -, hidden, -⟩ := Policy.maskErrors_each accepted [unknownField] [timeout]
  obtain ⟨-, -, -, alone⟩ := Policy.maskErrors_each accepted' [unknownField] []
  have silent : ∀ host ∈ [{ tracer with isEnabled := false }],
      host.isEnabled = true → host.masksErrors = false := by simp
  refine ⟨_, _, accepted, accepted', append, hidden, _, rfl, ?_⟩
  obtain ⟨-, -, extensions, message⟩ := (List.forall₂_cons.1 (alone silent)).1
  exact ⟨message, extensions⟩

namespace Suggestion

variable {mask : List Char} {first last : Char}

theorem separates_of_ends (opens : mask.head? = some first) (closes : mask.getLast? = some last)
    (foreign : first ∉ phrase) (foreign' : last ∉ phrase) : Separates mask where
  notPart := fun part => foreign (part.subset (List.mem_of_head? opens))
  opensApart := by
    intro ending member some starts
    obtain ⟨c, ending, rfl⟩ := List.exists_cons_of_ne_nil some
    obtain ⟨rest, rfl⟩ := starts
    obtain rfl := Option.some.inj opens
    exact foreign (((List.mem_tails _ _).1 member).subset List.mem_cons_self)
  closesApart := by
    intro opening member some finishes
    obtain ⟨rest, rfl⟩ := finishes
    rw [List.getLast?_append_of_ne_nil _ some] at closes
    exact foreign' (((List.mem_inits _ _).1 member).subset (List.mem_of_getLast? closes))

theorem Separates.mask_mask {mask : String} (separates : Separates mask.toList)
    (maskFree : ¬ phrase <:+: mask.toList) (message : String) :
    Suggestion.mask mask (Suggestion.mask mask message) = Suggestion.mask mask message := by
  apply String.toList_inj.1
  rw [toList_mask mask (Suggestion.mask mask message)]
  exact replaceFrom_free (separates.masked_free maskFree message)

end Suggestion

open Suggestion

theorem SuggestionMask.shown_shown {setting : SuggestionMask} (accepted : setting.check = .ok ())
    (separates : Separates setting.mask.toList) (message : String) :
    setting.shown (setting.shown message) = setting.shown message := by
  unfold shown
  split
  · exact separates.mask_mask (mask_free accepted) message
  · rfl

namespace Policy

theorem fieldSuggestion_check {policy : Policy} {protection : Protection}
    (accepted : policy.protection = .ok protection) : policy.fieldSuggestion.check = .ok () := by
  unfold Policy.protection checkedGuards checked check at accepted
  cases cost : policy.cost.check with
  | error fault =>
    rw [cost] at accepted
    cases accepted
  | ok _ =>
    rw [cost] at accepted
    cases sound : policy.fieldSuggestion.check with
    | error fault =>
      rw [sound] at accepted
      cases accepted
    | ok _ => rfl

/-- Nothing is masked or dropped a second time where the mask is accepted and begins and ends with
characters that the phrase does not have. -/
theorem maskErrors_idempotent {policy : Policy} {protection : Protection}
    (accepted : policy.protection = .ok protection) {first last : Char}
    (opens : policy.fieldSuggestion.mask.toList.head? = some first)
    (closes : policy.fieldSuggestion.mask.toList.getLast? = some last)
    (foreign : first ∉ phrase) (foreign' : last ∉ phrase) (errors : List ResponseError) :
    protection.maskErrors (protection.maskErrors errors) = protection.maskErrors errors := by
  have separates := separates_of_ends opens closes foreign foreign'
  have sound := fieldSuggestion_check accepted
  obtain rfl := protection_ofGuards accepted
  have alone : ∀ error, (Protection.ofGuards policy.guards).maskError error =
      Protection.dropDebugDetails
        { error with message := policy.fieldSuggestion.shown error.message } := by
    intro error
    rw [← policy.maskError_alone (List.forall_mem_nil _) error, List.append_nil]
  rw [Protection.maskErrors, Protection.maskErrors, List.map_map]
  refine List.map_congr_left fun error _ => ?_
  rw [Function.comp_apply, alone, alone]
  change Protection.dropDebugDetails (Protection.dropDebugDetails { error with
    message := policy.fieldSuggestion.shown (policy.fieldSuggestion.shown error.message) }) = _
  rw [SuggestionMask.shown_shown sound separates, Protection.dropDebugDetails_idempotent]

end Policy

/-- What stands around the suggestion is the phrase itself once the suggestion is gone. -/
theorem maskErrors_rejoinedPhrase :
    let errors := [{ unknownField with message := "Did youDid you mean a? mean b?" }, timeout]
    let protection := Protection.ofGuards ({} : Policy).guards
    protection.maskErrors (protection.maskErrors errors) = protection.maskErrors errors := by
  intro errors protection
  have accepted : ({} : Policy).protection = .ok protection := rfl
  have opens : ({} : Policy).fieldSuggestion.mask.toList.head? = some '[' := by decide
  have closes : ({} : Policy).fieldSuggestion.mask.toList.getLast? = some ']' := by decide
  exact Policy.maskErrors_idempotent accepted opens closes (by decide) (by decide) errors

end QueryShield
