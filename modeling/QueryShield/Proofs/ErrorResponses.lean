import Mathlib
import QueryShield.Proofs.WrittenErrors

namespace QueryShield

open Json

def inCapitals (title : String) : String :=
  match title.toList with
  | [] => ""
  | first :: rest =>
    String.ofList ((first :: rest.flatMap fun c => if c.isUpper then ['_', c] else [c]).map
      Char.toUpper)

namespace ViolationCode

def title : ViolationCode → String
  | characterLimit => "CharacterLimitExceeded"
  | cost => "MaxCostExceeded"
  | aliases => "MaxAliasesExceeded"
  | directives => "MaxDirectivesExceeded"
  | depth => "MaxDepthExceeded"
  | batch => "BatchedRequestsDisabled"

def titles : List (String × ViolationCode) := all.map fun code => (inCapitals code.title, code)

theorem inCapitals_title (code : ViolationCode) : inCapitals code.title = code.text := by
  cases code <;> cbv

theorem titles_eq_names : titles = names := by
  simp only [titles, names, inCapitals_title]

theorem lookup_titles (code : ViolationCode) : titles.lookup code.text = some code := by
  rw [titles_eq_names]
  cases code <;> rfl

end ViolationCode

namespace ResponseError

/-- The error is about the violation and says nothing else. -/
structure Reports (origin : Origin) (error : ResponseError) (violation : Violation) : Prop where
  message : error.message = violation.message
  locations : error.locations = []
  path : error.path = []
  names : (error.extensions.map Prod.fst).Perm ["code", "observed", "limit", "zentinel"]
  code : (lastNamed "code" error.extensions).map (toChoice origin ViolationCode.titles) =
    some (.ok violation.code)
  observed : (lastNamed "observed" error.extensions).map toCount = some (.ok violation.observed)
  limit : (lastNamed "limit" error.extensions).map toCount = some (.ok violation.limit)
  zentinel : lastNamed "zentinel" error.extensions = some (.boolean true)

namespace Reports

variable {origin : Origin} {error : ResponseError} {violation other : Violation}

theorem distinct (reports : error.Reports origin violation) :
    (error.extensions.map Prod.fst).Nodup :=
  reports.names.nodup_iff.2 (by decide)

theorem sorted (reports : error.Reports origin violation) :
    { error with extensions := sortedByName error.extensions }.Reports origin violation where
  message := reports.message
  locations := reports.locations
  path := reports.path
  names := ((sortedByName_perm reports.distinct).map Prod.fst).trans reports.names
  code := by rw [lastNamed_sortedByName reports.distinct, reports.code]
  observed := by rw [lastNamed_sortedByName reports.distinct, reports.observed]
  limit := by rw [lastNamed_sortedByName reports.distinct, reports.limit]
  zentinel := by rw [lastNamed_sortedByName reports.distinct, reports.zentinel]

theorem unique (reports : error.Reports origin violation) (others : error.Reports origin other) :
    violation = other := by
  have code := Option.some.inj (reports.code.symm.trans others.code)
  have message := reports.message.symm.trans others.message
  have observed := Option.some.inj (reports.observed.symm.trans others.observed)
  have limit := Option.some.inj (reports.limit.symm.trans others.limit)
  cases violation
  cases other
  rw [Violation.mk.injEq]
  exact ⟨Except.ok.inj code, message, Except.ok.inj observed, Except.ok.inj limit⟩

end Reports

theorem reports_ofViolation (origin : Origin) (violation : Violation) :
    (ofViolation violation).Reports origin violation where
  message := rfl
  locations := rfl
  path := rfl
  names := .refl _
  code := congrArg some (readName_of_lookup (ViolationCode.lookup_titles violation.code))
  observed := congrArg some (toCount_natural violation.observed)
  limit := congrArg some (toCount_natural violation.limit)
  zentinel := rfl

theorem written_canonical (violation : Violation) :
    { ofViolation violation with
      extensions := sortedByName (ofViolation violation).extensions }.Written
        (ofViolation violation).toJson.canonical := by
  let members : List (String × Json) := [("message", .string violation.message),
    ("extensions", .object (sortedByName (ofViolation violation).extensions))]
  have distinct : (members.map Prod.fst).Nodup := by simp [members]
  have same : (ofViolation violation).toJson.canonical = .object (sortedByName members) := rfl
  refine ⟨_, same, {
    message := Holds.sorted distinct ⟨some (.string violation.message),
      by simp [members, underName_cons], rfl⟩
    locations := Holds.sorted distinct ⟨none, by simp [members, underName_cons], .inr ⟨rfl, rfl⟩⟩
    path := Holds.sorted distinct ⟨none, by simp [members, underName_cons], .inr ⟨rfl, rfl⟩⟩
    extensions := Holds.sorted distinct ⟨some _, by simp [members, underName_cons], .inl rfl⟩ }⟩

end ResponseError

def ReportsAll (origin : Origin) (response : Json) (violations : List Violation) : Prop :=
  ∃ json errors, response.member? "errors" = some json ∧
    Json.toList (ResponseError.ofJson origin) json = .ok errors ∧
    List.Forall₂ (ResponseError.Reports origin) errors violations

namespace ReportsAll

variable {origin : Origin} {response : Json} {violations others : List Violation}

theorem of_written {write : Violation → Json} {error : Violation → ResponseError}
    (errors : response.member? "errors" = some (.array (violations.map write)))
    (written : ∀ violation, (error violation).Written (write violation))
    (reports : ∀ violation, (error violation).Reports origin violation) :
    ReportsAll origin response violations := by
  refine ⟨_, violations.map error, errors, readAll_of_forall₂ ?_, ?_⟩
  · rw [List.forall₂_map_left_iff, List.forall₂_map_right_iff]
    exact List.forall₂_same.2 fun violation _ =>
      ResponseError.ofJson_written origin (written violation)
  · rw [List.forall₂_map_left_iff]
    exact List.forall₂_same.2 fun violation _ => reports violation

theorem unique (reports : ReportsAll origin response violations)
    (same : ReportsAll origin response others) : violations = others := by
  obtain ⟨json, errors, member, read, first⟩ := reports
  obtain ⟨json', errors', member', read', second⟩ := same
  obtain rfl := Option.some.inj (member.symm.trans member')
  obtain rfl := Except.ok.inj (read.symm.trans read')
  have determined : Relator.RightUnique (ResponseError.Reports origin) :=
    fun _ _ _ => ResponseError.Reports.unique
  exact determined.forall₂ first second

end ReportsAll

theorem reportsAll_errorResponse (origin : Origin) (violations : List Violation) :
    ReportsAll origin (errorResponse violations) violations :=
  .of_written rfl (fun violation => (ResponseError.ofViolation violation).written_toJson)
    (ResponseError.reports_ofViolation origin)

theorem reportsAll_canonical (origin : Origin) (violations : List Violation) :
    ReportsAll origin (errorResponse violations).canonical violations := by
  refine .of_written ?_ ResponseError.written_canonical
    fun violation => (ResponseError.reports_ofViolation origin violation).sorted
  -- The one member stays alone; the errors in it are the written forms of above.
  have members : (errorResponse violations).canonical = .object (sortedByName [("errors",
      .array (violations.map fun violation =>
        (ResponseError.ofViolation violation).toJson.canonical))]) := by
    rw [errorResponse, canonical, canonicalMembers, canonicalMembers, canonical,
      canonicalItems_eq_map, List.map_map]
    rfl
  rw [members, member?, lastNamed_sortedByName (by simp)]
  rfl

/-- Every violation is recovered from its error, the code by its title. So responses are equal for
equal lists only, and so they are when the order of their members is not looked at. -/
theorem errorResponse_recovered (origin : Origin) :
    (∀ violations, ReportsAll origin (errorResponse violations) violations ∧
      ReportsAll origin (errorResponse violations).canonical violations) ∧
    (∀ error violation other, ResponseError.Reports origin error violation →
      error.Reports origin other → violation = other) ∧
    Function.Injective errorResponse ∧
    Function.Injective fun violations => (errorResponse violations).canonical := by
  refine ⟨fun violations => ⟨reportsAll_errorResponse origin violations,
    reportsAll_canonical origin violations⟩, fun _ _ _ => ResponseError.Reports.unique, ?_, ?_⟩
  · intro violations others same
    have second := reportsAll_errorResponse origin others
    exact (reportsAll_errorResponse origin violations).unique (same ▸ second)
  · intro violations others
      (same : (errorResponse violations).canonical = (errorResponse others).canonical)
    have second := reportsAll_canonical origin others
    exact (reportsAll_canonical origin violations).unique (same ▸ second)

def overLimits : List Violation :=
  [.depth 18446744073709551615 0, ⟨.cost, "\"cost\"\n", 0, 18446744073709551615⟩]

theorem errorResponse_overLimits :
    ReportsAll .met (errorResponse overLimits).canonical overLimits ∧
      (∀ other, (ResponseError.ofViolation (.batch 3)).Reports .met other → .batch 3 = other) ∧
      errorResponse overLimits ≠ errorResponse overLimits.reverse ∧
      (errorResponse overLimits).canonical ≠ (errorResponse overLimits.reverse).canonical := by
  obtain ⟨reports, unique, injective, injectiveCanonical⟩ := errorResponse_recovered .met
  have differs : overLimits ≠ overLimits.reverse := by decide
  exact ⟨(reports overLimits).2,
    fun other => unique _ _ other (ResponseError.reports_ofViolation .met (.batch 3)),
    injective.ne differs, injectiveCanonical.ne differs⟩

end QueryShield
