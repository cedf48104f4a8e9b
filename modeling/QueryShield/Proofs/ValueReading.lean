import QueryShield.Document.Decoding
import QueryShield.Proofs.WrittenForms

namespace QueryShield

open Json

theorem readName_of_lookup {names : List (String × α)} {name : String} {value : α}
    (known : names.lookup name = some value) : readName names name = .ok value := by
  rw [readName, known]

theorem rejectRepeated_ok {names : List String} {members : List (String × Json)}
    (once : ∀ name ∈ names, (underName name members).length ≤ 1) :
    rejectRepeated names members = .ok () := by
  have none : repeatedName? names members = none := by
    refine List.find?_eq_none.2 fun name among => ?_
    rw [countP_name, decide_eq_true_eq]
    exact Nat.not_lt.2 (once name among)
  rw [rejectRepeated, none]

theorem lastNamed_of_holds {members : List (String × Json)} {name s : String}
    (holds : Holds members name (.text s)) : lastNamed name members = some (.string s) := by
  obtain ⟨entry, under, rfl⟩ := holds
  rw [lastNamed_eq_getLast?, under]
  rfl

theorem Number.int64?_ofInt64 (n : Int64) : (ofInt64 n).int64? = some n := by
  unfold ofInt64
  split
  · next nonneg =>
    have small : n.toUInt64.toNat < Nat.pow 2 63 := by
      rw [Int64.toNat_toUInt64_of_le nonneg]
      exact n.toNatClampNeg_lt
    rw [int64?, if_pos small, Int64.toInt64_toUInt64]
  · rfl

theorem toInteger_ofInt64 (n : Int64) : Json.toInteger (.number (.ofInt64 n)) = .ok n := by
  have read := Number.int64?_ofInt64 n
  unfold Number.ofInt64 at read ⊢
  split at read <;> simp [*, toInteger]

theorem Value.contentOfMembers_eq (origin : Origin) (kind : ValueKind)
    (members : List (String × Json)) :
    contentOfMembers origin kind members =
      match (underName "value" members).head? with
      | some json => (contentOfJson origin kind json).map some
      | none => .ok none := by
  induction members with
  | nil => rw [contentOfMembers]; rfl
  | cons member rest ih =>
    obtain ⟨name, json⟩ := member
    rw [contentOfMembers, underName_cons]
    by_cases same : name = "value"
    · simp [same]
    · simp [same, ih]

theorem Value.ofJson_tagged {origin : Origin} {kind : ValueKind} {name : String} {content : Form}
    {json : Json} (isTagged : Tagged name content json)
    (known : ValueKind.names.lookup name = some kind) {value : Value}
    (reads : ∀ json, content (some json) → contentOfJson origin kind json = .ok value)
    (absent : content none → kind = .null ∧ value = .null) : ofJson origin json = .ok value := by
  obtain ⟨members, rfl, hasKind, hasValue⟩ := isTagged
  have once : ∀ name ∈ ["kind", "value"], (underName name members).length ≤ 1 := by
    simp [hasKind.length_le, hasValue.length_le]
  obtain ⟨entry, under, hasForm⟩ := hasValue
  rw [ofJson, rejectRepeated_ok once, lastNamed_of_holds hasKind]
  simp only [toChoice, readName_of_lookup known, contentOfMembers_eq, under, bind, Except.bind]
  cases entry with
  | none =>
    obtain ⟨rfl, rfl⟩ := absent hasForm
    rfl
  | some json =>
    simp only [Option.toList_some, List.head?_cons, reads json hasForm]
    rfl

theorem Value.ofJson_scalar {origin : Origin} {kind : ValueKind} {name : String} {content : Json}
    {json : Json} (isTagged : Tagged name (.exactly content) json)
    (known : ValueKind.names.lookup name = some kind) {value : Value}
    (reads : contentOfJson origin kind content = .ok value) : ofJson origin json = .ok value :=
  ofJson_tagged isTagged known (Form.exactly_reads reads)
    fun absent => absurd absent Form.not_exactly_none

theorem Value.contentOfJson_int (origin : Origin) (n : Int64) :
    contentOfJson origin .int (.number (.ofInt64 n)) = .ok (.int n) := by
  rw [contentOfJson, ofScalar, toInteger_ofInt64]
  · rfl
  all_goals nofun

mutual

theorem Value.ofJson_written (origin : Origin) :
    ∀ (value : Value) {json : Json}, value.Written json → Value.ofJson origin json = .ok value
  | .reference _, _, isWritten => ofJson_scalar isWritten rfl rfl
  | .int n, _, isWritten => ofJson_scalar isWritten rfl (contentOfJson_int origin n)
  | .float _, _, isWritten => ofJson_scalar isWritten rfl rfl
  | .string _, _, isWritten => ofJson_scalar isWritten rfl rfl
  | .boolean _, _, isWritten => ofJson_scalar isWritten rfl rfl
  | .null, _, isWritten => ofJson_tagged isWritten rfl nofun fun _ => ⟨rfl, rfl⟩
  | .enumeration _, _, isWritten => ofJson_scalar isWritten rfl rfl
  | .list values, _, isWritten => by
    refine ofJson_tagged isWritten rfl (fun json content => ?_)
      fun absent => absurd absent Form.not_always_none
    obtain ⟨items, rfl, nested⟩ := Form.always_some.1 content
    rw [contentOfJson, if_pos rfl, listOfJson_written origin values nested]
    rfl
  | .object values, _, isWritten => by
    refine ofJson_tagged isWritten rfl (fun json content => ?_)
      fun absent => absurd absent Form.not_always_none
    obtain ⟨members, rfl, nested⟩ := Form.always_some.1 content
    rw [contentOfJson, if_pos rfl, membersOfJson_written origin values nested]
    rfl

theorem Value.listOfJson_written (origin : Origin) :
    ∀ (values : List Value) {items : List Json}, ValuesWritten values items →
      Value.listOfJson origin items = .ok values
  | [], [], _ => rfl
  | value :: values, _ :: _, ⟨first, others⟩ => by
    rw [listOfJson, ofJson_written origin value first, listOfJson_written origin values others]
    rfl

theorem Value.membersOfJson_written (origin : Origin) :
    ∀ (values : List (String × Value)) {members : List (String × Json)},
      ValueMembersWritten values members → Value.membersOfJson origin members = .ok values
  | [], [], _ => rfl
  | (_, value) :: values, (_, _) :: _, ⟨rfl, first, others⟩ => by
    rw [membersOfJson, ofJson_written origin value first,
      membersOfJson_written origin values others]
    rfl

end

def Argument.filled (argument : Argument) (seen : List String) : Argument where
  name := if "name" ∈ seen then argument.name else ""
  value := if "value" ∈ seen then argument.value else .null

theorem Argument.ofJson_written (origin : Origin) {argument : Argument} {json : Json}
    (isWritten : argument.Written json) : Argument.ofJson origin json = .ok argument := by
  obtain ⟨members, rfl, held⟩ := isWritten
  refine Record.read_of_fills argument.filled rfl rfl ?_ ?_ origin
  · simp only [record, List.forall_mem_cons]
    refine ⟨Slot.mandatory_fills held.name Form.not_exactly_none Form.text_reads ?_,
      Slot.mandatory_fills held.value Form.not_always_none
        (fun _ form => Value.ofJson_written origin _ (Form.always_some.1 form)) ?_, nofun⟩
    all_goals intro seen; simp [filled]
  · intro seen told
    simp only [record, List.forall_mem_cons] at told
    obtain ⟨name, value, -⟩ := told
    simp only [filled, held.name.ite_seen_present name Form.not_exactly_none,
      held.value.ite_seen_present value Form.not_always_none]

end QueryShield
