import Mathlib.Tactic.Common
import QueryShield.Json.Reader

namespace QueryShield.Json

mutual

def spell : Json → List Token
  | null => [.null]
  | boolean b => [.boolean b]
  | number n => [.number n]
  | string s => [.string s]
  | array items => .openArray :: (spellItems true items ++ [.closeArray])
  | object members => .openObject :: (spellMembers true members ++ [.closeObject])

def spellItems (first : Bool) : List Json → List Token
  | [] => []
  | item :: rest => (if first then [] else [.comma]) ++ (item.spell ++ spellItems false rest)

def spellMembers (first : Bool) : List (String × Json) → List Token
  | [] => []
  | (name, value) :: rest =>
    (if first then [] else [.comma]) ++
      (.string name :: .colon :: (value.spell ++ spellMembers false rest))

end

mutual

def nesting : Json → Nat
  | array items => itemsNesting items + 1
  | object members => membersNesting members + 1
  | _ => 0

def itemsNesting : List Json → Nat
  | [] => 0
  | item :: rest => max item.nesting (itemsNesting rest)

def membersNesting : List (String × Json) → Nat
  | [] => 0
  | (_, value) :: rest => max value.nesting (membersNesting rest)

end

def Progress.resume (purpose : Purpose) (rest : List Token) :
    Progress → Except TextFault (Json × List Token)
  | more next => next.run purpose rest
  | complete json => .ok (json, rest)

theorem Reading.run_cons {purpose : Purpose} {r : Reading} {token : Token} {progress : Progress}
    (advances : r.advance purpose token = .ok progress) (rest : List Token) :
    r.run purpose (token :: rest) = progress.resume purpose rest := by
  rw [Reading.run, advances]
  cases progress <;> rfl

def Expecting.takesValue : Expecting → Prop
  | value => True
  | valueOrClose => True
  | _ => False

theorem Reading.run_value {purpose : Purpose} {expecting : Expecting} {opened : List Open}
    {token : Token} {progress : Progress} (takes : expecting.takesValue)
    (reads : readValueToken purpose opened token = .ok progress) (rest : List Token) :
    Reading.run purpose ⟨expecting, opened⟩ (token :: rest) = progress.resume purpose rest := by
  refine Reading.run_cons ?_ rest
  cases expecting with
  | value => exact reads
  | valueOrClose =>
    cases token with
    | closeArray => cases reads
    | _ => exact reads
  | name => cases takes
  | nameOrClose => cases takes
  | colon => cases takes
  | commaOrClose => cases takes

theorem Reading.run_name {purpose : Purpose} {opened : List Open} {reversed : List (String × Json)}
    {name : String} (first : Bool) (last : String) (rest : List Token) :
    Reading.run purpose ⟨if first then .nameOrClose else .name, .object reversed last :: opened⟩
        (.string name :: .colon :: rest) =
      Reading.run purpose ⟨.value, .object reversed name :: opened⟩ rest := by
  cases first <;> rfl

theorem Reading.run_itemComma {purpose : Purpose} {opened : List Open} {reversed : List Json}
    {rest : List Token} :
    Reading.run purpose ⟨.commaOrClose, .array reversed :: opened⟩ (.comma :: rest) =
      Reading.run purpose ⟨.value, .array reversed :: opened⟩ rest := rfl

theorem Reading.run_memberComma {purpose : Purpose} {opened : List Open}
    {reversed : List (String × Json)} {last : String} {rest : List Token} :
    Reading.run purpose ⟨.commaOrClose, .object reversed last :: opened⟩ (.comma :: rest) =
      Reading.run purpose ⟨.name, .object reversed last :: opened⟩ rest := rfl

mutual

/-- A value that is not nested too deeply is read from its tokens, wherever it stands. -/
theorem run_spell {limit : Nat} {opened : List Open} {rest : List Token} (expecting : Expecting)
    (takes : expecting.takesValue) : ∀ json : Json, opened.length + json.nesting ≤ limit →
      Reading.run (.keep limit) ⟨expecting, opened⟩ (json.spell ++ rest) =
        (finish json opened).resume (.keep limit) rest
  | .null, _ => Reading.run_value takes rfl rest
  | .boolean _, _ => Reading.run_value takes rfl rest
  | .number _, _ => Reading.run_value takes rfl rest
  | .string _, _ => Reading.run_value takes rfl rest
  | .array items, shallow => by
    rw [nesting] at shallow
    have allowed : mayOpen (.keep limit) opened := by
      simp only [mayOpen, decide_eq_true_eq]
      omega
    have opens : readValueToken (.keep limit) opened .openArray =
        .ok (.more ⟨.valueOrClose, .array [] :: opened⟩) := if_pos allowed
    rw [spell, List.cons_append, List.append_assoc, Reading.run_value takes opens]
    exact run_spellItems true [] items (by omega)
  | .object members, shallow => by
    rw [nesting] at shallow
    have allowed : mayOpen (.keep limit) opened := by
      simp only [mayOpen, decide_eq_true_eq]
      omega
    have opens : readValueToken (.keep limit) opened .openObject =
        .ok (.more ⟨.nameOrClose, .object [] "" :: opened⟩) := if_pos allowed
    rw [spell, List.cons_append, List.append_assoc, Reading.run_value takes opens]
    exact run_spellMembers true [] "" members (by omega)

theorem run_spellItems {limit : Nat} {opened : List Open} {rest : List Token} (first : Bool)
    (reversed : List Json) : ∀ items : List Json,
      opened.length + 1 + itemsNesting items ≤ limit →
      Reading.run (.keep limit)
          ⟨if first then .valueOrClose else .commaOrClose, .array reversed :: opened⟩
          (spellItems first items ++ ([.closeArray] ++ rest)) =
        (finish (.array (reversed.reverse ++ items)) opened).resume (.keep limit) rest
  | [], _ => by
    rw [List.append_nil]
    cases first <;> exact Reading.run_cons rfl rest
  | item :: items, shallow => by
    rw [itemsNesting] at shallow
    have reads (expecting : Expecting) (takes : expecting.takesValue) :
        Reading.run (.keep limit) ⟨expecting, .array reversed :: opened⟩
            (item.spell ++ (spellItems false items ++ ([.closeArray] ++ rest))) =
          (finish (.array (reversed.reverse ++ item :: items)) opened).resume (.keep limit)
            rest := by
      rw [run_spell expecting takes item (by rw [List.length_cons]; omega), finish,
        Progress.resume]
      have shallowRest : opened.length + 1 + itemsNesting items ≤ limit := by omega
      simpa using run_spellItems false (item :: reversed) items shallowRest
    cases first with
    | true => simpa [spellItems] using reads .valueOrClose trivial
    | false => simpa [spellItems, Reading.run_itemComma] using reads .value trivial

theorem run_spellMembers {limit : Nat} {opened : List Open} {rest : List Token} (first : Bool)
    (reversed : List (String × Json)) (last : String) : ∀ members : List (String × Json),
      opened.length + 1 + membersNesting members ≤ limit →
      Reading.run (.keep limit)
          ⟨if first then .nameOrClose else .commaOrClose, .object reversed last :: opened⟩
          (spellMembers first members ++ ([.closeObject] ++ rest)) =
        (finish (.object (reversed.reverse ++ members)) opened).resume (.keep limit) rest
  | [], _ => by
    rw [List.append_nil]
    cases first <;> exact Reading.run_cons rfl rest
  | (name, value) :: members, shallow => by
    rw [membersNesting] at shallow
    have reads : Reading.run (.keep limit) ⟨.value, .object reversed name :: opened⟩
          (value.spell ++ (spellMembers false members ++ ([.closeObject] ++ rest))) =
        (finish (.object (reversed.reverse ++ (name, value) :: members)) opened).resume
          (.keep limit) rest := by
      have shallowRest : opened.length + 1 + membersNesting members ≤ limit := by omega
      rw [run_spell .value trivial value (by rw [List.length_cons]; omega), finish,
        Progress.resume]
      simpa using run_spellMembers false ((name, value) :: reversed) name members shallowRest
    cases first with
    | true => simpa [spellMembers] using (Reading.run_name true last _).trans reads
    | false =>
      have named := (Reading.run_name false last _).trans reads
      simpa [spellMembers, Reading.run_memberComma] using named

end

theorem readValue_spell {limit : Nat} {json : Json} (shallow : json.nesting ≤ limit)
    (rest : List Token) : readValue (.keep limit) (json.spell ++ rest) = .ok (json, rest) :=
  run_spell .value trivial json (by simpa using shallow)

theorem ofText_of_tokens {text : String} {json : Json} (shallow : json.nesting ≤ nestingLimit)
    (spelled : tokens text = json.spell) : ofText text = .ok json := by
  have reads := readValue_spell shallow []
  rw [List.append_nil, ← spelled] at reads
  rw [ofText, reads]

end QueryShield.Json
