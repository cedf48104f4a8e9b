import Mathlib.Tactic.Common
import QueryShield.Document.Text
import QueryShield.Proofs.JsonReading

namespace QueryShield

open Json

namespace Json

theorem length_spell_pos (json : Json) : 0 < json.spell.length := by
  cases json <;> simp [spell]

theorem bounds_of_mem_items {item : Json} {items : List Json} (among : item ∈ items)
    (first : Bool) : item.nesting ≤ itemsNesting items ∧
      item.spell.length ≤ (spellItems first items).length := by
  induction items generalizing first with
  | nil => cases among
  | cons head items ih =>
    simp only [itemsNesting, spellItems, List.length_append]
    rcases List.mem_cons.1 among with rfl | among
    · omega
    · have := ih among false
      omega

theorem bounds_of_mem_members {member : String × Json} {members : List (String × Json)}
    (among : member ∈ members) (first : Bool) : member.2.nesting ≤ membersNesting members ∧
      member.2.spell.length ≤ (spellMembers first members).length := by
  induction members generalizing first with
  | nil => cases among
  | cons head members ih =>
    obtain ⟨name, value⟩ := head
    simp only [membersNesting, spellMembers, List.length_append, List.length_cons]
    rcases List.mem_cons.1 among with rfl | among
    · simp only
      omega
    · have := ih among false
      omega

theorem length_le_spellItems (items : List Json) (first : Bool) :
    items.length ≤ (spellItems first items).length := by
  induction items generalizing first with
  | nil => exact Nat.zero_le _
  | cons item items ih =>
    have := ih false
    have := item.length_spell_pos
    simp only [spellItems, List.length_append, List.length_cons]
    omega

theorem length_le_spellMembers (members : List (String × Json)) (first : Bool) :
    members.length ≤ (spellMembers first members).length := by
  induction members generalizing first with
  | nil => exact Nat.zero_le _
  | cons member members ih =>
    obtain ⟨name, value⟩ := member
    have := ih false
    simp only [spellMembers, List.length_append, List.length_cons]
    omega

end Json

namespace Shape

@[simp] theorem entering_succ {α : Type} (depth : Nat) (read : Nat → Except TextFault α) :
    entering (depth + 1) read = read depth := rfl

def Yields (reader : Reader Json) (json : Json) : Prop :=
  ∀ rest : List Token, reader (json.spell ++ rest) = .ok (json, rest)

theorem Yields.readValue {depth : Nat} {json : Json} (shallow : json.nesting ≤ depth) :
    Yields (readValue (.keep depth)) json := readValue_spell shallow

theorem startsItem_spell (json : Json) (rest : List Token) :
    startsItem (json.spell ++ rest) = .ok (true, json.spell ++ rest) := by
  cases json <;> simp [spell, startsItem]

theorem readItems_spell {readItem : Reader Json} (rest : List Token) :
    ∀ (items : List Json) (item : Json) (fuel : Nat) (reversed : List Json),
      (∀ json ∈ item :: items, Yields readItem json) → items.length + 1 < fuel →
      readItems readItem fuel reversed true
          (item.spell ++ (spellItems false items ++ .closeArray :: rest)) =
        .ok (reversed.reverse ++ item :: items, rest)
  | items, item, 0, _, _, enough => by cases enough
  | [], item, 1, _, _, enough => by simp at enough
  | [], item, fuel + 2, reversed, each, _ => by
    rw [readItems, each item List.mem_cons_self]
    simp [spellItems, continuesItems, readItems, bind, Except.bind]
  | next :: items, item, fuel + 1, reversed, each, enough => by
    have others := readItems_spell rest items next fuel (item :: reversed)
      (fun json among => each json (List.mem_cons_of_mem _ among)) (by simpa using enough)
    rw [readItems, each item List.mem_cons_self]
    simpa [spellItems, continuesItems, bind, Except.bind] using others

theorem Yields.kept_eq {readJson : Reader Json} {json : Json} (yields : Yields readJson json)
    (rest : List Token) : kept readJson (json.spell ++ rest) = .ok (some json, rest) := by
  rw [kept, yields rest]
  rfl

def MembersYield (readMember : MemberReader) :
    List (String × Json) → List (String × Json) → Prop
  | _, [] => True
  | reversed, (name, value) :: members =>
    (∃ readJson, readMember reversed name = .ok (kept readJson) ∧ Yields readJson value) ∧
      MembersYield readMember ((name, value) :: reversed) members

theorem readMembers_spell {readMember : MemberReader} (rest : List Token) :
    ∀ (members : List (String × Json)) (name : String) (value : Json) (fuel : Nat)
      (reversed : List (String × Json)),
      MembersYield readMember reversed ((name, value) :: members) → members.length + 1 < fuel →
      readMembers readMember fuel reversed (some name)
          (.colon :: (value.spell ++ (spellMembers false members ++ .closeObject :: rest))) =
        .ok (reversed.reverse ++ (name, value) :: members, rest)
  | _, _, _, 0, _, _, enough => by cases enough
  | [], _, _, 1, _, _, enough => by simp at enough
  | [], name, value, fuel + 2, reversed, ⟨⟨readJson, allowed, yields⟩, _⟩, _ => by
    rw [readMembers, allowed]
    simp [expect, isColon, yields.kept_eq, spellMembers, readNextKey, readMembers, bind,
      Except.bind]
  | (next, item) :: members, name, value, fuel + 1, reversed,
      ⟨⟨readJson, allowed, yields⟩, after⟩, enough => by
    have others := readMembers_spell rest members next item fuel _ after
      (by simpa using enough)
    rw [readMembers, allowed]
    simpa [expect, isColon, yields.kept_eq, spellMembers, readNextKey, readKey, Except.map, bind,
      Except.bind] using others

/-- The value is read as it is with enough fuel, where containers that it opens may be open. -/
def Reads (shape : Shape) (json : Json) : Prop :=
  ∀ fuel depth : Nat, json.spell.length ≤ fuel → json.nesting ≤ depth →
    Yields (shape.read fuel depth) json

theorem Reads.scalar {kind : Scalar} {json : Json} (accepted : kind.accepts json) :
    (Shape.scalar kind).Reads json := by
  rintro (_ | fuel) depth enough _ rest
  · exact absurd enough (Nat.not_le.2 json.length_spell_pos)
  rw [read]
  unfold Scalar.accepts at accepted
  split at accepted
  all_goals first | rfl | cases accepted

theorem Reads.choice {names : List String} {name : String} (listed : names.contains name) :
    (Shape.choice names).Reads (.string name) := by
  rintro (_ | fuel) depth enough _ rest
  · cases enough
  · rw [read, spell, List.singleton_append, readChoice, if_pos listed]

theorem readArray_spell {readItem : Reader Json} {items : List Json} {fuel : Nat}
    (yields : ∀ item ∈ items, Yields readItem item)
    (enough : (Json.array items).spell.length ≤ fuel + 1) (rest : List Token) :
    readArray readItem fuel (spellItems true items ++ .closeArray :: rest) = .ok (items, rest) := by
  have count := length_le_spellItems items true
  simp only [spell, List.length_cons, List.length_append, List.length_nil] at enough
  cases items with
  | nil =>
    obtain _ | fuel := fuel
    · omega
    · simp [readArray, spellItems, startsItem, readItems, bind, Except.bind]
  | cons item items =>
    have reads := readItems_spell rest items item fuel [] yields
      (by rw [List.length_cons] at count; omega)
    simp [readArray, spellItems, startsItem_spell, reads, bind, Except.bind]

theorem readObject_spell {readMember : MemberReader} {members : List (String × Json)} {fuel : Nat}
    (yields : MembersYield readMember [] members)
    (enough : (Json.object members).spell.length ≤ fuel + 1) (rest : List Token) :
    readObject readMember fuel (spellMembers true members ++ .closeObject :: rest) =
      .ok (members, rest) := by
  have count := length_le_spellMembers members true
  simp only [spell, List.length_cons, List.length_append, List.length_nil] at enough
  cases members with
  | nil =>
    obtain _ | fuel := fuel
    · omega
    · simp [readObject, spellMembers, readFirstKey, readMembers, bind, Except.bind]
  | cons member members =>
    obtain ⟨name, value⟩ := member
    have reads := readMembers_spell rest members name value fuel [] yields
      (by rw [List.length_cons] at count; omega)
    simp [readObject, spellMembers, readFirstKey, readKey, reads, Except.map, bind, Except.bind]

theorem Reads.list {shape : Shape} {items : List Json} (each : ∀ item ∈ items, shape.Reads item) :
    (Shape.list shape).Reads (.array items) := by
  rintro (_ | fuel) (_ | depth) enough shallow rest
  · cases enough
  · cases enough
  · cases shallow
  have yields : ∀ item ∈ items, Yields (shape.read fuel depth) item := by
    intro item among
    obtain ⟨depthBound, fuelBound⟩ := bounds_of_mem_items among true
    simp only [spell, List.length_cons, List.length_append, List.length_nil] at enough
    rw [nesting] at shallow
    exact each item among fuel depth (by omega) (by omega)
  rw [spell, List.cons_append, List.append_assoc, List.singleton_append, read, entering_succ,
    readArray_spell yields enough]
  rfl

theorem membersYield_any {depth : Nat} : ∀ (members reversed : List (String × Json)),
    membersNesting members ≤ depth → MembersYield (readAnyMember depth) reversed members
  | [], _, _ => trivial
  | _ :: members, _, shallow => by
    rw [membersNesting] at shallow
    exact ⟨⟨_, rfl, .readValue (by omega)⟩, membersYield_any members _ (by omega)⟩

theorem Reads.anyMembers (members : List (String × Json)) :
    Shape.anyMembers.Reads (.object members) := by
  rintro (_ | fuel) (_ | depth) enough shallow rest
  · cases enough
  · cases enough
  · cases shallow
  rw [nesting] at shallow
  have yields := membersYield_any members [] (show _ ≤ depth by omega)
  rw [spell, List.cons_append, List.append_assoc, List.singleton_append, read, entering_succ,
    readObject_spell yields enough]
  rfl

theorem membersYield_selection {depth : Nat} : ∀ (members reversed : List (String × Json)),
    membersNesting members ≤ depth → (∀ member ∈ members, member.1 ≠ "kind") →
    MembersYield (readSelectionMember depth) reversed members
  | [], _, _, _ => trivial
  | (name, value) :: members, _, shallow, others => by
    rw [membersNesting] at shallow
    rw [List.forall_mem_cons] at others
    have plain : (name == "kind") = false := by simpa using others.1
    exact ⟨⟨_, by rw [readSelectionMember, plain]; rfl, .readValue (by omega)⟩,
      membersYield_selection members _ (by omega) others.2⟩

theorem Reads.selection {kind : String} {members : List (String × Json)}
    (listed : isSelectionKind (.string kind)) (others : ∀ member ∈ members, member.1 ≠ "kind")
    (decodes : decodable (.object (("kind", .string kind) :: members)) =
      .ok (.object (("kind", .string kind) :: members))) :
    Shape.selection.Reads (.object (("kind", .string kind) :: members)) := by
  rintro (_ | fuel) (_ | depth) enough shallow rest
  · cases enough
  · cases enough
  · cases shallow
  rw [nesting, membersNesting] at shallow
  have yieldsKind : Yields (readAccepted isSelectionKind) (.string kind) := fun rest => by
    simp [spell, readAccepted, readScalar, listed, bind, Except.bind, pure, Except.pure]
  have yields : MembersYield (readSelectionMember depth) [] (("kind", .string kind) :: members) :=
    ⟨⟨_, rfl, yieldsKind⟩, membersYield_selection members _ (by omega) others⟩
  rw [spell, List.cons_append, List.append_assoc, List.singleton_append, read,
    readSelectionShape, entering_succ, readObject_spell yields enough]
  simp [decodes, bind, Except.bind, pure, Except.pure]

theorem membersYield_fields {readShape : Shape → Reader Json}
    {fields : List (String × Bool × Shape)} : ∀ (members reversed : List (String × Json)),
    (∀ member ∈ members, ∃ required shape, fields.lookup member.1 = some (required, shape) ∧
      Yields (readShape shape) member.2) →
    (members.map Prod.fst).Nodup → (∀ member ∈ members, member.1 ∉ reversed.map Prod.fst) →
    MembersYield (readField readShape fields) reversed members
  | [], _, _, _, _ => trivial
  | (name, value) :: members, reversed, known, distinct, apart => by
    obtain ⟨⟨required, shape, found, yields⟩, known⟩ := List.forall_mem_cons.1 known
    obtain ⟨new, distinct⟩ := List.nodup_cons.1 distinct
    obtain ⟨fresh, apart⟩ := List.forall_mem_cons.1 apart
    have unused : reversed.any (·.1 == name) = false := by
      simp only [List.any_eq_false, beq_iff_eq]
      rintro entry among rfl
      exact fresh (List.mem_map.2 ⟨entry, among, rfl⟩)
    refine ⟨⟨_, by rw [readField, found]; simp only [unused]; rfl, yields⟩,
      membersYield_fields members _ known distinct fun member among => ?_⟩
    rw [List.map_cons, List.mem_cons, not_or]
    exact ⟨fun same => new (same ▸ List.mem_map_of_mem among), apart member among⟩

theorem Reads.record {fields : List (String × Bool × Shape)} {members : List (String × Json)}
    (known : ∀ member ∈ members, ∃ required shape,
      fields.lookup member.1 = some (required, shape) ∧ shape.Reads member.2)
    (distinct : (members.map Prod.fst).Nodup) (complete : isComplete fields members) :
    (Shape.record fields).Reads (.object members) := by
  rintro (_ | fuel) (_ | depth) enough shallow rest
  · cases enough
  · cases enough
  · cases shallow
  have readable : ∀ member ∈ members, ∃ required shape,
      fields.lookup member.1 = some (required, shape) ∧
        Yields (shape.read fuel depth) member.2 := by
    intro member among
    obtain ⟨required, shape, found, reads⟩ := known member among
    obtain ⟨depthBound, fuelBound⟩ := bounds_of_mem_members among true
    simp only [spell, List.length_cons, List.length_append, List.length_nil] at enough
    rw [nesting] at shallow
    exact ⟨required, shape, found, reads fuel depth (by omega) (by omega)⟩
  have yields := membersYield_fields members [] readable distinct
    fun _ _ => List.not_mem_nil
  rw [spell, List.cons_append, List.append_assoc, List.singleton_append, read, entering_succ,
    readObject_spell yields enough]
  simp [complete, bind, Except.bind, pure, Except.pure]

end Shape

end QueryShield
