import QueryShield.Proofs.JsonPrinting
import QueryShield.Proofs.PlainScalars
import QueryShield.Yaml.Indentation

namespace QueryShield.Yaml

open Json (writeItems writeMembers)

/-- A key is looked for on its line only, and not far. -/
structure KeyFits (name : String) : Prop where
  kept : isKeptText name
  short : (Json.quoted name).toList.length ≤ keyLimit

mutual

/-- What brackets, quotes and words of letters and digits can write. -/
def FitsFlow : Json → Prop
  | .number n => ∃ k, n = .natural k
  | .string s => isKeptText s
  | .array items => ItemsFitFlow items
  | .object members => MembersFitFlow members
  | _ => True

def ItemsFitFlow : List Json → Prop
  | [] => True
  | item :: rest => FitsFlow item ∧ ItemsFitFlow rest

def MembersFitFlow : List (String × Json) → Prop
  | [] => True
  | (name, value) :: rest => KeyFits name ∧ FitsFlow value ∧ MembersFitFlow rest

end

theorem itemsFitFlow_iff {items : List Json} :
    ItemsFitFlow items ↔ ∀ item ∈ items, FitsFlow item := by
  induction items with
  | nil => simp [ItemsFitFlow]
  | cons item items ih => simp [ItemsFitFlow, ih]

theorem membersFitFlow_iff {members : List (String × Json)} :
    MembersFitFlow members ↔ ∀ member ∈ members, KeyFits member.1 ∧ FitsFlow member.2 := by
  induction members with
  | nil => simp [MembersFitFlow]
  | cons member members ih => simp [MembersFitFlow, ih, and_assoc]

/-- What stands before an item or a member. -/
def separatorTokens (first : Bool) : List Token := if first then [] else [.comma]

mutual

def flowTokens : Json → List Token
  | .string s => [.scalar .quoted s]
  | .array items => .openFlow .sequence :: (itemTokens true items ++ [.closeFlow .sequence])
  | .object members => .openFlow .mapping :: (memberTokens true members ++ [.closeFlow .mapping])
  | scalar => [.scalar .plain scalar.scalarText]

def itemTokens (first : Bool) : List Json → List Token
  | [] => []
  | item :: rest => separatorTokens first ++ (flowTokens item ++ itemTokens false rest)

def memberTokens (first : Bool) : List (String × Json) → List Token
  | [] => []
  | (name, value) :: rest =>
    separatorTokens first ++
      (.key :: .scalar .quoted name :: .colon :: (flowTokens value ++ memberTokens false rest))

end

theorem normalizeBreaks_onLine {text : List Char} (onLine : ∀ c ∈ text, isOnLine c) :
    normalizeBreaks text = text := by
  induction text with
  | nil => rfl
  | cons c text ih =>
    rw [List.forall_mem_cons] at onLine
    have here := onLine.1
    rw [normalizeBreaks.eq_def]
    split
    · rename_i same
      obtain ⟨rfl, -⟩ := List.cons.inj same
      cases here
    · rename_i same
      obtain ⟨rfl, -⟩ := List.cons.inj same
      cases here
    · rename_i same
      obtain ⟨rfl, -⟩ := List.cons.inj same
      cases here
    · rename_i same
      obtain ⟨rfl, rfl⟩ := List.cons.inj same
      rw [ih onLine.2]
    · rename_i same
      cases same

theorem Cursor.ofText?_onLine {text : String} (onLine : ∀ c ∈ text.toList, isOnLine c) :
    Cursor.ofText? text = some { rest := text.toList } := by
  have allowed : text.toList.all isAllowed = true := by
    rw [List.all_eq_true]
    intro c member
    have here := onLine c member
    simp only [isOnLine, Bool.and_eq_true] at here
    exact here.1.1.1
  rw [ofText?, if_pos allowed, normalizeBreaks_onLine onLine]

theorem onLine_escapeChar {c : Char} (kept : isKept c) :
    ∀ d ∈ (Json.escapeChar c).toList, isOnLine d := by
  have hex : ∀ n < 16, isOnLine (Json.hexDigit n) := by decide
  unfold Json.escapeChar
  split
  case h_8 =>
    split
    · rename_i control
      have high := hex (c.toNat / 16) (by omega)
      have low := hex (c.toNat % 16) (by omega)
      have text : (("\\u00".push (Json.hexDigit (c.toNat / 16))).push
          (Json.hexDigit (c.toNat % 16))).toList =
          ['\\', 'u', '0', '0', Json.hexDigit (c.toNat / 16), Json.hexDigit (c.toNat % 16)] := by
        simp
      rw [text]
      simp only [List.forall_mem_cons]
      exact ⟨rfl, rfl, rfl, rfl, high, low, nofun⟩
    · rename_i shown
      simpa [isKept, shown] using kept
  all_goals exact List.all_eq_true.1 rfl

theorem onLine_quoted {s : String} (kept : isKeptText s) :
    ∀ d ∈ (Json.quoted s).toList, isOnLine d := by
  rw [Json.toList_quoted]
  simp only [List.forall_mem_append, List.forall_mem_cons]
  refine ⟨⟨rfl, fun d member => ?_⟩, rfl, nofun⟩
  obtain ⟨c, among, inside⟩ := List.mem_flatMap.1 member
  exact onLine_escapeChar (isKept_of_mem kept among) d inside

theorem alphanum_natural (n : UInt64) : ∀ c ∈ (toString n.toNat).toList, c.isAlphanum := by
  intro c member
  rw [Json.toList_decimal] at member
  have digit := Nat.isDigit_of_mem_toDigits (by decide) (by decide) member
  simp [Char.isAlphanum, digit]

theorem natural_ne_nil (n : UInt64) : (toString n.toNat).toList ≠ [] := by
  rw [Json.toList_decimal]
  exact Nat.toDigits_ne_nil

theorem toList_array (items : List Json) :
    (Json.array items).compact.toList = '[' :: ((writeItems "" true items).toList ++ [']']) := by
  rw [Json.compact, Json.write, Json.writeItems_append]
  simp

theorem toList_object (members : List (String × Json)) :
    (Json.object members).compact.toList =
      '\x7b' :: ((writeMembers "" true members).toList ++ ['\x7d']) := by
  rw [Json.compact, Json.write, Json.writeMembers_append]
  simp [Json.opening, Json.closing]

def separator (first : Bool) : List Char := if first then [] else [',']

theorem toList_item (first : Bool) (item : Json) (rest : List Json) :
    (writeItems "" first (item :: rest)).toList =
      separator first ++ (item.compact.toList ++ (writeItems "" false rest).toList) := by
  rw [writeItems, Json.writeItems_append, Json.write_append]
  cases first <;> simp [separator]

theorem toList_member (first : Bool) (name : String) (value : Json) (rest : List (String × Json)) :
    (writeMembers "" first ((name, value) :: rest)).toList =
      separator first ++ ((Json.quoted name).toList ++
        ':' :: (value.compact.toList ++ (writeMembers "" false rest).toList)) := by
  rw [writeMembers, Json.writeMembers_append, Json.write_append]
  cases first <;> simp [separator]

theorem onLine_separator (first : Bool) : ∀ c ∈ separator first, isOnLine c := by
  cases first <;> exact List.all_eq_true.1 rfl

mutual

theorem onLine_compact : ∀ json : Json, FitsFlow json → ∀ c ∈ json.compact.toList, isOnLine c
  | .null, _ => List.all_eq_true.1 rfl
  | .boolean true, _ => List.all_eq_true.1 rfl
  | .boolean false, _ => List.all_eq_true.1 rfl
  | .number _, ⟨n, rfl⟩ => fun c member => (alphanum_onLine (alphanum_natural n c member)).1
  | .string _, kept => onLine_quoted kept
  | .array items, fit => by
    rw [FitsFlow] at fit
    rw [toList_array, List.forall_mem_cons, List.forall_mem_append]
    exact ⟨rfl, onLine_writeItems true items fit, List.all_eq_true.1 rfl⟩
  | .object members, fit => by
    rw [FitsFlow] at fit
    rw [toList_object, List.forall_mem_cons, List.forall_mem_append]
    exact ⟨rfl, onLine_writeMembers true members fit, List.all_eq_true.1 rfl⟩

theorem onLine_writeItems (first : Bool) : ∀ items : List Json, ItemsFitFlow items →
    ∀ c ∈ (writeItems "" first items).toList, isOnLine c
  | [], _ => by simp [writeItems]
  | item :: rest, ⟨fits, fit⟩ => by
    rw [toList_item, List.forall_mem_append, List.forall_mem_append]
    exact ⟨onLine_separator first, onLine_compact item fits, onLine_writeItems false rest fit⟩

theorem onLine_writeMembers (first : Bool) : ∀ members : List (String × Json),
    MembersFitFlow members → ∀ c ∈ (writeMembers "" first members).toList, isOnLine c
  | [], _ => by simp [writeMembers]
  | (name, value) :: rest, ⟨named, fits, fit⟩ => by
    rw [toList_member, List.forall_mem_append, List.forall_mem_append, List.forall_mem_cons,
      List.forall_mem_append]
    exact ⟨onLine_separator first, onLine_quoted named.kept, rfl, onLine_compact value fits,
      onLine_writeMembers false rest fit⟩

end

theorem endsWord_items (items : List Json) (rest : List Char) :
    EndsWord true ((writeItems "" false items).toList ++ ']' :: rest) := by
  cases items with
  | nil => exact .mark rfl rest
  | cons item items =>
    rw [toList_item]
    exact .mark rfl _

theorem endsWord_members (members : List (String × Json)) (rest : List Char) :
    EndsWord true ((writeMembers "" false members).toList ++ '\x7d' :: rest) := by
  cases members with
  | nil => exact .mark rfl rest
  | cons member members =>
    rw [toList_member]
    exact .mark rfl _

end QueryShield.Yaml
