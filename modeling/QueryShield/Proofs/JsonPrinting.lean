import Mathlib.Tactic.Common
import QueryShield.Proofs.JsonNumbers
import QueryShield.Proofs.JsonReading

namespace QueryShield

/-- An integer that is marked as negative is so, and a double is among those that are kept. -/
def Number.Normal (kept : Double → Prop) : Number → Prop
  | natural _ => True
  | negative n => n < 0
  | real x => kept x

namespace Json

mutual

def numbers : Json → List Number
  | number n => [n]
  | array items => itemNumbers items
  | object members => memberNumbers members
  | _ => []

def itemNumbers : List Json → List Number
  | [] => []
  | item :: rest => item.numbers ++ itemNumbers rest

def memberNumbers : List (String × Json) → List Number
  | [] => []
  | (_, value) :: rest => value.numbers ++ memberNumbers rest

end

theorem mem_itemNumbers {n : Number} {items : List Json} :
    n ∈ itemNumbers items ↔ ∃ item ∈ items, n ∈ item.numbers := by
  induction items with
  | nil => simp [itemNumbers]
  | cons item items ih => simp [itemNumbers, ih]

structure Sound (kept : Double → Prop) (json : Json) : Prop where
  shallow : json.nesting ≤ nestingLimit
  normal : ∀ n ∈ json.numbers, n.Normal kept

mutual

theorem write_append (text : String) : ∀ json : Json, json.write text = text ++ json.compact
  | .array items => by
    rw [compact, write, write, writeItems_append (text ++ "["), writeItems_append ("" ++ "[")]
    simp only [String.append_assoc, String.empty_append]
  | .object members => by
    rw [compact, write, write, writeMembers_append (text ++ opening),
      writeMembers_append ("" ++ opening)]
    simp only [String.append_assoc, String.empty_append]
  | .null | .boolean _ | .number _ | .string _ => by
    simp only [compact, write, String.empty_append]

theorem writeItems_append (text : String) (first : Bool) : ∀ items : List Json,
    writeItems text first items = text ++ writeItems "" first items
  | [] => by simp only [writeItems, String.append_empty]
  | item :: rest => by
    rw [writeItems, writeItems, writeItems_append (item.write _) false rest,
      writeItems_append (item.write (if first then "" else "" ++ ",")) false rest,
      write_append _ item, write_append (if first then "" else "" ++ ",") item]
    cases first <;> simp [String.append_assoc]

theorem writeMembers_append (text : String) (first : Bool) : ∀ members : List (String × Json),
    writeMembers text first members = text ++ writeMembers "" first members
  | [] => by simp only [writeMembers, String.append_empty]
  | (name, value) :: rest => by
    rw [writeMembers, writeMembers, writeMembers_append (value.write _) false rest,
      writeMembers_append (value.write ((if first then "" else "" ++ ",") ++ _ ++ _)) false rest,
      write_append _ value,
      write_append ((if first then "" else "" ++ ",") ++ quoted name ++ ":") value]
    cases first <;> simp [String.append_assoc]

end

theorem Scanned.number {n : Number} {rest : List Char} {found : List Token}
    (scanned : Scanned rest found) (ends : Ends rest) (normal : n.Normal Double.IsReadBack) :
    Scanned ((numberText n).toList ++ rest) (.number n :: found) := by
  cases n with
  | natural n => exact (NumberText.natural n).scanned ends scanned
  | negative n => exact (NumberText.negative normal).scanned ends scanned
  | real x =>
    obtain ⟨finite, isText⟩ := normal
    rw [numberText, if_pos finite]
    exact isText.scanned ends scanned

theorem Ends.items {rest : List Char} (ends : Ends rest) (items : List Json) :
    Ends ((writeItems "" false items).toList ++ rest) := by
  cases items with
  | nil => simpa [writeItems] using ends
  | cons item items =>
    have comma : Ends (',' :: (item.compact.toList ++
        ((writeItems "" false items).toList ++ rest))) := .cons (by decide)
    rw [writeItems, writeItems_append, write_append]
    simpa using comma

theorem Ends.members {rest : List Char} (ends : Ends rest) (members : List (String × Json)) :
    Ends ((writeMembers "" false members).toList ++ rest) := by
  cases members with
  | nil => simpa [writeMembers] using ends
  | cons member members =>
    have comma : Ends (',' :: ((quoted member.1).toList ++ ':' :: (member.2.compact.toList ++
        ((writeMembers "" false members).toList ++ rest)))) := .cons (by decide)
    rw [writeMembers, writeMembers_append, write_append]
    simpa using comma

mutual

theorem scanned_compact {rest : List Char} {found : List Token} (ends : Ends rest)
    (scanned : Scanned rest found) :
    ∀ json : Json, (∀ n ∈ json.numbers, n.Normal Double.IsReadBack) →
      Scanned (json.compact.toList ++ rest) (json.spell ++ found)
  | .null, _ => scanned.null
  | .boolean b, _ => scanned.boolean b
  | .number n, normal => scanned.number ends (normal n (by simp [numbers]))
  | .string s, _ => scanned.quoted s
  | .array items, normal => by
    have closed := scanned.closeArray
    have inside := scanned_writeItems true items normal (.cons (by decide)) closed
    rw [compact, write, writeItems_append]
    simpa [spell] using inside.openArray
  | .object members, normal => by
    have closed := scanned.closeObject
    have inside := scanned_writeMembers true members normal (.cons (by decide)) closed
    rw [compact, write, writeMembers_append]
    simpa [spell, opening, closing] using inside.openObject

theorem scanned_writeItems {rest : List Char} {found : List Token} (first : Bool) :
    ∀ items : List Json, (∀ n ∈ itemNumbers items, n.Normal Double.IsReadBack) → Ends rest →
      Scanned rest found →
      Scanned ((writeItems "" first items).toList ++ rest) (spellItems first items ++ found)
  | [], _, _, scanned => by simpa [writeItems, spellItems] using scanned
  | item :: items, normal, ends, scanned => by
    have others := scanned_writeItems false items
      (fun n member => normal n (by simp [itemNumbers, member])) ends scanned
    have all := scanned_compact (ends.items items) others item
      (fun n member => normal n (by simp [itemNumbers, member]))
    rw [writeItems, writeItems_append, write_append]
    cases first with
    | true => simpa [spellItems] using all
    | false => simpa [spellItems] using all.comma

theorem scanned_writeMembers {rest : List Char} {found : List Token} (first : Bool) :
    ∀ members : List (String × Json),
      (∀ n ∈ memberNumbers members, n.Normal Double.IsReadBack) → Ends rest →
      Scanned rest found →
      Scanned ((writeMembers "" first members).toList ++ rest) (spellMembers first members ++ found)
  | [], _, _, scanned => by simpa [writeMembers, spellMembers] using scanned
  | (name, value) :: members, normal, ends, scanned => by
    have others := scanned_writeMembers false members
      (fun n member => normal n (by simp [memberNumbers, member])) ends scanned
    have valued := scanned_compact (ends.members members) others value
      (fun n member => normal n (by simp [memberNumbers, member]))
    have all := valued.colon.quoted name
    rw [writeMembers, writeMembers_append, write_append]
    cases first with
    | true => simpa [spellMembers] using all
    | false => simpa [spellMembers] using all.comma

end

theorem toList_newline (depth : Nat) :
    (newline depth).toList = '\n' :: List.replicate (2 * depth) ' ' := by
  have pushed : ∀ n, ("\n".pushn ' ' n).toList = '\n' :: List.replicate n ' ' := by
    intro n
    rw [String.pushn_eq_repeat_push]
    induction n with
    | zero => rfl
    | succ n ih => simp [Nat.repeat, ih, List.replicate_succ']
  exact pushed (2 * depth)

section

variable {rest : List Char} {found : List Token}

theorem Scanned.newline (depth : Nat) (scanned : Scanned rest found) :
    Scanned ((newline depth).toList ++ rest) found := by
  refine scanned.blanks fun c member => ?_
  rw [toList_newline] at member
  rcases List.mem_cons.1 member with rfl | member
  · rfl
  · rw [List.eq_of_mem_replicate member]
    rfl

theorem Ends.newline (depth : Nat) : Ends ((Json.newline depth).toList ++ rest) := by
  rw [toList_newline]
  exact .cons (by decide)

end

def afterCommas (texts : List String) : List Char := texts.flatMap fun text => ',' :: text.toList

theorem intercalate_comma (text : String) (texts : List String) :
    [','].intercalate (text.toList :: texts.map String.toList) =
      text.toList ++ afterCommas texts := by
  induction texts generalizing text with
  | nil => simp [List.intercalate, afterCommas]
  | cons next texts ih =>
    rw [List.map_cons, List.intercalate_cons_cons, ih]
    simp [afterCommas]

theorem Ends.afterCommas {rest : List Char} (ends : Ends rest) (texts : List String) :
    Ends (afterCommas texts ++ rest) := by
  cases texts with
  | nil => exact ends
  | cons text texts => exact .cons (by decide)

mutual

theorem scanned_indentedAt (depth : Nat) {rest : List Char} {found : List Token}
    (ends : Ends rest) (scanned : Scanned rest found) :
    ∀ json : Json, (∀ n ∈ json.numbers, n.Normal Double.IsReadBack) →
      Scanned ((json.indentedAt depth).toList ++ rest) (json.spell ++ found)
  | .null, _ => scanned.null
  | .boolean b, _ => scanned.boolean b
  | .number n, normal => scanned.number ends (normal n (by simp [numbers]))
  | .string s, _ => scanned.quoted s
  | .array [], _ => by
    simpa [indentedAt, scalarText, spell, spellItems] using scanned.closeArray.openArray
  | .object [], _ => by
    simpa [indentedAt, scalarText, opening, closing, spell, spellMembers]
      using scanned.closeObject.openObject
  | .array (item :: items), normal => by
    have closed := scanned.closeArray.newline depth
    have others := scanned_indentedItems (depth + 1) items
      (fun n member => normal n (by simp [numbers, itemNumbers, member])) (.newline depth) closed
    have inside := scanned_indentedAt (depth + 1) ((Ends.newline depth).afterCommas _) others item
      (fun n member => normal n (by simp [numbers, itemNumbers, member]))
    rw [indentedAt, indentedItems]
    simpa [intercalate_comma, spell, spellItems] using (inside.newline (depth + 1)).openArray
  | .object ((name, value) :: members), normal => by
    have closed := scanned.closeObject.newline depth
    have others := scanned_indentedMembers (depth + 1) members
      (fun n member => normal n (by simp [numbers, memberNumbers, member])) (.newline depth) closed
    have valued := scanned_indentedAt (depth + 1) ((Ends.newline depth).afterCommas _) others value
      (fun n member => normal n (by simp [numbers, memberNumbers, member]))
    have inside := ((valued.blank (c := ' ') rfl).colon.quoted name).newline (depth + 1)
    rw [indentedAt, indentedMembers]
    simpa [intercalate_comma, spell, spellMembers, opening, closing] using inside.openObject

theorem scanned_indentedItems (depth : Nat) {rest : List Char} {found : List Token} :
    ∀ items : List Json, (∀ n ∈ itemNumbers items, n.Normal Double.IsReadBack) → Ends rest →
      Scanned rest found →
      Scanned (afterCommas (indentedItems depth items) ++ rest) (spellItems false items ++ found)
  | [], _, _, scanned => by simpa [indentedItems, afterCommas, spellItems] using scanned
  | item :: items, normal, ends, scanned => by
    have others := scanned_indentedItems depth items
      (fun n member => normal n (by simp [itemNumbers, member])) ends scanned
    have all := scanned_indentedAt depth (ends.afterCommas _) others item
      (fun n member => normal n (by simp [itemNumbers, member]))
    simpa [indentedItems, afterCommas, spellItems] using (all.newline depth).comma

theorem scanned_indentedMembers (depth : Nat) {rest : List Char} {found : List Token} :
    ∀ members : List (String × Json),
      (∀ n ∈ memberNumbers members, n.Normal Double.IsReadBack) → Ends rest →
      Scanned rest found →
      Scanned (afterCommas (indentedMembers depth members) ++ rest)
        (spellMembers false members ++ found)
  | [], _, _, scanned => by simpa [indentedMembers, afterCommas, spellMembers] using scanned
  | (name, value) :: members, normal, ends, scanned => by
    have others := scanned_indentedMembers depth members
      (fun n member => normal n (by simp [memberNumbers, member])) ends scanned
    have valued := scanned_indentedAt depth (ends.afterCommas _) others value
      (fun n member => normal n (by simp [memberNumbers, member]))
    have all := ((valued.blank (c := ' ') rfl).colon.quoted name).newline depth
    simpa [indentedMembers, afterCommas, spellMembers] using all.comma

end

theorem tokens_compact {json : Json} (normal : ∀ n ∈ json.numbers, n.Normal Double.IsReadBack) :
    tokens json.compact = json.spell := by
  have scanned := scanned_compact .nil .done json normal
  rw [List.append_nil, List.append_nil] at scanned
  exact tokens_of_scanned scanned

theorem tokens_indented {json : Json} (normal : ∀ n ∈ json.numbers, n.Normal Double.IsReadBack) :
    tokens json.indented = json.spell := by
  have scanned := scanned_indentedAt 0 .nil .done json normal
  rw [List.append_nil, List.append_nil] at scanned
  exact tokens_of_scanned scanned

theorem Sound.ofText_compact {json : Json} (sound : json.Sound Double.IsReadBack) :
    ofText json.compact = .ok json :=
  ofText_of_tokens sound.shallow (tokens_compact sound.normal)

theorem Sound.ofText_indented {json : Json} (sound : json.Sound Double.IsReadBack) :
    ofText json.indented = .ok json :=
  ofText_of_tokens sound.shallow (tokens_indented sound.normal)

end Json

end QueryShield
