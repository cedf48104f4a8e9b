import Mathlib.Data.List.Forall2
import QueryShield.Json.Decoding

namespace QueryShield.Json

def underName (name : String) (members : List (String × Json)) : List Json :=
  (members.filter fun member => member.1 == name).map Prod.snd

@[simp] theorem underName_nil (name : String) : underName name [] = [] := rfl

theorem underName_cons (name key : String) (json : Json) (rest : List (String × Json)) :
    underName name ((key, json) :: rest) =
      if key = name then json :: underName name rest else underName name rest := by
  by_cases same : key = name <;> simp [underName, same]

@[simp] theorem underName_append (name : String) (first second : List (String × Json)) :
    underName name (first ++ second) = underName name first ++ underName name second := by
  simp [underName]

@[simp] theorem underName_optionalMember (name key : String) (value : Option Json) :
    underName name (optionalMember key value) = if key = name then value.toList else [] := by
  cases value <;> simp [optionalMember, underName_cons]

@[simp] theorem underName_nonEmptyMember (name key : String) (items : List Json) :
    underName name (nonEmptyMember key items) =
      if key = name then (if items.isEmpty then none else some (array items)).toList else [] := by
  cases items <;> simp [nonEmptyMember, underName_cons]

theorem countP_name (name : String) (members : List (String × Json)) :
    (members.countP fun member => member.1 == name) = (underName name members).length := by
  rw [underName, List.length_map, List.countP_eq_length_filter]

theorem mem_underName {name : String} {members : List (String × Json)} {json : Json} :
    json ∈ underName name members ↔ (name, json) ∈ members := by
  simp [underName]

theorem length_underName_le {members : List (String × Json)}
    (distinct : (members.map Prod.fst).Nodup) (name : String) :
    (underName name members).length ≤ 1 := by
  have once := List.nodup_iff_count.1 distinct name
  rwa [List.count, List.countP_map, Function.comp_def, countP_name] at once

theorem lastNamed_eq_getLast? (name : String) (members : List (String × Json)) :
    lastNamed name members = (underName name members).getLast? := by
  induction members with
  | nil => rfl
  | cons member rest ih =>
    obtain ⟨key, json⟩ := member
    rw [lastNamed, ih, underName_cons]
    by_cases same : key = name
    · cases last : (underName name rest).getLast? <;> simp [same, last, List.getLast?_cons]
    · cases last : (underName name rest).getLast? <;> simp [same, last]

abbrev Form := Option Json → Prop

/-- At most one member has the name, and what is there, or that nothing is, has the form. -/
def Holds (members : List (String × Json)) (name : String) (form : Form) : Prop :=
  ∃ entry : Option Json, underName name members = entry.toList ∧ form entry

namespace Holds

variable {members : List (String × Json)} {name : String} {form : Form}

theorem length_le (holds : Holds members name form) : (underName name members).length ≤ 1 := by
  obtain ⟨entry, under, -⟩ := holds
  rw [under]
  cases entry <;> simp

theorem of_present (holds : Holds members name form) {json : Json}
    (present : json ∈ underName name members) : form (some json) := by
  obtain ⟨entry, under, hasForm⟩ := holds
  rw [under, Option.mem_toList] at present
  exact present ▸ hasForm

theorem of_absent (holds : Holds members name form) (absent : underName name members = []) :
    form none := by
  obtain ⟨entry, under, hasForm⟩ := holds
  rw [under, Option.toList_eq_nil_iff] at absent
  exact absent ▸ hasForm

end Holds

namespace Form

def nothing : Form := fun entry => entry = none

def exactly (json : Json) : Form := fun entry => entry = some json

def always (written : Json → Prop) : Form := fun entry => ∃ json, entry = some json ∧ written json

def text (s : String) : Form := exactly (.string s)

def optionalText : Option String → Form
  | some s => text s
  | none => fun entry => entry = none ∨ entry = some .null

def items (written : List Json → Prop) : Form :=
  always fun json => ∃ items, json = .array items ∧ written items

def members (written : List (String × Json) → Prop) : Form :=
  always fun json => ∃ members, json = .object members ∧ written members

def omittableItems (values : List α) (written : List Json → Prop) : Form :=
  fun entry => items written entry ∨ (values = [] ∧ entry = none)

@[simp] theorem exactly_some {json other : Json} : exactly json (some other) ↔ other = json :=
  Option.some_inj

@[simp] theorem not_exactly_none {json : Json} : ¬ exactly json none := nofun

@[simp] theorem always_some {written : Json → Prop} {json : Json} :
    always written (some json) ↔ written json :=
  ⟨fun ⟨_, same, isWritten⟩ => Option.some_inj.1 same ▸ isWritten, fun isWritten =>
    ⟨json, rfl, isWritten⟩⟩

@[simp] theorem not_always_none {written : Json → Prop} : ¬ always written none :=
  fun ⟨_, present, _⟩ => nomatch present

@[simp] theorem items_array {written : List Json → Prop} {values : List Json} :
    items written (some (.array values)) ↔ written values := by simp [items]

@[simp] theorem members_object {written : List (String × Json) → Prop}
    {entries : List (String × Json)} :
    members written (some (.object entries)) ↔ written entries := by simp [members]

theorem exactly_reads {read : Json → Decoded α} {json : Json} {value : α}
    (reads : read json = .ok value) (other : Json) (form : exactly json (some other)) :
    read other = .ok value :=
  exactly_some.1 form ▸ reads

theorem text_reads {s : String} : ∀ json, text s (some json) → toText json = .ok s :=
  exactly_reads rfl

theorem optionalText_some {value : Option String} {json : Json}
    (form : optionalText value (some json)) : toOption toText json = .ok value := by
  cases value with
  | none =>
    obtain rfl : json = .null := by simpa [optionalText] using form
    rfl
  | some s =>
    obtain rfl := exactly_some.1 form
    rfl

theorem optionalText_none {value : Option String} (form : optionalText value none) :
    value = none := by
  cases value with
  | none => rfl
  | some s => exact absurd form not_exactly_none

theorem omittableItems_some {values : List α} {written : List Json → Prop} {json : Json}
    (form : omittableItems values written (some json)) : items written (some json) :=
  form.resolve_right nofun

theorem omittableItems_none {values : List α} {written : List Json → Prop}
    (form : omittableItems values written none) : values = [] :=
  (form.resolve_left not_always_none).1

end Form

theorem toSize_natural (n : UInt64) : toSize (.natural n) = .ok n := if_pos n.toNat_lt

theorem toCount_natural (n : UInt64) : toCount (.natural n) = .ok n := if_pos n.toNat_lt

theorem toSmallCount_natural (n : UInt32) : toSmallCount (.natural n.toUInt64) = .ok n := by
  have small : n.toUInt64.toNat < Nat.pow 2 32 := by
    rw [UInt32.toNat_toUInt64]
    exact n.toNat_lt
  rw [toSmallCount, Json.natural, toNatural, if_pos small, Except.map, UInt32.toUInt32_toUInt64]

theorem readAll_of_forall₂ {read : Json → Decoded α} {values : List α} {items : List Json}
    (reads : List.Forall₂ (fun value item => read item = .ok value) values items) :
    readAll read items = .ok values := by
  induction reads with
  | nil => rfl
  | cons first _ ih =>
    rw [readAll, first, ih]
    rfl

theorem toList_of_items {read : Json → Decoded α} {values : List α} {written : List Json → Prop}
    (reads : ∀ items, written items →
      List.Forall₂ (fun value item => read item = .ok value) values items)
    {json : Json} (form : Form.items written (some json)) : Json.toList read json = .ok values := by
  obtain ⟨items, rfl, isWritten⟩ := Form.always_some.1 form
  exact readAll_of_forall₂ (reads items isWritten)

theorem forall₂_toText (texts : List String) :
    List.Forall₂ (fun text item => toText item = .ok text) texts (texts.map .string) := by
  rw [List.forall₂_map_right_iff]
  exact List.forall₂_same.2 fun _ _ => rfl

theorem toList_texts {texts : List String} {json : Json}
    (form : Form.items (· = texts.map .string) (some json)) :
    Json.toList toText json = .ok texts :=
  toList_of_items (fun _ same => same ▸ forall₂_toText texts) form

end QueryShield.Json
