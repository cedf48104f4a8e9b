import QueryShield.Proofs.FlowLoading
import QueryShield.Proofs.Overrides

namespace QueryShield

open Json

namespace Yaml

theorem digit?_decimal {c : Char} (digit : c.isDigit) :
    digit? 10 c = some (c.toNat - '0'.toNat) := by
  have small : c.toNat - 48 < 10 := by
    have bound := (Char.isDigit_iff_toNat.1 digit).2
    change c.toNat ≤ 57 at bound
    omega
  simp [digit?, Text.hexDigit?, digit, Option.filter, small]

theorem foldl_decimal (digits : List Char) (allDigits : ∀ c ∈ digits, c.isDigit) :
    ∃ values, digits.mapM (digit? 10) = some values ∧
      ∀ n, values.foldl (fun n d => n * 10 + d) n = Nat.ofDigitChars 10 digits n := by
  induction digits with
  | nil => exact ⟨[], rfl, fun _ => Nat.ofDigitChars_nil.symm⟩
  | cons c digits ih =>
    rw [List.forall_mem_cons] at allDigits
    obtain ⟨values, read, folds⟩ := ih allDigits.2
    refine ⟨(c.toNat - '0'.toNat) :: values, ?_, fun n => ?_⟩
    · simp [digit?_decimal allDigits.1, read]
    · rw [List.foldl_cons, folds, Nat.ofDigitChars_cons, Nat.mul_comm]

theorem digitsToNat?_decimal (n : Nat) : digitsToNat? 10 (Nat.toDigits 10 n) = some n := by
  obtain ⟨values, read, folds⟩ := foldl_decimal (Nat.toDigits 10 n) fun c member =>
    Nat.isDigit_of_mem_toDigits (by decide) (by decide) member
  rw [digitsToNat?, read]
  simp [folds, Nat.ofDigitChars_ten_toDigits]

theorem unsigned?_decimal (n : Nat) : unsigned? (Nat.toDigits 10 n) = some n := by
  rcases Nat.eq_zero_or_pos n with rfl | positive
  · rfl
  · have head := head_decimal_ne_zero positive
    have read := digitsToNat?_decimal n
    cases digits : Nat.toDigits 10 n with
    | nil => exact absurd digits Nat.toDigits_ne_nil
    | cons c more =>
      rw [digits] at head read
      have other : c ≠ '0' := fun same => head (congrArg some same)
      unfold unsigned?
      split <;> simp_all

theorem toCount?_natural (n : UInt64) : toCount? (toString n.toNat) = some n := by
  have read := unsigned?_decimal n.toNat
  have noSign : ∀ rest, Nat.toDigits 10 n.toNat ≠ '+' :: rest := fun rest same => by
    have digit : '+'.isDigit := Nat.isDigit_of_mem_toDigits (by decide) (by decide)
      (same ▸ List.mem_cons_self)
    cases digit
  have fits : n.toNat < UInt64.size := n.toNat_lt
  simp only [toCount?, toList_decimal]
  split
  · rename_i found
    obtain rfl := Option.some.inj (read.symm.trans found)
    simp [fits]
  · rename_i missed
    rw [read] at missed
    cases missed

namespace Tree

theorem target_flowNode (tree : Tree) (json : Json) :
    tree.target (flowNode json) = flowNode json := by
  cases json <;> rfl

end Tree

end Yaml

/-- A value of a setting, with texts of characters that quotes keep. -/
inductive SettingKind.Holds : SettingKind → Json → Prop where
  | flag (b : Bool) : Holds .flag (.boolean b)
  | count (n : UInt64) : Holds .count (.natural n)
  | text {s : String} (kept : Yaml.isKeptText s) : Holds .text (.string s)
  | texts {texts : List String} (kept : ∀ s ∈ texts, Yaml.isKeptText s) :
    Holds .texts (.strings texts)

theorem SettingKind.Holds.fitsFlow {kind : SettingKind} {json : Json} (holds : kind.Holds json) :
    Yaml.FitsFlow json := by
  cases holds with
  | flag => trivial
  | count n => exact ⟨n, rfl⟩
  | text kept => exact kept
  | texts kept =>
    refine Yaml.itemsFitFlow_iff.2 fun item among => ?_
    obtain ⟨text, inTexts, rfl⟩ := List.mem_map.1 among
    exact kept text inTexts

theorem mem_of_lookup {α : Type} {entries : List (String × α)} {name : String} {value : α}
    (found : entries.lookup name = some value) : (name, value) ∈ entries := by
  obtain ⟨before, behind, rfl, -⟩ := List.lookup_eq_some_iff.1 found
  simp

namespace Yaml.Tree

theorem mapM_flowNode (tree : Tree) (texts : List String) :
    (itemNodes (texts.map .string)).mapM (fun item => (tree.target item).toText?) = some texts := by
  induction texts with
  | nil => rfl
  | cons text texts ih =>
    have here : (tree.target (flowNode (.string text))).toText? = some text := rfl
    rw [List.map_cons, itemNodes, List.mapM_cons, here, ih]
    rfl

theorem toSetting?_flowNode {kind : SettingKind} {json : Json} (holds : kind.Holds json)
    (tree : Tree) : tree.toSetting? kind (flowNode json) = some json := by
  cases holds with
  | flag b => cases b <;> rfl
  | count n =>
    have read := toCount?_natural n
    exact congrArg (Option.map Json.natural) read
  | text kept => rfl
  | texts kept => exact congrArg (Option.map Json.strings) (mapM_flowNode tree _)

theorem mapM_memberNodes {α : Type} (tree : Tree) {known : List (String × α)}
    {read : α → Node → Option Json} {members : List (String × Json)}
    (reads : ∀ member ∈ members, ∃ a, known.lookup member.1 = some a ∧
      read a (flowNode member.2) = some member.2) :
    (memberNodes members).mapM (fun (key, value) => do
      let name ← (tree.target key).toText?
      let json ← read (← known.lookup name) value
      return (name, json)) = some members := by
  induction members with
  | nil => rfl
  | cons member members ih =>
    obtain ⟨name, value⟩ := member
    rw [List.forall_mem_cons] at reads
    obtain ⟨⟨a, found, here⟩, others⟩ := reads
    have named : (tree.target (.scalar .quoted none name)).toText? = some name := rfl
    rw [memberNodes, List.mapM_cons, ih others]
    simp [named, found, here]

theorem toRecord?_flowNode {α : Type} (tree : Tree) {known : List (String × α)}
    {read : α → Node → Option Json} {members : List (String × Json)}
    (reads : ∀ member ∈ members, ∃ a, known.lookup member.1 = some a ∧
      read a (flowNode member.2) = some member.2) :
    tree.toRecord? known read (flowNode (.object members)) = some (.object members) := by
  have found := mapM_memberNodes tree reads
  rw [toRecord?, target_flowNode]
  simp only [flowNode, Option.bind_eq_bind] at found ⊢
  rw [found]
  rfl

end Yaml.Tree

/-- All settings are listed, with values of their kinds. -/
def HasSettings (fields : List (String × SettingKind)) (inner : List (String × Json)) : Prop :=
  ∀ setting ∈ inner, ∃ kind, fields.lookup setting.1 = some kind ∧ kind.Holds setting.2

theorem HasSettings.nil {fields : List (String × SettingKind)} : HasSettings fields [] := nofun

theorem HasSettings.cons {fields : List (String × SettingKind)} {kind : SettingKind} {name : String}
    {json : Json} {rest : List (String × Json)} (listed : fields.lookup name = some kind)
    (holds : kind.Holds json) (others : HasSettings fields rest) :
    HasSettings fields ((name, json) :: rest) :=
  List.forall_mem_cons.2 ⟨⟨kind, listed, holds⟩, others⟩

namespace Policy

def Settled (members : List (String × Json)) : Prop :=
  ∀ member ∈ members, ∃ fields inner, settings.lookup member.1 = some fields ∧
    member.2 = .object inner ∧ HasSettings fields inner

variable {members : List (String × Json)}

theorem Settled.overrides?_eq (settled : Settled members) :
    overrides? { root := Yaml.flowNode (.object members) } = some (.object members) := by
  refine Yaml.Tree.toRecord?_flowNode _ fun member among => ?_
  obtain ⟨fields, inner, known, same, each⟩ := settled member among
  refine ⟨fields, known, ?_⟩
  rw [same]
  refine Yaml.Tree.toRecord?_flowNode _ fun setting within => ?_
  obtain ⟨kind, listed, holds⟩ := each setting within
  exact ⟨kind, listed, Yaml.Tree.toSetting?_flowNode holds _⟩

theorem keyFits_iff {name : String} : Yaml.KeyFits name ↔
    Yaml.isKeptText name ∧ (Json.quoted name).toList.length ≤ Yaml.keyLimit :=
  ⟨fun fits => ⟨fits.kept, fits.short⟩, fun fits => ⟨fits.1, fits.2⟩⟩

theorem settings_fit : ∀ record ∈ settings,
    Yaml.KeyFits record.1 ∧ ∀ field ∈ record.2, Yaml.KeyFits field.1 := by
  simp only [keyFits_iff, toList_quoted]
  decide +kernel

theorem Settled.fitsFlow (settled : Settled members) : Yaml.FitsFlow (.object members) := by
  refine Yaml.membersFitFlow_iff.2 fun member among => ?_
  obtain ⟨fields, inner, known, same, each⟩ := settled member among
  obtain ⟨keyed, fieldsKeyed⟩ := settings_fit _ (mem_of_lookup known)
  refine ⟨keyed, same ▸ Yaml.membersFitFlow_iff.2 fun setting within => ?_⟩
  obtain ⟨kind, listed, holds⟩ := each setting within
  exact ⟨fieldsKeyed _ (mem_of_lookup listed), holds.fitsFlow⟩

/-- A JSON text with settings is a YAML text with the same settings. -/
theorem Settled.policy?_compact (settled : Settled members) :
    Yaml.policy? (Json.object members).compact = (ofJson (.object members)).toOption := by
  rw [Yaml.policy?, Yaml.Tree.ofText?_compact settled.fitsFlow, Option.bind_some,
    settled.overrides?_eq]

structure TextsKept (policy : Policy) : Prop where
  listSizeArguments : ∀ s ∈ policy.cost.listSizeArguments, Yaml.isKeptText s
  mask : Yaml.isKeptText policy.fieldSuggestion.mask

example : ({} : Policy).TextsKept := ⟨by decide, by decide⟩

theorem exists_settings {name : String} {full json : Json} {chosen : String → Bool}
    {fields : List (String × SettingKind)} (holds : Json.Holds members name (.settings chosen full))
    (present : (name, json) ∈ members) (known : settings.lookup name = some fields)
    (has : HasSettings fields full.members) :
    ∃ fields inner, settings.lookup name = some fields ∧ json = .object inner ∧
      HasSettings fields inner := by
  obtain ⟨picked, perm, same⟩ := holds.of_present (mem_underName.2 present)
  have found : some json = some (Json.object picked) := same.resolve_right (by rintro ⟨-, ⟨⟩⟩)
  exact ⟨fields, picked, known, Option.some.inj found, fun setting within =>
    has setting (List.mem_of_mem_filter (perm.subset within))⟩

theorem GivenIn.settled {policy : Policy} {chosen : String → String → Bool}
    (given : policy.GivenIn chosen members) (kept : policy.TextsKept) : Settled members := by
  rintro ⟨name, json⟩ among
  have known := given.known _ among
  simp only [settings, List.map_cons, List.map_nil, List.mem_cons, List.not_mem_nil,
    or_false] at known
  rcases known with rfl | rfl | rfl | rfl | rfl | rfl
  · exact exists_settings given.characterLimit among rfl
      (.cons rfl (.flag _) <| .cons rfl (.count _) .nil)
  · exact exists_settings given.cost among rfl
      (.cons rfl (.flag _) <| .cons rfl (.count _) <| .cons rfl (.count _) <|
        .cons rfl (.count _) <| .cons rfl (.count _) <| .cons rfl (.texts kept.listSizeArguments) <|
        .cons rfl (.flag _) .nil)
  · exact exists_settings given.depth among rfl
      (.cons rfl (.flag _) <| .cons rfl (.count _) <| .cons rfl (.flag _) .nil)
  · exact exists_settings given.aliases among rfl
      (.cons rfl (.flag _) <| .cons rfl (.count _) <| .cons rfl (.flag _) .nil)
  · exact exists_settings given.directives among rfl
      (.cons rfl (.flag _) <| .cons rfl (.count _) <| .cons rfl (.flag _) <|
        .cons rfl (.flag _) .nil)
  · exact exists_settings given.fieldSuggestion among rfl
      (.cons rfl (.flag _) <| .cons rfl (.text kept.mask) .nil)

/-- Settings that are given as JSON are read as YAML as they are resolved. -/
theorem ofYaml_given {policy : Policy} {chosen : String → String → Bool}
    (given : policy.GivenIn chosen members) (kept : policy.TextsKept) :
    ofYaml (Json.object members).compact = (({} : Policy).override chosen policy).checked := by
  rw [ofYaml, ofText, (given.settled kept).policy?_compact, ofJson_given given]
  rfl

/-- A policy is read back as YAML from the text of its settings. -/
theorem ofYaml_compact {policy : Policy} (kept : policy.TextsKept) :
    ofYaml policy.toJson.compact = policy.checked := by
  have read := ofYaml_given (policy.given_overrides fun _ _ => true) kept
  rwa [overrides_all, override_all] at read

end Policy

end QueryShield
