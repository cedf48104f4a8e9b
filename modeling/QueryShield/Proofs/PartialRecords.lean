import Mathlib.Data.List.Nodup
import QueryShield.Proofs.RecordReading

namespace QueryShield.Json

def members : Json → List (String × Json)
  | object members => members
  | _ => []

/-- An object of exactly the members with chosen names, in any order. It may be left out when there
are none. -/
def Form.settings (chosen : String → Bool) (full : Json) : Form := fun entry =>
  ∃ picked : List (String × Json), picked.Perm (full.members.filter fun member => chosen member.1) ∧
    (entry = some (.object picked) ∨ picked = [] ∧ entry = none)

variable {σ : Type} {members : List (String × Json)} {name : String}

structure Slot.Chooses (override : (String → Bool) → σ) (slot : Slot σ) (member : String × Json) :
    Prop where
  name : member.1 = slot.name
  optional : slot.required = false
  reads : ∀ chosen, slot.read member.2 (override chosen) =
    .ok (override fun name => name == slot.name || chosen name)

theorem Slot.optional_chooses {override : (String → Bool) → σ} {read : Json → Decoded α}
    {put : α → σ → σ} {json : Json} {value : α} (reads : read json = .ok value)
    (puts : ∀ chosen, put value (override chosen) = override fun key => key == name || chosen key) :
    (Slot.optional name read put).Chooses override (name, json) where
  name := rfl
  optional := rfl
  reads chosen := by simp only [Slot.optional, reads, Except.map, puts]

/-- The record starts from its own values and is written with a member for each slot. -/
structure Record.Overridable (r : Record σ) (override : (String → Bool) → σ) (full : Json) :
    Prop where
  distinct : r.names.Nodup
  start : (override fun _ => false) = r.initial
  within : ∀ chosen, (override fun name => chosen name && name ∈ r.names) = override chosen
  slots : List.Forall₂ (Slot.Chooses override) r.slots full.members

section

variable {override : (String → Bool) → σ} {slots : List (Slot σ)}

theorem Slot.names_eq (written : List.Forall₂ (Slot.Chooses override) slots members) :
    members.map Prod.fst = slots.map Slot.name := by
  induction written with
  | nil => rfl
  | cons first _ ih => rw [List.map_cons, List.map_cons, ih, first.name]

theorem Slot.exists_chooses (written : List.Forall₂ (Slot.Chooses override) slots members) :
    ∀ slot ∈ slots, ∃ member ∈ members, slot.Chooses override member := by
  induction written with
  | nil => nofun
  | @cons slot member _ _ first _ ih =>
    refine List.forall_mem_cons.2 ⟨⟨member, List.mem_cons_self, first⟩, fun other among => ?_⟩
    obtain ⟨found, later, chooses⟩ := ih other among
    exact ⟨found, List.mem_cons_of_mem _ later, chooses⟩

end

namespace Record.Overridable

variable {r : Record σ} {override : (String → Bool) → σ} {full : Json} {chosen : String → Bool}
  {picked : List (String × Json)}

theorem names_eq (overridable : r.Overridable override full) :
    full.members.map Prod.fst = r.names := Slot.names_eq overridable.slots

theorem chooses (overridable : r.Overridable override full) {slot : Slot σ}
    (among : slot ∈ r.slots) {json : Json} (member : (slot.name, json) ∈ full.members) :
    slot.Chooses override (slot.name, json) := by
  obtain ⟨written, listed, chooses⟩ := Slot.exists_chooses overridable.slots slot among
  have distinct : (full.members.map Prod.fst).Nodup :=
    overridable.names_eq ▸ overridable.distinct
  have same : written = (slot.name, json) :=
    List.inj_on_of_nodup_map distinct listed member chooses.name
  exact same ▸ chooses

theorem unchosen (overridable : r.Overridable override full)
    (none : (full.members.filter fun member => chosen member.1) = []) :
    override chosen = r.initial := by
  rw [← overridable.within, ← overridable.start]
  congr 1
  funext name
  by_cases known : name ∈ r.names
  · rw [← overridable.names_eq] at known
    obtain ⟨member, among, rfl⟩ := List.mem_map.1 known
    simp [List.filter_eq_nil_iff.1 none member among]
  · simp [known]

theorem mem_picked (selected : picked.Perm (full.members.filter fun member => chosen member.1))
    {json : Json} : (name, json) ∈ picked ↔ (name, json) ∈ full.members ∧ chosen name = true := by
  rw [selected.mem_iff, List.mem_filter]

theorem fills (overridable : r.Overridable override full)
    (selected : picked.Perm (full.members.filter fun member => chosen member.1)) :
    ∀ slot ∈ r.slots,
      slot.Fills (fun seen => override fun name => chosen name && name ∈ seen) picked := by
  intro slot among
  have distinct : (picked.map Prod.fst).Nodup := by
    refine (selected.map Prod.fst).nodup_iff.2 (List.Nodup.sublist ?_ overridable.distinct)
    exact overridable.names_eq ▸ List.filter_sublist.map Prod.fst
  refine ⟨length_underName_le distinct _, fun json under seen => ?_, fun required => ?_⟩
  · obtain ⟨member, isChosen⟩ := (mem_picked selected).1 (mem_underName.1 under)
    rw [(overridable.chooses among member).reads]
    congr 2
    funext name
    by_cases same : name = slot.name <;> simp [same, isChosen]
  · obtain ⟨member, -, chooses⟩ := Slot.exists_chooses overridable.slots slot among
    exact absurd required (Bool.eq_false_iff.1 chooses.optional)

theorem read_picked (overridable : r.Overridable override full)
    (selected : picked.Perm (full.members.filter fun member => chosen member.1))
    (origin : Origin) : r.read origin (.object picked) = .ok (override chosen) := by
  have known : ∀ member ∈ picked, member.1 ∈ r.names := fun member among =>
    overridable.names_eq ▸ List.mem_map_of_mem ((mem_picked selected).1 among).1
  have start : (override fun name => chosen name && name ∈ ([] : List String)) = r.initial := by
    simpa using overridable.start
  refine Record.read_of_known _ (fun _ => known) start (overridable.fills selected)
    (fun seen told => ?_) origin
  -- names that are no slots may be chosen or seen as well, and make no difference
  rw [← overridable.within, ← overridable.within chosen]
  congr 1
  funext name
  by_cases isKnown : name ∈ r.names
  · obtain ⟨slot, among, rfl⟩ := List.mem_map.1 isKnown
    obtain ⟨member, listed, same⟩ := List.mem_map.1 (overridable.names_eq ▸ isKnown)
    cases isChosen : chosen slot.name with
    | false => rfl
    | true =>
      have present : member.2 ∈ underName slot.name picked :=
        mem_underName.2 ((mem_picked selected).2 ⟨same ▸ listed, isChosen⟩)
      have read := (told slot among).resolve_right (List.ne_nil_of_mem present)
      simp [read]
  · simp [isKnown]

theorem read_settings (overridable : r.Overridable override full) (origin : Origin) (json : Json)
    (form : Form.settings chosen full (some json)) :
    r.read origin json = .ok (override chosen) := by
  obtain ⟨picked, selected, present | ⟨-, absent⟩⟩ := form
  · obtain rfl := Option.some.inj present
    exact overridable.read_picked selected origin
  · cases absent

theorem unchosen_settings (overridable : r.Overridable override full)
    (form : Form.settings chosen full none) : override chosen = r.initial := by
  obtain ⟨picked, selected, present | ⟨rfl, -⟩⟩ := form
  · cases present
  · exact overridable.unchosen selected.nil_eq.symm

end Record.Overridable

theorem not_mem_of_lookup {α : Type} {entries : List (String × α)}
    (unknown : entries.lookup name = none) : name ∉ entries.map Prod.fst := by
  intro known
  obtain ⟨entry, among, rfl⟩ := List.mem_map.1 known
  simpa using List.lookup_eq_none_iff.1 unknown entry among

namespace Record

variable {r : Record σ}

theorem readMembers_refused (closed : r.closed = true) {json : Json}
    (present : (name, json) ∈ members)
    (refused : ∀ slot, r.slot? name = some slot → ∀ record, ∃ fault,
      slot.read json record = .error fault) :
    ∀ seen record, ∃ fault, r.readMembers members seen record = .error fault := by
  induction members with
  | nil => cases present
  | cons member rest ih =>
    intro seen record
    obtain ⟨key, other⟩ := member
    rw [readMembers]
    cases found : r.slot? key with
    | none => exact ⟨_, if_pos closed⟩
    | some slot =>
      -- a fault before the member ends the reading too
      by_cases again : key ∈ seen
      · exact ⟨_, if_pos again⟩
      · simp only [again, if_false]
        cases read : slot.read other record with
        | error fault => exact ⟨fault, rfl⟩
        | ok next =>
          rcases List.mem_cons.1 present with here | later
          · obtain ⟨rfl, rfl⟩ := Prod.mk.inj here
            obtain ⟨fault, failed⟩ := refused slot found record
            rw [read] at failed
            cases failed
          · exact ih later _ next

theorem read_refused (closed : r.closed = true) {json : Json} (present : (name, json) ∈ members)
    (refused : ∀ slot, r.slot? name = some slot → ∀ record, ∃ fault,
      slot.read json record = .error fault) (origin : Origin) :
    ∃ fault, r.read origin (.object members) = .error fault := by
  obtain ⟨fault, failed⟩ := readMembers_refused closed present refused [] r.initial
  exact ⟨fault, by rw [read, failed]; rfl⟩

theorem read_unknown (closed : r.closed = true) {json : Json} (present : (name, json) ∈ members)
    (unknown : name ∉ r.names) (origin : Origin) :
    ∃ fault, r.read origin (.object members) = .error fault := by
  refine read_refused closed present (fun slot found => ?_) origin
  rw [slot?_eq_none_iff.2 unknown] at found
  cases found

end Record

theorem Slot.optional_refused {read : Json → Decoded α} {put : α → σ → σ} {json : Json}
    (failed : ∃ fault, read json = .error fault) (record : σ) :
    ∃ fault, (Slot.optional name read put).read json record = .error fault := by
  obtain ⟨fault, failed⟩ := failed
  exact ⟨fault, by simp only [Slot.optional, failed, Except.map]⟩

end QueryShield.Json
