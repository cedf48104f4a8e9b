import QueryShield.Proofs.MemberForms

namespace QueryShield.Json

/-- What the members say about a slot: `filled` gives the record by the names that have been read,
and reading a member of the slot's name adds that name. -/
structure Slot.Fills {σ : Type} (slot : Slot σ) (filled : List String → σ)
    (members : List (String × Json)) : Prop where
  once : (underName slot.name members).length ≤ 1
  reads : ∀ json ∈ underName slot.name members, ∀ seen,
    slot.read json (filled seen) = .ok (filled (slot.name :: seen))
  present : slot.required → underName slot.name members ≠ []

section Records

variable {σ : Type} {filled : List String → σ} {members : List (String × Json)}

theorem Slot.optional_fills {name : String} {read : Json → Decoded α} {put : α → σ → σ} {value : α}
    {form : Form} (holds : Holds members name form)
    (reads : ∀ json, form (some json) → read json = .ok value)
    (puts : ∀ seen, put value (filled seen) = filled (name :: seen)) :
    (Slot.optional name read put).Fills filled members where
  once := holds.length_le
  reads json under seen := by
    simp only [Slot.optional, reads json (holds.of_present under), Except.map, puts seen]
  present := nofun

theorem Slot.mandatory_fills {name : String} {read : Json → Decoded α} {put : α → σ → σ} {value : α}
    {form : Form} (holds : Holds members name form) (needed : ¬ form none)
    (reads : ∀ json, form (some json) → read json = .ok value)
    (puts : ∀ seen, put value (filled seen) = filled (name :: seen)) :
    (Slot.mandatory name read put).Fills filled members where
  once := holds.length_le
  reads json under seen := by
    simp only [Slot.mandatory, reads json (holds.of_present under), Except.map, puts seen]
  present _ absent := needed (holds.of_absent absent)

theorem Holds.ite_seen {name : String} {seen : List String} {value start : α} {form : Form}
    (holds : Holds members name form) (told : name ∈ seen ∨ underName name members = [])
    (left : form none → value = start) : (if name ∈ seen then value else start) = value := by
  split
  · rfl
  · next unseen => exact (left (holds.of_absent (told.resolve_left unseen))).symm

theorem Holds.ite_seen_present {name : String} {seen : List String} {value start : α} {form : Form}
    (holds : Holds members name form) (told : name ∈ seen ∨ underName name members = [])
    (needed : ¬ form none) : (if name ∈ seen then value else start) = value :=
  holds.ite_seen told (absurd · needed)

namespace Record

variable {r : Record σ}

theorem slot?_eq_none_iff {name : String} : r.slot? name = none ↔ name ∉ r.names := by
  simp [slot?, names]

theorem slot?_eq_none {name : String} (missing : r.slot? name = none) {slot : Slot σ}
    (among : slot ∈ r.slots) : name ≠ slot.name := by
  rintro rfl
  exact slot?_eq_none_iff.1 missing (List.mem_map_of_mem among)

theorem slot?_eq_some {name : String} {slot : Slot σ} (found : r.slot? name = some slot) :
    slot ∈ r.slots ∧ slot.name = name :=
  ⟨List.mem_of_find?_eq_some found, by simpa using List.find?_some found⟩

structure Readable (r : Record σ) (filled : List String → σ) (seen : List String)
    (members : List (String × Json)) : Prop where
  fresh : ∀ slot ∈ r.slots, slot.name ∈ seen → underName slot.name members = []
  once : ∀ slot ∈ r.slots, (underName slot.name members).length ≤ 1
  reads : ∀ slot ∈ r.slots, ∀ json ∈ underName slot.name members, ∀ seen,
    slot.read json (filled seen) = .ok (filled (slot.name :: seen))

namespace Readable

variable {seen : List String} {name : String} {json : Json} {rest : List (String × Json)}

theorem pass (readable : r.Readable filled seen ((name, json) :: rest))
    (missing : r.slot? name = none) : r.Readable filled seen rest := by
  have same : ∀ slot ∈ r.slots,
      underName slot.name ((name, json) :: rest) = underName slot.name rest :=
    fun slot among => by rw [underName_cons, if_neg (slot?_eq_none missing among)]
  exact {
    fresh := fun slot among known => same slot among ▸ readable.fresh slot among known
    once := fun slot among => same slot among ▸ readable.once slot among
    reads := fun slot among => same slot among ▸ readable.reads slot among }

variable {slot : Slot σ}

theorem unread (readable : r.Readable filled seen ((slot.name, json) :: rest))
    (among : slot ∈ r.slots) : slot.name ∉ seen := fun known => by
  simpa [underName_cons] using readable.fresh slot among known

theorem read_head (readable : r.Readable filled seen ((slot.name, json) :: rest))
    (among : slot ∈ r.slots) :
    slot.read json (filled seen) = .ok (filled (slot.name :: seen)) :=
  readable.reads slot among json (by simp [underName_cons]) seen

theorem take (readable : r.Readable filled seen ((slot.name, json) :: rest))
    (among : slot ∈ r.slots) : r.Readable filled (slot.name :: seen) rest := by
  have spent : underName slot.name rest = [] := by
    have once := readable.once slot among
    rw [underName_cons, if_pos rfl, List.length_cons] at once
    exact List.eq_nil_of_length_eq_zero (by omega)
  have other (slot' : Slot σ) (differs : slot.name ≠ slot'.name) :
      underName slot'.name ((slot.name, json) :: rest) = underName slot'.name rest := by
    rw [underName_cons, if_neg differs]
  exact {
    fresh := fun slot' among' known => by
      by_cases same : slot.name = slot'.name
      · exact same ▸ spent
      · have before := (List.mem_cons.1 known).resolve_left (Ne.symm same)
        exact other slot' same ▸ readable.fresh slot' among' before
    once := fun slot' among' => by
      by_cases same : slot.name = slot'.name
      · simp [← same, spent]
      · exact other slot' same ▸ readable.once slot' among'
    reads := fun slot' among' value under => by
      by_cases same : slot.name = slot'.name
      · simp [← same, spent] at under
      · exact readable.reads slot' among' value (other slot' same ▸ under) }

end Readable

/-- Induction on the members still to come: each either passes or adds its name to those that
`filled` is told. -/
theorem readMembers_filled {seen : List String}
    (known : r.closed = true → ∀ member ∈ members, member.1 ∈ r.names)
    (readable : r.Readable filled seen members) :
    ∃ seen', r.readMembers members seen (filled seen) = .ok (seen', filled seen') ∧ seen ⊆ seen' ∧
      ∀ slot ∈ r.slots, slot.name ∈ seen' ∨ underName slot.name members = [] := by
  induction members generalizing seen with
  | nil => exact ⟨seen, rfl, List.Subset.refl _, fun _ _ => .inr rfl⟩
  | cons member rest ih =>
    obtain ⟨name, json⟩ := member
    have later := fun closed => (List.forall_mem_cons.1 (known closed)).2
    cases found : r.slot? name with
    | none =>
      have opened : r.closed = false := by
        refine Bool.eq_false_iff.2 fun closed => slot?_eq_none_iff.1 found ?_
        exact known closed _ List.mem_cons_self
      obtain ⟨seen', run, more, told⟩ := ih later (readable.pass found)
      refine ⟨seen', ?_, more, fun slot among => ?_⟩
      · simpa only [readMembers, found, opened, Bool.false_eq_true, if_false] using run
      · rw [underName_cons, if_neg (slot?_eq_none found among)]
        exact told slot among
    | some slot =>
      obtain ⟨among, rfl⟩ := slot?_eq_some found
      obtain ⟨seen', run, more, told⟩ := ih later (readable.take among)
      have kept : seen ⊆ seen' := fun name earlier => more (List.mem_cons_of_mem _ earlier)
      refine ⟨seen', ?_, kept, fun other amongOther => ?_⟩
      · simpa only [readMembers, found, readable.unread among, if_false, readable.read_head among,
          bind, Except.bind] using run
      · by_cases same : slot.name = other.name
        · exact .inl (same ▸ more List.mem_cons_self)
        · rw [underName_cons, if_neg same]
          exact told other amongOther

/-- The reader needs of the members only what they hold under the names of the slots, and that there
are no others if the record is closed. -/
theorem read_of_known (filled : List String → σ) {record : σ}
    (known : r.closed = true → ∀ member ∈ members, member.1 ∈ r.names)
    (start : filled [] = r.initial)
    (fills : ∀ slot ∈ r.slots, slot.Fills filled members)
    (whole : ∀ seen, (∀ slot ∈ r.slots, slot.name ∈ seen ∨ underName slot.name members = []) →
      filled seen = record) (origin : Origin) :
    r.read origin (.object members) = .ok record := by
  have readable : r.Readable filled [] members := {
    fresh := fun _ _ known => nomatch known
    once := fun slot among => (fills slot among).once
    reads := fun slot among => (fills slot among).reads }
  obtain ⟨seen, run, -, told⟩ := readMembers_filled known readable
  have complete : (r.slots.find? fun slot => slot.required && slot.name ∉ seen) = none := by
    refine List.find?_eq_none.2 fun slot among unmet => ?_
    simp only [Bool.and_eq_true, decide_eq_true_eq] at unmet
    exact (fills slot among).present unmet.1 ((told slot among).resolve_left unmet.2)
  rw [read, ← start, run]
  simp only [bind, Except.bind, complete, whole seen told]
  rfl

theorem read_of_fills (filled : List String → σ) {record : σ} (opened : r.closed = false)
    (start : filled [] = r.initial)
    (fills : ∀ slot ∈ r.slots, slot.Fills filled members)
    (whole : ∀ seen, (∀ slot ∈ r.slots, slot.name ∈ seen ∨ underName slot.name members = []) →
      filled seen = record) (origin : Origin) :
    r.read origin (.object members) = .ok record :=
  read_of_known filled (fun closed => absurd closed (Bool.eq_false_iff.1 opened)) start fills whole
    origin

end Record

end Records

end QueryShield.Json
