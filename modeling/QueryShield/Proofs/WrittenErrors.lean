import Mathlib
import QueryShield.Proofs.RoundTrip
import QueryShield.ResponseError

namespace QueryShield

open Json

theorem dropShadowed_of_nodup {entries : List (String × α)}
    (distinct : (entries.map Prod.fst).Nodup) : dropShadowed entries = entries := by
  fun_induction dropShadowed entries with
  | case1 => rfl
  | case2 => rfl
  | case3 entry next rest same =>
    -- The neighbour would have the name a second time.
    exact absurd (same ▸ List.mem_cons_self) (List.nodup_cons.1 distinct).1
  | case4 entry next rest differs ih => rw [ih (List.nodup_cons.1 distinct).2]

theorem sortedByName_perm {entries : List (String × α)}
    (distinct : (entries.map Prod.fst).Nodup) : (sortedByName entries).Perm entries := by
  have sorted := List.mergeSort_perm entries fun a b => !(b.1 < a.1)
  rw [sortedByName, dropShadowed_of_nodup ((sorted.map Prod.fst).nodup_iff.2 distinct)]
  exact sorted

section

variable {members : List (String × Json)} {name : String}

theorem underName_sortedByName (distinct : (members.map Prod.fst).Nodup) (name : String) :
    underName name (sortedByName members) = underName name members := by
  have alike : (underName name (sortedByName members)).Perm (underName name members) :=
    ((sortedByName_perm distinct).filter _).map _
  have once := length_underName_le distinct name
  match found : underName name members with
  | [] => exact (found ▸ alike).eq_nil
  | [json] => exact List.perm_singleton.1 (found ▸ alike)
  | _ :: _ :: _ =>
    rw [found, List.length_cons, List.length_cons] at once
    omega

theorem lastNamed_sortedByName (distinct : (members.map Prod.fst).Nodup) (name : String) :
    lastNamed name (sortedByName members) = lastNamed name members := by
  rw [lastNamed_eq_getLast?, lastNamed_eq_getLast?, underName_sortedByName distinct]

theorem Json.Holds.sorted {form : Form} (distinct : (members.map Prod.fst).Nodup)
    (holds : Holds members name form) : Holds (sortedByName members) name form := by
  obtain ⟨entry, under, hasForm⟩ := holds
  exact ⟨entry, (underName_sortedByName distinct name).trans under, hasForm⟩

end

theorem Json.canonicalItems_eq_map (items : List Json) :
    canonicalItems items = items.map canonical := by
  induction items with
  | nil => rfl
  | cons item rest ih => rw [canonicalItems, ih, List.map_cons]

structure Location.WrittenIn (location : Location) (members : List (String × Json)) : Prop where
  line : Holds members "line" (.exactly (.natural location.line))
  column : Holds members "column" (.exactly (.natural location.column))

def Location.Written (location : Location) (json : Json) : Prop :=
  ∃ members, json = .object members ∧ location.WrittenIn members

theorem Location.written_toJson (location : Location) : location.Written location.toJson :=
  ⟨_, rfl, {
    line := ⟨some _, by simp [underName_cons], rfl⟩
    column := ⟨some _, by simp [underName_cons], rfl⟩ }⟩

def Location.filled (location : Location) (seen : List String) : Location where
  line := if "line" ∈ seen then location.line else 0
  column := if "column" ∈ seen then location.column else 0

theorem Location.read_written (origin : Origin) {location : Location} {json : Json}
    (isWritten : location.Written json) : record.read origin json = .ok location := by
  obtain ⟨members, rfl, held⟩ := isWritten
  refine Record.read_of_fills location.filled rfl rfl ?_ ?_ origin
  · simp only [record, List.forall_mem_cons]
    refine ⟨Slot.mandatory_fills held.line Form.not_exactly_none
        (Form.exactly_reads (toSize_natural location.line)) ?_,
      Slot.mandatory_fills held.column Form.not_exactly_none
        (Form.exactly_reads (toSize_natural location.column)) ?_, nofun⟩
    all_goals intro seen; simp [filled]
  · intro seen told
    simp only [record, List.forall_mem_cons] at told
    obtain ⟨line, column, -⟩ := told
    simp only [filled, held.line.ite_seen_present line Form.not_exactly_none,
      held.column.ite_seen_present column Form.not_exactly_none]

namespace ResponseError

def extensionsForm (extensions : List (String × Json)) : Form :=
  fun entry => entry = some (.object extensions) ∨ extensions = [] ∧ entry = none

structure WrittenIn (error : ResponseError) (members : List (String × Json)) : Prop where
  message : Holds members "message" (.text error.message)
  locations : Holds members "locations"
    (.omittableItems error.locations (List.Forall₂ Location.Written error.locations))
  path : Holds members "path" (.omittableItems error.path (· = error.path))
  extensions : Holds members "extensions" (extensionsForm error.extensions)

def Written (error : ResponseError) (json : Json) : Prop :=
  ∃ members, json = .object members ∧ error.WrittenIn members

theorem written_toJson (error : ResponseError) : error.Written error.toJson := by
  have locations : List.Forall₂ Location.Written error.locations
      (error.locations.map Location.toJson) :=
    forall₂_written fun location _ => location.written_toJson
  refine ⟨_, rfl, {
    message := ⟨some _, by split <;> simp [underName_cons], rfl⟩
    locations := ⟨_, by split <;> simp [underName_cons],
      omittableItems_of_written List.map_eq_nil_iff.1 locations⟩
    path := ⟨_, by split <;> simp [underName_cons], omittableItems_of_written id rfl⟩
    extensions := ?_ }⟩
  cases empty : error.extensions with
  | nil => exact ⟨none, by simp [underName_cons], .inr ⟨rfl, rfl⟩⟩
  | cons entry rest => exact ⟨some _, by simp [underName_cons], .inl rfl⟩

def filled (error : ResponseError) (seen : List String) : ResponseError where
  message := if "message" ∈ seen then error.message else ""
  locations := if "locations" ∈ seen then error.locations else []
  path := if "path" ∈ seen then error.path else []
  extensions := if "extensions" ∈ seen then error.extensions else []

theorem ofJson_written (origin : Origin) {error : ResponseError} {json : Json}
    (isWritten : error.Written json) : ofJson origin json = .ok error := by
  obtain ⟨members, rfl, held⟩ := isWritten
  have locations (json : Json) (form : Form.omittableItems error.locations
      (List.Forall₂ Location.Written error.locations) (some json)) :
      Json.toList (Location.record.read origin) json = .ok error.locations :=
    toList_of_items (fun _ written => written.imp fun _ _ => Location.read_written origin)
      (Form.omittableItems_some form)
  have path (json : Json) (form : Form.omittableItems error.path (· = error.path) (some json)) :
      toItems json = .ok error.path := by
    obtain ⟨items, rfl, rfl⟩ := Form.always_some.1 (Form.omittableItems_some form)
    rfl
  have extensions (json : Json) (form : extensionsForm error.extensions (some json)) :
      toMembers json = .ok error.extensions := by
    obtain rfl := Option.some.inj (form.resolve_right nofun)
    rfl
  refine Record.read_of_fills error.filled rfl rfl ?_ ?_ origin
  · simp only [record, List.forall_mem_cons]
    refine ⟨Slot.mandatory_fills held.message Form.not_exactly_none Form.text_reads ?_,
      Slot.optional_fills held.locations locations ?_, Slot.optional_fills held.path path ?_,
      Slot.optional_fills held.extensions extensions ?_, nofun⟩
    all_goals intro seen; simp [filled]
  · intro seen told
    simp only [record, List.forall_mem_cons] at told
    obtain ⟨message, locations, path, extensions, -⟩ := told
    simp only [filled, held.message.ite_seen_present message Form.not_exactly_none,
      held.locations.ite_seen locations Form.omittableItems_none,
      held.path.ite_seen path Form.omittableItems_none,
      held.extensions.ite_seen extensions fun absent => (absent.resolve_left nofun).1]

end ResponseError

end QueryShield
