import QueryShield.Document.Basic

namespace QueryShield.Document

def unmarkedCount (document : Document) (isMarked : String → Bool) : Nat :=
  document.fragments.countP fun fragment => !isMarked fragment.name

theorem fragment?_mem {document : Document} {name : String} {definition : FragmentDefinition}
    (found : document.fragment? name = some definition) :
    definition ∈ document.fragments ∧ definition.name = name :=
  ⟨List.mem_of_find?_eq_some found, by simpa using List.find?_some found⟩

theorem unmarkedCount_le (document : Document) {before after : String → Bool}
    (kept : ∀ name, before name → after name) :
    document.unmarkedCount after ≤ document.unmarkedCount before :=
  List.countP_mono_left fun fragment _ unmarked => by
    have := kept fragment.name
    revert unmarked this
    cases before fragment.name <;> cases after fragment.name <;> simp

theorem countP_lt_countP {α : Type} {p q : α → Bool} {l : List α} (below : ∀ x, q x → p x) {x : α}
    (member : x ∈ l) (inP : p x) (notQ : q x = false) : l.countP q < l.countP p := by
  induction l with
  | nil => cases member
  | cons y l ih =>
    have mono : l.countP q ≤ l.countP p := List.countP_mono_left fun z _ => below z
    rcases List.mem_cons.1 member with rfl | member
    · simp only [List.countP_cons, inP, notQ, ↓reduceIte, Bool.false_eq_true]
      omega
    · have := ih member
      simp only [List.countP_cons]
      by_cases hq : q y
      · simp [hq, below y hq, this]
      · simp only [hq, Bool.false_eq_true, ↓reduceIte]
        omega

theorem unmarkedCount_lt {document : Document} {before after : String → Bool} {name : String}
    {definition : FragmentDefinition} (kept : ∀ name, before name → after name)
    (found : document.fragment? name = some definition) (fresh : before name = false)
    (marked : after name = true) :
    document.unmarkedCount after < document.unmarkedCount before := by
  obtain ⟨member, rfl⟩ := fragment?_mem found
  refine countP_lt_countP (fun fragment unmarked => ?_) member (by simp [fresh]) (by simp [marked])
  have := kept fragment.name
  revert unmarked this
  cases before fragment.name <;> cases after fragment.name <;> simp

end QueryShield.Document
