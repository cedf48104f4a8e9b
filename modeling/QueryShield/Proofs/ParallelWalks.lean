import Mathlib
import QueryShield.Proofs.SteadyFragments

namespace QueryShield

namespace Walk

variable {V : Type} {m : Measure V} {document : Document}

/-- Two walks have come to the same selections, all of whose fragments are inside a given set. The
fragments in progress around them that still matter are the same, and what they know differs in
steady fragments only. -/
structure Alongside (m : Measure V) (document : Document) (inside : String → Prop)
    (first second : List String) (known others : Known V) (selections : List Selection) :
    Prop where
  within : ∀ name, document.Reaches selections name → inside name
  progress : ∀ name, document.Reaches selections name → (name ∈ first ↔ name ∈ second)
  entry : Entry m document first known selections
  entry' : Entry m document second others selections
  agree : ∀ name, inside name → ¬ document.Steady name → known.lookup name = others.lookup name

structure KnownAlike (m : Measure V) (document : Document) (inside : String → Prop)
    (known others : Known V) : Prop where
  settled : m.Settled document known
  settled' : m.Settled document others
  agree : ∀ name, inside name → ¬ document.Steady name → known.lookup name = others.lookup name

variable {inside : String → Prop} {first second : List String}
  {known others after after' : Known V} {total : V} {spread : FragmentSpread}
  {rest selections : List Selection}

theorem Alongside.part {fewer : List Selection}
    (walks : Alongside m document inside first second known others selections)
    (part : ∀ name, document.Reaches fewer name → document.Reaches selections name) :
    Alongside m document inside first second known others fewer where
  within := fun name reached => walks.within name (part name reached)
  progress := fun name reached => walks.progress name (part name reached)
  entry := walks.entry.part part
  entry' := walks.entry'.part part
  agree := walks.agree

theorem Alongside.onward {fewer : List Selection}
    (walks : Alongside m document inside first second known others selections)
    (alike : KnownAlike m document inside after after')
    (kept : ∀ outer ∈ first, after.lookup outer = known.lookup outer)
    (kept' : ∀ outer ∈ second, after'.lookup outer = others.lookup outer)
    (part : ∀ name, document.Reaches fewer name → document.Reaches selections name) :
    Alongside m document inside first second after after' fewer :=
  { walks.part part with
    entry := walks.entry.onward alike.settled kept part
    entry' := walks.entry'.onward alike.settled' kept' part
    agree := alike.agree }

theorem Alongside.past {inner rest : List Selection}
    (walks : Alongside m document inside first second known others selections)
    (alike : KnownAlike m document inside (traverse m document first known m.empty inner).2
      (traverse m document second others m.empty inner).2)
    (part : ∀ name, document.Reaches rest name → document.Reaches selections name) :
    Alongside m document inside first second (traverse m document first known m.empty inner).2
      (traverse m document second others m.empty inner).2 rest :=
  walks.onward alike (fun _ => lookup_traverse_inProgress _ _ _ _)
    (fun _ => lookup_traverse_inProgress _ _ _ _) part

structure Agreed (m : Measure V) (document : Document) (inside : String → Prop)
    (one other : V × Known V) : Prop where
  value : one.1 = other.1
  alike : KnownAlike m document inside one.2 other.2

/-- Both walks come past a spread with one total, and stand alongside before the rest. -/
def PassSpread (m : Measure V) (document : Document) (inside : String → Prop)
    (first second : List String) (known others : Known V) (total : V) (spread : FragmentSpread)
    (rest : List Selection) : Prop :=
  ∃ after after' next,
    traverse m document first known total (.fragmentSpread spread :: rest) =
        traverse m document first after next rest ∧
      traverse m document second others total (.fragmentSpread spread :: rest) =
        traverse m document second after' next rest ∧
      Alongside m document inside first second after after' rest

section

variable (walks : Alongside m document inside first second known others
  (.fragmentSpread spread :: rest))

include walks

theorem passSpread_cyclic (cyclic : spread.name ∈ first) :
    PassSpread m document inside first second known others total spread rest := by
  have cyclic' := (walks.progress spread.name Document.reaches_spread).1 cyclic
  exact ⟨known, others, _, traverse_cyclic (walks.entry.unknown _ cyclic) cyclic,
    traverse_cyclic (walks.entry'.unknown _ cyclic') cyclic',
    walks.part fun _ reached => reached.later⟩

theorem passSpread_steady (fresh : spread.name ∉ first) (steady : document.Steady spread.name)
    (body : ∀ definition, document.fragment? spread.name = some definition →
      ∀ {second known others}, Alongside m document document.Steady (spread.name :: first) second
        known others definition.selectionSet →
      Agreed m document document.Steady
        (traverse m document (spread.name :: first) known m.empty definition.selectionSet)
        (traverse m document second others m.empty definition.selectionSet)) :
    PassSpread m document inside first second known others total spread rest := by
  have fresh' : spread.name ∉ second := fun member =>
    fresh ((walks.progress spread.name Document.reaches_spread).2 member)
  -- Each definition is compared with one folded by a walk that knows nothing inside the fragments in
  -- progress of the first walk: the hypothesis on definitions speaks of those only.
  have scratch : Entry m document first [] (.fragmentSpread spread :: rest) :=
    ⟨walks.entry.within, fun _ _ => rfl, .nil⟩
  have compare : ∀ (inProgress : List String) (known : Known V),
      Entry m document inProgress known (.fragmentSpread spread :: rest) → ∀ definition,
      document.fragment? spread.name = some definition → known.lookup spread.name = none →
      Agreed m document document.Steady
        (traverse m document (spread.name :: first) [] m.empty definition.selectionSet)
        (traverse m document (spread.name :: inProgress) known m.empty
          definition.selectionSet) := by
    intro inProgress known entered definition found look
    refine body definition found ⟨fun name reached => ?_, fun name reached => ?_,
      scratch.body rfl found, entered.body look found, fun name settles unsteady => ?_⟩
    · exact steady.inside (reached.inside found).to_reflTransGen
    · exact (scratch.mem_progress steady found reached).trans
        (entered.mem_progress steady found reached).symm
    · exact absurd settles unsteady
  have alone : ∀ (inProgress : List String) (known : Known V),
      Entry m document inProgress known (.fragmentSpread spread :: rest) → ∀ definition,
      document.fragment? spread.name = some definition → known.lookup spread.name = none →
      (traverse m document (spread.name :: inProgress) known m.empty definition.selectionSet).1 =
          (traverse m document [spread.name] [] m.empty definition.selectionSet).1 ∧
        m.Settled document (traverse m document (spread.name :: inProgress) known m.empty
          definition.selectionSet).2 := by
    intro inProgress known entered definition found look
    have own := compare [] [] (.start .nil) definition found rfl
    have here := compare inProgress known entered definition found look
    exact ⟨here.value.symm.trans own.value, here.alike.settled'⟩
  obtain ⟨after, passed, settled, kept, same⟩ :=
    traverse_steadySpread walks.entry fresh steady (alone first known walks.entry)
  obtain ⟨after', passed', settled', kept', same'⟩ :=
    traverse_steadySpread walks.entry' fresh' steady (alone second others walks.entry')
  have alike : KnownAlike m document inside after after' := by
    refine ⟨settled, settled', fun name member unsteady => ?_⟩
    rw [same name unsteady, same' name unsteady]
    exact walks.agree name member unsteady
  exact ⟨after, after', _, passed total, passed' total,
    walks.onward alike kept kept' fun _ reached => reached.later⟩

theorem passSpread_unsteady (fresh : spread.name ∉ first)
    (unsteady : ¬ document.Steady spread.name)
    (body : ∀ definition, document.fragment? spread.name = some definition →
      ∀ {second known others}, Alongside m document inside (spread.name :: first) second
        known others definition.selectionSet →
      Agreed m document inside
        (traverse m document (spread.name :: first) known m.empty definition.selectionSet)
        (traverse m document second others m.empty definition.selectionSet)) :
    PassSpread m document inside first second known others total spread rest := by
  have here : document.Reaches (.fragmentSpread spread :: rest) spread.name :=
    Document.reaches_spread
  have later : Alongside m document inside first second known others rest :=
    walks.part fun _ reached => reached.later
  have fresh' : spread.name ∉ second := fun member => fresh ((walks.progress _ here).2 member)
  have sameLook := walks.agree spread.name (walks.within _ here) unsteady
  cases look : known.lookup spread.name with
  | some value =>
    exact ⟨known, others, _, traverse_known look, traverse_known (sameLook.symm.trans look), later⟩
  | none =>
    have look' := sameLook.symm.trans look
    cases found : document.fragment? spread.name with
    | none =>
      exact ⟨known, others, _, traverse_missing look found, traverse_missing look' found, later⟩
    | some definition =>
      have inner : Agreed m document inside
          (traverse m document (spread.name :: first) known m.empty definition.selectionSet)
          (traverse m document (spread.name :: second) others m.empty
            definition.selectionSet) := by
        refine body definition found ⟨fun name reached => ?_, fun name reached => ?_,
          walks.entry.body look found, walks.entry'.body look' found, walks.agree⟩
        · exact walks.within name (reached.inSpread found)
        · simp only [List.mem_cons, walks.progress name (reached.inSpread found)]
      have passed' : traverse m document second others total (.fragmentSpread spread :: rest) = _ :=
        traverse_entered look' found fresh'
      rw [← inner.value] at passed'
      refine ⟨_, _, _, traverse_entered look found fresh, passed',
        walks.onward ⟨?_, ?_, ?_⟩ (kept_entered _ _ _ _ fresh) (kept_entered _ _ _ _ fresh')
          fun _ reached => reached.later⟩
      · exact inner.alike.settled.cons (absurd · unsteady)
      · exact inner.alike.settled'.cons (absurd · unsteady)
      · intro name member isUnsteady
        by_cases other : name = spread.name
        · rw [other, List.lookup_cons_self, List.lookup_cons_self]
        · rw [lookup_cons_of_ne other, lookup_cons_of_ne other]
          exact inner.alike.agree name member isUnsteady

end

theorem traverse_agree (first : List String) (selections : List Selection) :
    ∀ {inside : String → Prop} {second : List String} {known others : Known V},
    Alongside m document inside first second known others selections → ∀ total,
      Agreed m document inside (traverse m document first known total selections)
        (traverse m document second others total selections) := by
  induction first, selections using traversal_induction document with
  | nil first =>
    intro inside second known others walks total
    simp only [traverse]
    exact ⟨rfl, ⟨walks.entry.settled, walks.entry'.settled, walks.agree⟩⟩
  | field first field selectionSet rest ihInner ihRest =>
    intro inside second known others walks total
    have agreed := ihInner (walks.part fun _ reached => reached.inField) m.empty
    simp only [traverse, agreed.value]
    exact ihRest (walks.past agreed.alike fun _ reached => reached.later) _
  | inlineFragment first fragment selectionSet rest ihInner ihRest =>
    intro inside second known others walks total
    have agreed := ihInner (walks.part fun _ reached => reached.inInlineFragment) m.empty
    simp only [traverse, agreed.value]
    exact ihRest (walks.past agreed.alike fun _ reached => reached.later) _
  | spread first spread rest ihBody ihRest =>
    intro inside second known others walks total
    have passes : PassSpread m document inside first second known others total spread rest := by
      by_cases cyclic : spread.name ∈ first
      · exact passSpread_cyclic walks cyclic
      by_cases steady : document.Steady spread.name
      · exact passSpread_steady walks cyclic steady
          fun definition found _ _ _ walks => ihBody definition found cyclic walks m.empty
      · exact passSpread_unsteady walks cyclic steady
          fun definition found _ _ _ walks => ihBody definition found cyclic walks m.empty
    obtain ⟨after, after', next, passed, passed', walks⟩ := passes
    rw [passed, passed']
    exact ihRest walks next

end Walk

end QueryShield
