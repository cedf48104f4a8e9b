import QueryShield.Proofs.FlowTexts
import QueryShield.Proofs.FlowTokens

namespace QueryShield.Yaml

open Json (writeItems writeMembers)

namespace Scan

variable {scan : Scan} {rest : List Char} {keyStart : Option KeyStart}
  {outerKeyStarts : List (Option KeyStart)}

theorem closed_past (tokens more : List Token) (width wider : Nat) :
    (scan.past tokens width).closed keyStart outerKeyStarts more wider =
      scan.closed keyStart outerKeyStarts (tokens ++ more) (width + wider) := by
  simp [closed, into, past, Cursor.skip, Nat.add_assoc, Nat.add_comm, Nat.add_left_comm]

theorem closed_into (tokens more : List Token) (width wider : Nat) (mayBeKey : Bool) :
    (scan.into tokens width mayBeKey).closed keyStart outerKeyStarts more wider =
      scan.closed keyStart outerKeyStarts (tokens ++ more) (width + wider) := by
  simp [closed, into, Cursor.skip, Nat.add_assoc, Nat.add_comm, Nat.add_left_comm]

theorem closed_opened (collection : Collection) (tokens : List Token) (width : Nat) :
    (scan.opened collection).closed scan.marked scan.outerKeyStarts tokens width =
      scan.past (.openFlow collection :: tokens) (width + 1) := by
  simp [closed, opened, into, past, Cursor.skip, Nat.add_comm, Nat.add_left_comm]

theorem rest_skip_length {cursor : Cursor} (text : List Char)
    (starts : cursor.rest = text ++ rest) : (cursor.skip text.length).rest = rest := by
  rw [Cursor.rest_skip, starts, List.drop_left]

theorem inFlow_of_outer (inside : scan.outerKeyStarts = keyStart :: outerKeyStarts) :
    scan.inFlow = true := by simp [inFlow, inside]

theorem Flat.reaches_scalar (flat : scan.Flat) {json : Json} (nonempty : json.compact.toList ≠ [])
    (alphanum : ∀ c ∈ json.compact.toList, c.isAlphanum) (ends : EndsWord scan.inFlow rest)
    (starts : scan.cursor.rest = json.compact.toList ++ rest) :
    Reaches scan (scan.past [.scalar .plain json.compact] json.compact.toList.length) := by
  have reaches := flat.reaches_word nonempty alphanum ends starts
  rwa [String.ofList_toList] at reaches

/-- Past the comma before an item or a member that is not the first. -/
theorem Flat.passes_separator (flat : scan.Flat) {first : Bool} {text : List Char}
    (inside : scan.outerKeyStarts = keyStart :: outerKeyStarts)
    (mayBeKey : first = true → scan.mayBeKey = true)
    (starts : scan.cursor.rest = separator first ++ text) {tokens : List Token} {width : Nat}
    (onward : ∀ next : Scan, next.Flat → next.outerKeyStarts = keyStart :: outerKeyStarts →
      next.mayBeKey = true → next.cursor.rest = text →
      Reaches next (next.closed keyStart outerKeyStarts tokens width)) :
    Reaches scan (scan.closed keyStart outerKeyStarts
      (separatorTokens first ++ tokens) ((separator first).length + width)) := by
  cases first with
  | true => simpa [separator, separatorTokens] using onward scan flat inside (mayBeKey rfl) starts
  | false =>
    have passed := onward (scan.into [.comma] 1 true) (flat.into _ _ _) inside rfl
      (rest_skip_length [','] starts)
    rw [closed_into] at passed
    exact (flat.reaches_comma starts).trans passed

mutual

theorem reaches_value {rest : List Char} : ∀ (json : Json) {scan : Scan}, FitsFlow json →
    scan.Flat → EndsWord scan.inFlow rest → scan.cursor.rest = json.compact.toList ++ rest →
    Reaches scan (scan.past (flowTokens json) json.compact.toList.length)
  | .null, _, _, flat, ends, starts =>
    flat.reaches_scalar (by decide) (List.all_eq_true.1 rfl) ends starts
  | .boolean true, _, _, flat, ends, starts =>
    flat.reaches_scalar (by decide) (List.all_eq_true.1 rfl) ends starts
  | .boolean false, _, _, flat, ends, starts =>
    flat.reaches_scalar (by decide) (List.all_eq_true.1 rfl) ends starts
  | .number _, _, ⟨n, rfl⟩, flat, ends, starts =>
    flat.reaches_scalar (natural_ne_nil n) (alphanum_natural n) ends starts
  | .string s, _, kept, flat, ends, starts => flat.reaches_quoted kept starts
  | .array items, scan, fit, flat, _, starts => by
    rw [FitsFlow] at fit
    rw [toList_array] at starts ⊢
    have opens : scan.cursor.rest = opening .sequence ::
        ((writeItems "" true items).toList ++ ']' :: rest) := by
      simpa [opening] using starts
    have inside := reaches_items true items fit (flat.opened .sequence) rfl
      (fun _ => rfl) (rest_skip_length [opening .sequence] opens)
    rw [closed_opened] at inside
    simpa [flowTokens] using (flat.reaches_opening .sequence opens).trans inside
  | .object members, scan, fit, flat, _, starts => by
    rw [FitsFlow] at fit
    rw [toList_object] at starts ⊢
    have opens : scan.cursor.rest = opening .mapping ::
        ((writeMembers "" true members).toList ++ '\x7d' :: rest) := by
      simpa [opening] using starts
    have inside := reaches_members true members fit (flat.opened .mapping) rfl
      (fun _ => rfl) (rest_skip_length [opening .mapping] opens)
    rw [closed_opened] at inside
    simpa [flowTokens] using (flat.reaches_opening .mapping opens).trans inside

theorem reaches_items {rest : List Char} {keyStart : Option KeyStart}
    {outerKeyStarts : List (Option KeyStart)} (first : Bool) : ∀ (items : List Json) {scan : Scan},
    ItemsFitFlow items → scan.Flat → scan.outerKeyStarts = keyStart :: outerKeyStarts →
    (first = true → scan.mayBeKey = true) →
    scan.cursor.rest = (writeItems "" first items).toList ++ ']' :: rest →
    Reaches scan (scan.closed keyStart outerKeyStarts
      (itemTokens first items ++ [.closeFlow .sequence])
      ((writeItems "" first items).toList.length + 1))
  | [], scan, _, flat, inside, _, starts => by
    have closes := flat.reaches_closing inside .sequence starts
    simpa [itemTokens, writeItems] using closes
  | item :: items, scan, ⟨fits, fit⟩, flat, inside, mayBeKey, starts => by
    rw [toList_item] at starts ⊢
    rw [List.append_assoc, List.append_assoc] at starts
    have onward : ∀ next : Scan, next.Flat → next.outerKeyStarts = keyStart :: outerKeyStarts →
        next.mayBeKey = true →
        next.cursor.rest =
          item.compact.toList ++ ((writeItems "" false items).toList ++ ']' :: rest) →
        Reaches next (next.closed keyStart outerKeyStarts
          (flowTokens item ++ (itemTokens false items ++ [.closeFlow .sequence]))
          (item.compact.toList.length + ((writeItems "" false items).toList.length + 1))) := by
      intro next flat inside _ starts
      have ends : EndsWord next.inFlow _ := inFlow_of_outer inside ▸ endsWord_items items rest
      have others := reaches_items false items fit
        (flat.past (flowTokens item) item.compact.toList.length) inside nofun
        (rest_skip_length _ starts)
      rw [closed_past] at others
      exact (reaches_value item fits flat ends starts).trans others
    simpa [itemTokens, Nat.add_assoc] using flat.passes_separator inside mayBeKey starts onward

theorem reaches_members {rest : List Char} {keyStart : Option KeyStart}
    {outerKeyStarts : List (Option KeyStart)} (first : Bool) :
    ∀ (members : List (String × Json)) {scan : Scan},
    MembersFitFlow members → scan.Flat → scan.outerKeyStarts = keyStart :: outerKeyStarts →
    (first = true → scan.mayBeKey = true) →
    scan.cursor.rest = (writeMembers "" first members).toList ++ '\x7d' :: rest →
    Reaches scan (scan.closed keyStart outerKeyStarts
      (memberTokens first members ++ [.closeFlow .mapping])
      ((writeMembers "" first members).toList.length + 1))
  | [], scan, _, flat, inside, _, starts => by
    have closes := flat.reaches_closing inside .mapping starts
    simpa [memberTokens, writeMembers] using closes
  | (name, value) :: members, scan, ⟨⟨kept, short⟩, fits, fit⟩, flat, inside, mayBeKey, starts => by
    rw [toList_member] at starts ⊢
    simp only [List.append_assoc, List.cons_append] at starts
    have onward : ∀ next : Scan, next.Flat → next.outerKeyStarts = keyStart :: outerKeyStarts →
        next.mayBeKey = true →
        next.cursor.rest = (Json.quoted name).toList ++ ':' :: (value.compact.toList ++
          ((writeMembers "" false members).toList ++ '\x7d' :: rest)) →
        Reaches next (next.closed keyStart outerKeyStarts
          ([.key, .scalar .quoted name, .colon] ++ (flowTokens value ++
            (memberTokens false members ++ [.closeFlow .mapping])))
          ((Json.quoted name).toList.length + 1 + (value.compact.toList.length +
            ((writeMembers "" false members).toList.length + 1)))) := by
      intro next flat inside mayBeKey starts
      have bracketed := inFlow_of_outer inside
      have ends : EndsWord next.inFlow _ := bracketed ▸ endsWord_members members rest
      have keyed := flat.reaches_key bracketed mayBeKey kept short starts
      have flatValue := flat.into [.key, .scalar .quoted name, .colon]
        ((Json.quoted name).toList.length + 1) false
      have atValue := rest_skip_length ((Json.quoted name).toList ++ [':'])
        (starts.trans (List.append_cons ..))
      rw [List.length_append] at atValue
      have valued := reaches_value value fits flatValue ends atValue
      have others := reaches_members false members fit
        (flatValue.past (flowTokens value) value.compact.toList.length) inside nofun
        (rest_skip_length _ atValue)
      rw [closed_past, closed_into] at others
      exact keyed.trans (valued.trans others)
    simpa [memberTokens, Nat.add_assoc, Nat.add_comm 1] using
      flat.passes_separator inside mayBeKey starts onward

end

end Scan

theorem tokens?_compact {json : Json} (fits : FitsFlow json) :
    tokens? json.compact = some (flowTokens json) := by
  have flat : Scan.Flat { cursor := { rest := json.compact.toList } } := ⟨rfl, rfl⟩
  have reaches := Scan.reaches_value json fits flat (.nil _) (List.append_nil _).symm
  have ended : (Cursor.skip { rest := json.compact.toList } json.compact.toList.length).rest = [] :=
    List.drop_length
  rw [tokens?, Cursor.ofText?_onLine (onLine_compact json fits)]
  simp only [Option.bind_eq_bind, Option.bind_some,
    reaches.run_eq (flat.past _ _) ended (Nat.lt_succ_self _)]
  simp [Scan.past]

end QueryShield.Yaml
