import QueryShield.Proofs.PlainScalars
import QueryShield.Proofs.ScanSteps

namespace QueryShield.Yaml

namespace Scan

variable {scan next : Scan} {c : Char} {rest : List Char}

/-- The scan behind a value. -/
def past (scan : Scan) (tokens : List Token) (width : Nat) : Scan :=
  { scan with
    cursor := scan.cursor.skip width
    tokens := tokens.reverse ++ scan.tokens
    count := scan.count + tokens.length
    keyStart := scan.marked
    mayBeKey := false }

/-- The scan behind a mark, with a value or a key to follow. -/
def into (scan : Scan) (tokens : List Token) (width : Nat) (mayBeKey : Bool) : Scan :=
  { scan with
    cursor := scan.cursor.skip width
    tokens := tokens.reverse ++ scan.tokens
    count := scan.count + tokens.length
    keyStart := none
    mayBeKey }

/-- The scan inside brackets. -/
def opened (scan : Scan) (collection : Collection) : Scan :=
  { scan.into [.openFlow collection] 1 true with
    outerKeyStarts := scan.marked :: scan.outerKeyStarts }

/-- The scan behind brackets that began at a place and stand within others. -/
def closed (scan : Scan) (keyStart : Option KeyStart) (outerKeyStarts : List (Option KeyStart))
    (tokens : List Token) (width : Nat) : Scan :=
  { scan.into tokens width false with keyStart, outerKeyStarts }

theorem Flat.marked (flat : scan.Flat) : scan.marked.any KeyStart.isRequired = false := by
  unfold Scan.marked
  split
  · rfl
  · exact flat.keyStart

theorem Flat.past (flat : scan.Flat) (tokens : List Token) (width : Nat) :
    (scan.past tokens width).Flat := ⟨flat.columns, flat.marked⟩

theorem Flat.into (flat : scan.Flat) (tokens : List Token) (width : Nat) (mayBeKey : Bool) :
    (scan.into tokens width mayBeKey).Flat := ⟨flat.columns, rfl⟩

theorem Flat.opened (flat : scan.Flat) (collection : Collection) :
    (scan.opened collection).Flat := ⟨flat.columns, rfl⟩

theorem takeToken_quote (starts : scan.cursor.rest = '\"' :: rest) :
    scan.takeToken = scan.takeQuoted '\"' := by
  simp [takeToken, starts, Cursor.atMark]

theorem takeToken_colon (starts : scan.cursor.rest = ':' :: rest) (bracketed : scan.inFlow = true) :
    scan.takeToken = scan.takeColon := by
  simp [takeToken, starts, Cursor.atMark, bracketed]

theorem takeToken_comma (starts : scan.cursor.rest = ',' :: rest) :
    scan.takeToken = scan.takeComma := by
  simp [takeToken, starts, Cursor.atMark]

def opening : Collection → Char
  | .sequence => '['
  | .mapping => '\x7b'

def closing : Collection → Char
  | .sequence => ']'
  | .mapping => '\x7d'

theorem takeToken_opening {collection : Collection}
    (starts : scan.cursor.rest = opening collection :: rest) :
    scan.takeToken = scan.takeOpening collection := by
  cases collection <;> simp [takeToken, starts, Cursor.atMark, opening]

theorem takeToken_closing {collection : Collection}
    (starts : scan.cursor.rest = closing collection :: rest) :
    scan.takeToken = scan.takeClosing collection := by
  cases collection <;> simp [takeToken, starts, Cursor.atMark, closing]

theorem takeToken_word (starts : scan.cursor.rest = c :: rest) (alphanum : c.isAlphanum) :
    scan.takeToken = scan.takePlain := by
  have foreign : ∀ d, d.isAlphanum = false → c ≠ d := by
    rintro d other rfl
    rw [alphanum] at other
    cases other
  have noMark : ("\t#%@`".contains c) = false := by
    simp [foreign '\t' rfl, foreign '#' rfl, foreign '%' rfl, foreign '@' rfl, foreign '`' rfl]
  have dash : (c == '-') = false := beq_eq_false_iff_ne.2 (foreign '-' rfl)
  have marks : scan.cursor.atMark '-' = false ∧ scan.cursor.atMark '.' = false := by
    simp [Cursor.atMark, starts, (foreign '-' rfl).symm, (foreign '.' rfl).symm]
  have percent : (c == '%') = false := beq_eq_false_iff_ne.2 (foreign '%' rfl)
  have question : (c == '?') = false := beq_eq_false_iff_ne.2 (foreign '?' rfl)
  have colon : (c == ':') = false := beq_eq_false_iff_ne.2 (foreign ':' rfl)
  unfold takeToken
  simp only [starts, marks, percent, dash, question, colon, Bool.false_and, Bool.false_eq_true,
    if_false]
  split
  case h_13 => simp only [noMark, Bool.false_eq_true, if_false]
  all_goals cases alphanum

section

variable {word : List Char}

theorem takeQuoted_eq (flat : scan.Flat) {s : String} (kept : isKeptText s)
    (starts : scan.cursor.rest = (Json.quoted s).toList ++ rest) :
    scan.takeQuoted '\"' =
      some (scan.past [.scalar .quoted s] (Json.quoted s).toList.length) := by
  rw [takeQuoted, flat.markKeyStart]
  simp only [Option.bind_eq_bind, Option.bind_some, readQuoted_quoted kept starts]
  rfl

theorem takePlain_eq (flat : scan.Flat) (nonempty : word ≠ [])
    (alphanum : ∀ c ∈ word, c.isAlphanum) (ends : EndsWord scan.inFlow rest) (starts : scan.cursor.rest = word ++ rest) :
    scan.takePlain = some (scan.past [.scalar .plain (String.ofList word)] word.length) := by
  have reads : readPlain ({ scan with keyStart := scan.marked } : Scan).inFlow 0 scan.cursor = _ :=
    readPlain_word nonempty alphanum ends starts
  have indentation : (scan.columns.head?.map (· + 1)).getD 0 = 0 := by simp [flat.columns]
  rw [takePlain, flat.markKeyStart]
  simp only [Option.bind_eq_bind, Option.bind_some, indentation, reads]
  rfl

theorem takeOpening_eq (flat : scan.Flat) (collection : Collection) :
    scan.takeOpening collection = some (scan.opened collection) := by
  rw [takeOpening, flat.markKeyStart]
  rfl

theorem takeClosing_eq (flat : scan.Flat) {keyStart : Option KeyStart}
    {outerKeyStarts : List (Option KeyStart)}
    (inside : scan.outerKeyStarts = keyStart :: outerKeyStarts) (collection : Collection) :
    scan.takeClosing collection =
      some (scan.closed keyStart outerKeyStarts [.closeFlow collection] 1) := by
  rw [takeClosing, flat.dropKeyStart, Option.bind_some]
  simp only [inside]
  rfl

theorem takeComma_eq (flat : scan.Flat) : scan.takeComma = some (scan.into [.comma] 1 true) := by
  rw [takeComma, flat.dropKeyStart]
  rfl

theorem takeColon_eq {s : String} (inFlow : scan.inFlow = true) (mayBeKey : scan.mayBeKey = true)
    (short : (Json.quoted s).toList.length ≤ keyLimit) :
    (scan.past [.scalar .quoted s] (Json.quoted s).toList.length).takeColon =
      some (scan.into [.key, .scalar .quoted s, .colon]
        ((Json.quoted s).toList.length + 1) false) := by
  have reached : (scan.past [.scalar .quoted s] (Json.quoted s).toList.length).keyStart.filter
        (·.reaches (scan.past [.scalar .quoted s] (Json.quoted s).toList.length).cursor) =
      some ⟨scan.cursor.line, scan.cursor.column, scan.count, false⟩ := by
    simp [past, marked, mayBeKey, KeyStart.reaches, Cursor.skip, Option.filter, short]
  have recent : (scan.past [.scalar .quoted s] (Json.quoted s).toList.length).count - scan.count =
      1 := Nat.add_sub_cancel_left _ _
  have bracketed : ((scan.past [.scalar .quoted s] (Json.quoted s).toList.length).insert 1
      .key).inFlow = true := inFlow
  -- The key was marked one token ago, so its mark goes before the scalar.
  rw [takeColon, reached]
  simp only [recent, Scan.indent, bracketed, Bool.not_true, Bool.false_and, Bool.false_eq_true,
    if_false]
  have cursors : (scan.cursor.skip (Json.quoted s).toList.length).skip 1 =
      scan.cursor.skip ((Json.quoted s).toList.length + 1) := by
    simp [Cursor.skip, Nat.add_assoc]
  simp [past, into, Scan.insert, takeMark, take, push, cursors]

theorem isVisible_alphanum (alphanum : c.isAlphanum) : isVisible c := by
  obtain ⟨-, shown, -, -, noComment, -⟩ := alphanum_onLine alphanum
  have noMark : c ≠ '\ufeff' := by
    rintro rfl
    cases alphanum
  simp_all [isVisible, blankNext, isSpace]

theorem Reaches.single (flat : scan.Flat) (starts : scan.cursor.rest = c :: rest)
    (visible : isVisible c) (takes : scan.takeToken = some next)
    (shorter : next.cursor.rest.length < scan.cursor.rest.length) : Reaches scan next :=
  .step flat starts visible takes shorter (.refl next)

theorem length_skip_lt {cursor : Cursor} {width : Nat} (positive : 0 < width)
    (starts : cursor.rest = c :: rest) : (cursor.skip width).rest.length < cursor.rest.length :=
  Cursor.length_skip positive (by simp [starts])

theorem Flat.reaches_quoted (flat : scan.Flat) {s : String} (kept : isKeptText s)
    (starts : scan.cursor.rest = (Json.quoted s).toList ++ rest) :
    Reaches scan (scan.past [.scalar .quoted s] (Json.quoted s).toList.length) := by
  have quote : scan.cursor.rest = '\"' :: ((Json.quoted s).toList.drop 1 ++ rest) := by
    rw [starts, Json.toList_quoted]
    rfl
  refine .single flat quote rfl ((takeToken_quote quote).trans (takeQuoted_eq flat kept starts))
    (length_skip_lt ?_ quote)
  simp [Json.toList_quoted]

theorem Flat.reaches_word (flat : scan.Flat) (nonempty : word ≠ [])
    (alphanum : ∀ c ∈ word, c.isAlphanum) (ends : EndsWord scan.inFlow rest)
    (starts : scan.cursor.rest = word ++ rest) :
    Reaches scan (scan.past [.scalar .plain (String.ofList word)] word.length) := by
  obtain ⟨c, tail, rfl⟩ := List.exists_cons_of_ne_nil nonempty
  have first := alphanum c (by simp)
  exact .single flat starts (isVisible_alphanum first)
    ((takeToken_word starts first).trans (takePlain_eq flat nonempty alphanum ends starts))
    (length_skip_lt (Nat.succ_pos _) starts)

theorem Flat.reaches_opening (flat : scan.Flat) (collection : Collection)
    (starts : scan.cursor.rest = opening collection :: rest) :
    Reaches scan (scan.opened collection) :=
  .single flat starts (by cases collection <;> rfl)
    ((takeToken_opening starts).trans (takeOpening_eq flat collection))
    (length_skip_lt Nat.one_pos starts)

theorem Flat.reaches_closing (flat : scan.Flat) {keyStart : Option KeyStart}
    {outerKeyStarts : List (Option KeyStart)}
    (inside : scan.outerKeyStarts = keyStart :: outerKeyStarts) (collection : Collection)
    (starts : scan.cursor.rest = closing collection :: rest) :
    Reaches scan (scan.closed keyStart outerKeyStarts [.closeFlow collection] 1) :=
  .single flat starts (by cases collection <;> rfl)
    ((takeToken_closing starts).trans (takeClosing_eq flat inside collection))
    (length_skip_lt Nat.one_pos starts)

theorem Flat.reaches_comma (flat : scan.Flat) (starts : scan.cursor.rest = ',' :: rest) :
    Reaches scan (scan.into [.comma] 1 true) :=
  .single flat starts rfl ((takeToken_comma starts).trans (takeComma_eq flat))
    (length_skip_lt Nat.one_pos starts)

theorem Flat.reaches_key (flat : scan.Flat) {s : String} (inFlow : scan.inFlow = true)
    (mayBeKey : scan.mayBeKey = true) (kept : isKeptText s)
    (short : (Json.quoted s).toList.length ≤ keyLimit)
    (starts : scan.cursor.rest = (Json.quoted s).toList ++ ':' :: rest) :
    Reaches scan (scan.into [.key, .scalar .quoted s, .colon] ((Json.quoted s).toList.length + 1)
      false) := by
  have colon : (scan.past [.scalar .quoted s] (Json.quoted s).toList.length).cursor.rest =
      ':' :: rest := by
    rw [Scan.past, Cursor.rest_skip, starts, List.drop_left]
  refine (flat.reaches_quoted kept starts).trans (.single (flat.past _ _) colon rfl
    ((takeToken_colon colon inFlow).trans (takeColon_eq inFlow mayBeKey short)) ?_)
  have left : (scan.cursor.skip ((Json.quoted s).toList.length + 1)).rest = rest := by
    rw [Cursor.rest_skip, starts, List.drop_append]
    simp
  simp [Scan.into, colon, left]

end

end Scan

end QueryShield.Yaml
