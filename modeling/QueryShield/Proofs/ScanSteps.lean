import Mathlib.Tactic.Common
import QueryShield.Yaml.Indentation

namespace QueryShield.Yaml

namespace Scan

/-- No block is open, and no key that has to be one. -/
structure Flat (scan : Scan) : Prop where
  columns : scan.columns = []
  keyStart : scan.keyStart.any KeyStart.isRequired = false

/-- Where the next token may be a key. -/
def marked (scan : Scan) : Option KeyStart :=
  if scan.mayBeKey then some ⟨scan.cursor.line, scan.cursor.column, scan.count, false⟩
  else scan.keyStart

/-- A character that begins a token where a scan stands. -/
def isVisible (c : Char) : Bool :=
  !(isBreak c || c == ' ' || c == '\t' || c == '\ufeff' || c == '#')

/-- The scan after some tokens. -/
inductive Reaches : Scan → Scan → Prop where
  | refl (scan : Scan) : Reaches scan scan
  | step {scan next last : Scan} {c : Char} {rest : List Char} (flat : scan.Flat)
      (starts : scan.cursor.rest = c :: rest) (visible : isVisible c)
      (takes : scan.takeToken = some next)
      (shorter : next.cursor.rest.length < scan.cursor.rest.length) (reaches : Reaches next last) :
      Reaches scan last

variable {scan next last : Scan} {c : Char} {rest : List Char}

theorem Reaches.trans (first : Reaches scan next) (second : Reaches next last) :
    Reaches scan last := by
  induction first with
  | refl => exact second
  | step flat starts visible takes shorter _ ih =>
    exact .step flat starts visible takes shorter (ih second)

theorem skipBlanks_visible (starts : scan.cursor.rest = c :: rest) (visible : isVisible c) :
    scan.cursor.skipBlanks scan.inFlow scan.mayBeKey = (scan.mayBeKey, scan.cursor) := by
  simp only [isVisible, Bool.not_eq_true', Bool.or_eq_false_iff, beq_eq_false_iff_ne] at visible
  obtain ⟨⟨⟨⟨noBreak, noSpace⟩, noTab⟩, noMark⟩, noComment⟩ := visible
  rw [Cursor.skipBlanks]
  split
  · rfl
  · simp_all

theorem Flat.unindent (flat : scan.Flat) (column : Option Nat) : scan.unindent column = scan := by
  have columns := flat.columns
  obtain ⟨cursor, tokens, count, _, keyStart, outer, mayBeKey⟩ := scan
  subst columns
  unfold Scan.unindent
  split <;> rfl

theorem Flat.dropKeyStart (flat : scan.Flat) :
    scan.dropKeyStart = some { scan with keyStart := none } :=
  if_neg (by simp [flat.keyStart])

theorem Flat.endDocument (flat : scan.Flat) :
    scan.endDocument = some { scan with keyStart := none } := by
  rw [Scan.endDocument, flat.unindent, flat.dropKeyStart]

theorem Flat.markKeyStart (flat : scan.Flat) :
    scan.markKeyStart = some { scan with keyStart := scan.marked } := by
  have columns := flat.columns
  have dropped := flat.dropKeyStart
  obtain ⟨cursor, tokens, count, _, keyStart, outer, mayBeKey⟩ := scan
  subst columns
  cases mayBeKey with
  | false => rfl
  | true => simp [Scan.markKeyStart, marked, dropped]

theorem run_ended (flat : scan.Flat) (ended : scan.cursor.rest = []) (fuel : Nat) :
    run (fuel + 1) scan = some { scan with keyStart := none } := by
  have blanks : scan.cursor.skipBlanks scan.inFlow scan.mayBeKey =
      (scan.mayBeKey, scan.cursor) := by
    rw [Cursor.skipBlanks]
    split
    · rfl
    · simp_all
  rw [run, blanks]
  simp only [ended]
  exact flat.endDocument

theorem run_token (flat : scan.Flat) (starts : scan.cursor.rest = c :: rest)
    (visible : isVisible c) (takes : scan.takeToken = some next) (fuel : Nat) :
    run (fuel + 1) scan = run fuel next := by
  rw [run, skipBlanks_visible starts visible]
  simp only [starts, List.isEmpty_cons, Bool.false_eq_true, if_false]
  rw [flat.unindent, takes, Option.bind_some]

theorem Reaches.run_eq (reaches : Reaches scan last) (flat : last.Flat)
    (ended : last.cursor.rest = []) {fuel : Nat} (enough : scan.cursor.rest.length < fuel) :
    run fuel scan = some { last with keyStart := none } := by
  induction reaches generalizing fuel with
  | refl =>
    obtain _ | fuel := fuel
    · cases enough
    · exact run_ended flat ended fuel
  | step here starts visible takes shorter _ ih =>
    obtain _ | fuel := fuel
    · cases enough
    · rw [run_token here starts visible takes]
      exact ih flat ended (by omega)

end Scan

end QueryShield.Yaml
