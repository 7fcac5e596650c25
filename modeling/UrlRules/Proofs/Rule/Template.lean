import UrlRules.Proofs.Results
import UrlRules.Proofs.Text.Digits
import UrlRules.Rule.Template

/-!
# Templates segment by segment

A template is put together from texts without dollar signs and from references (`Segment`). Unless the digits of a
reference go on in what follows it (`Formed`), reading the template finds exactly these again (`pieces_template`).
So it is expanded to what they stand for, one after the other, and what a group has captured is no template
(`expandMatch_template`).
-/
namespace UrlRules.Template

open Text

variable {groups : Nat} {group? : Nat → Option Text} {digits s rest : Text} {braces : Bool} {piece : Piece}

/-- A part of a template as it is written: a text, or a reference in one of its two forms. -/
inductive Segment where
  | literal (s : Text)
  | reference (digits : Text) (braces : Bool)
  deriving DecidableEq, Repr

def Segment.written : Segment → Text
  | .literal s => s
  | .reference digits false => dollarSign :: digits
  | .reference digits true => dollarSign :: openBrace :: (digits ++ [closeBrace])

/-- The template of some segments. -/
def template (segments : List Segment) : Text := segments.flatMap Segment.written

/-- The digits of a reference, in any script: some, and not more than are converted. -/
structure IsNumeral (digits : Text) : Prop where
  some : digits ≠ []
  each : ∀ c ∈ digits, isDigit c = true
  short : digits.length ≤ maxDigits

/-- No text has a dollar sign in it, and no digit follows a reference without braces. An empty text between them
does not keep them apart. -/
inductive Formed : List Segment → Prop
  | nil : Formed []
  | literal {s : Text} {others : List Segment} (plain : dollarSign ∉ s) (rest : Formed others) :
      Formed (.literal s :: others)
  | reference {digits : Text} {braces : Bool} {others : List Segment} (numeral : IsNumeral digits)
      (ends : braces = false → ∀ c ∈ (template others).head?, isDigit c = false) (rest : Formed others) :
      Formed (.reference digits braces :: others)

/-- What a reference stands for: the decoded text of its group, which is empty if the group did not take part. A
reference to a group that there is not stands for itself. -/
def referred (groups : Nat) (group? : Nat → Option Text) (digits own : Text) : Text :=
  if 1 ≤ number digits ∧ number digits ≤ groups then ((group? (number digits)).map Percent.decode).getD []
  else own

/-- The text that a segment is expanded to. -/
def Segment.value (groups : Nat) (group? : Nat → Option Text) : Segment → Text
  | .literal s => s
  | .reference digits braces => referred groups group? digits (Segment.reference digits braces).written

/-! ## Reading -/

theorem pieces_literal (plain : dollarSign ∉ s) (rest : Text) :
    pieces (s ++ rest) = s.map Piece.literal ++ pieces rest := by
  induction s with
  | nil => rfl
  | cons c s ih =>
    obtain ⟨other, plain⟩ := List.ne_and_not_mem_of_not_mem_cons plain
    rw [List.cons_append, pieces, if_neg (Ne.symm other), ih plain]
    rfl

theorem pieces_reference (found : reference? s = some (piece, rest)) :
    pieces (dollarSign :: s) = piece :: pieces rest := by
  rw [pieces, if_pos rfl]
  split
  next own after same =>
    obtain ⟨rfl, rfl⟩ : own = piece ∧ after = rest := by simpa [found] using same.symm
    rfl
  next none => rw [found] at none; cases none

/-- The digits of a reference without braces reach up to the first character that is none. -/
theorem reference?_plain (numeral : IsNumeral digits) (ends : ∀ c ∈ rest.head?, isDigit c = false) :
    reference? (digits ++ rest) = some (.reference digits false, rest) := by
  have run : (digits ++ rest).takeWhile isDigit = digits := takeWhile_append_of_stop numeral.each ends
  simp [reference?, run, numeral.some]

theorem reference?_braced (numeral : IsNumeral digits) (rest : Text) :
    reference? (openBrace :: (digits ++ closeBrace :: rest)) = some (.reference digits true, rest) := by
  have brace : isDigit openBrace = false := by decide
  have run : (digits ++ closeBrace :: rest).takeWhile isDigit = digits :=
    takeWhile_append_of_stop numeral.each fun c closing => by
      obtain rfl : closeBrace = c := by simpa using closing
      decide
  simp [reference?, run, brace, numeral.some, ← List.drop_drop]

/-- A reference is read up to its end. -/
theorem pieces_written (numeral : IsNumeral digits)
    (ends : braces = false → ∀ c ∈ rest.head?, isDigit c = false) :
    pieces ((Segment.reference digits braces).written ++ rest) = .reference digits braces :: pieces rest := by
  cases braces with
  | false => exact pieces_reference (reference?_plain numeral (ends rfl))
  | true =>
    have braced := pieces_reference (reference?_braced numeral rest)
    simpa [Segment.written] using braced

/-- What a segment is read as. -/
def Segment.pieces : Segment → List Piece
  | .literal s => s.map Piece.literal
  | .reference digits braces => [.reference digits braces]

/-- Reading a template finds its segments again. -/
theorem pieces_template {segments : List Segment} (formed : Formed segments) :
    pieces (template segments) = segments.flatMap Segment.pieces := by
  induction formed with
  | nil => rw [template, List.flatMap_nil, Template.pieces, List.flatMap_nil]
  | literal plain _ ih =>
    rw [template, List.flatMap_cons, List.flatMap_cons, ← ih]
    exact pieces_literal plain _
  | reference numeral ends _ ih =>
    rw [template, List.flatMap_cons, List.flatMap_cons, ← ih]
    exact pieces_written numeral ends

/-! ## Expanding -/

/-- The text that a piece stands for, where its digits are not too many. -/
def Piece.value (groups : Nat) (group? : Nat → Option Text) : Piece → Text
  | .literal c => [c]
  | .reference digits braces => referred groups group? digits (Piece.reference digits braces).written

theorem Piece.expand_eq (short : ∀ digits braces, piece = .reference digits braces → digits.length ≤ maxDigits) :
    piece.expand groups group? = .ok (piece.value groups group?) := by
  cases piece with
  | literal c => rfl
  | reference digits braces =>
    have few : ¬maxDigits < digits.length := Nat.not_lt.mpr (short digits braces rfl)
    simp only [Piece.expand, Piece.value, referred, if_neg few]
    by_cases known : 1 ≤ number digits ∧ number digits ≤ groups
    · rw [if_pos known, if_neg (by omega)]
      cases group? (number digits) <;> rfl
    · rw [if_neg known, if_pos (by omega)]

/-- A template is expanded piece by piece. -/
theorem expand_of_pieces {t : Text}
    (short : ∀ digits braces, .reference digits braces ∈ pieces t → digits.length ≤ maxDigits) :
    expand t groups group? = .ok ((pieces t).flatMap (Piece.value groups group?)) := by
  have each : (pieces t).mapM (Piece.expand groups group?) = .ok ((pieces t).map (Piece.value groups group?)) := by
    refine mapM_eq_ok.mpr (List.forall₂_map_right_iff.mpr (List.forall₂_same.mpr fun piece inside => ?_))
    exact Piece.expand_eq fun digits braces same => short digits braces (same ▸ inside)
  rw [expand, each]
  rfl

theorem Segment.written_reference (digits : Text) (braces : Bool) :
    (Segment.reference digits braces).written = (Piece.reference digits braces).written := by
  cases braces <;> rfl

/-- A template that is a single reference. -/
theorem expand_written (numeral : IsNumeral digits) (braces : Bool) :
    expand (Segment.reference digits braces).written groups group? =
      .ok (referred groups group? digits (Segment.reference digits braces).written) := by
  have read : pieces (Segment.reference digits braces).written = [.reference digits braces] := by
    have whole : pieces ((Segment.reference digits braces).written ++ []) = .reference digits braces :: pieces [] :=
      pieces_written numeral fun _ => by simp
    rwa [List.append_nil, pieces] at whole
  rw [expand_of_pieces, read, List.flatMap_singleton, Piece.value, Segment.written_reference]
  intro own form inside
  rw [read] at inside
  cases List.mem_singleton.mp inside
  exact numeral.short

/-- The digits of a reference in a template are few, since they are in its segments. -/
theorem short_of_mem_pieces {segments : List Segment} (formed : Formed segments)
    (inside : .reference digits braces ∈ segments.flatMap Segment.pieces) : digits.length ≤ maxDigits := by
  induction formed with
  | nil => cases inside
  | literal _ _ ih =>
    rw [List.flatMap_cons, List.mem_append] at inside
    rcases inside with own | later
    · obtain ⟨c, _, same⟩ := List.mem_map.mp own
      cases same
    · exact ih later
  | reference numeral _ _ ih =>
    rw [List.flatMap_cons, List.mem_append] at inside
    rcases inside with own | later
    · cases List.mem_singleton.mp own
      exact numeral.short
    · exact ih later

/-- The pieces of a segment stand for what the segment stands for. -/
theorem Segment.value_eq (segment : Segment) :
    segment.pieces.flatMap (Piece.value groups group?) = segment.value groups group? := by
  cases segment with
  | literal s => simp [Segment.pieces, Segment.value, Piece.value, List.flatMap_map]
  | reference digits braces =>
    rw [Segment.pieces, List.flatMap_singleton, Piece.value, Segment.value, Segment.written_reference]

/-- A template is expanded to what its segments stand for, one after the other: a text to itself, a reference to
the decoded text of its group, to nothing if the group did not take part, and to itself if the pattern has no such
group. What is inserted is not looked at again. -/
theorem expandMatch_template (p : Pattern) (m : Pattern.Match) (segments : List Segment) (formed : Formed segments) :
    expandMatch (template segments) p m = .ok (segments.flatMap (Segment.value p.groups m.group?)) := by
  have read := pieces_template formed
  rw [expandMatch, expand_of_pieces fun digits braces inside => short_of_mem_pieces formed (read ▸ inside), read,
    List.flatMap_assoc]
  exact congrArg _ (List.flatMap_congr fun segment _ => segment.value_eq)

/-- The pattern `(.*)(x)?`. In a line its first group takes everything, and its second one does not take part. -/
def linePattern : Pattern where
  root := .seq (.group (some 1) {} {} (.loop .greedy 0 none .any))
    (.loop .greedy 0 (some 1) (.group (some 2) {} {} (.char 0x78)))
  flags := {}
  groups := 2
  widths := [⟨0, Pattern.Width.unbounded⟩, ⟨1, 1⟩]

/-- Its match in a line. -/
def lineMatch (line : Text) : Pattern.Match :=
  ⟨line, 0, line.length, [⟨1, false, 0⟩, ⟨1, true, line.length⟩]⟩

/-- Where `$2` has been captured and is inserted, it is not expanded again. -/
theorem expandMatch_template_captured :
    let segments : List Segment :=
      [.literal (Text.of "a"), .reference (Text.of "1") false, .reference (Text.of "2") false,
        .reference (Text.of "01") true, .reference (Text.of "0") false, .literal (Text.of "b")]
    Pattern.read (Text.of "(.*)(x)?") = .ok linePattern ∧
      linePattern.search (Text.of "$2") = some (lineMatch (Text.of "$2")) ∧
      template segments = Text.of "a$1$2$\x7b01\x7d$0b" ∧ Formed segments ∧
      expandMatch (template segments) linePattern (lineMatch (Text.of "$2")) = .ok (Text.of "a$2$2$0b") := by
  intro segments
  have one : IsNumeral (Text.of "1") := ⟨by decide, by decide, by decide⟩
  have two : IsNumeral (Text.of "2") := ⟨by decide, by decide, by decide⟩
  have padded : IsNumeral (Text.of "01") := ⟨by decide, by decide, by decide⟩
  have zero : IsNumeral (Text.of "0") := ⟨by decide, by decide, by decide⟩
  have formed : Formed segments :=
    .literal (by decide) (.reference one (fun _ => by decide) (.reference two (fun _ => by decide)
      (.reference padded (fun braces => nomatch braces) (.reference zero (fun _ => by decide)
        (.literal (by decide) .nil)))))
  have values : segments.flatMap (Segment.value 2 (lineMatch (Text.of "$2")).group?) = Text.of "a$2$2$0b" := by
    decide +kernel
  refine ⟨rfl, by decide +kernel, by decide, formed, ?_⟩
  exact (expandMatch_template linePattern _ segments formed).trans (congrArg Except.ok values)

end UrlRules.Template
