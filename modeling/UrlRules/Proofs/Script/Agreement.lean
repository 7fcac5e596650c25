import UrlRules.Proofs.Json.Documents
import UrlRules.Proofs.Script.Declaration
import UrlRules.Proofs.Script.NumberValues

/-!
# Scripts and JSON

A JSON document is a literal of a script. Declared under a name it has the value that it has as JSON, except that
escapes by number are characters one by one: the halves of a surrogate pair that are written so stay two characters,
where JSON joins them (`declaredLiteral_of_document`).
-/
namespace UrlRules.Script

open Text
open Json (Tree Piece Writes WritesItems WritesFields Document joined singly)

variable {body token g t rest digits fraction places exponent : Text} {pieces : List Piece} {c : Nat} {v : Json}
  {power : Int}

/-! ## Gaps and texts -/

theorem isBlank_of_isGap (gap : Json.isGap c = true) : isBlank c = true := by
  simp only [Json.isGap, Bool.or_eq_true, beq_iff_eq] at gap
  rcases gap with ((rfl | rfl) | rfl) | rfl <;> rfl

theorem gap_of_json (gap : Json.Gap g) : Gap g :=
  gap_of_blanks fun c member => isBlank_of_isGap (gap c member)

theorem spellsText_of_spelling (spelling : Json.Spelling body pieces) :
    SpellsText quotationMark body (singly pieces) := by
  induction spelling with
  | nil => exact .nil
  | @itself c body pieces printable apart others ih =>
    rw [List.mem_pair, not_or] at apart
    refine .raw apart (fun same => ?_) (fun same => absurd same (by decide)) ih
    subst same
    exact absurd printable (by decide)
  | @letter letter c body pieces listed others ih =>
    have each : ∀ p ∈ Json.letterEscapes, p ∈ shortEscapes ∨
        p.1 = p.2 ∧ p.1 ∉ shortEscapes.map Prod.fst ∧ p.1 ∉ [lineFeed, 0x78, 0x75] := by decide
    obtain short | ⟨same, unlisted, plain⟩ := each _ listed
    · exact .escaped (e := [letter]) (.short short) ih
    · obtain rfl : letter = c := same
      exact .escaped (e := [letter]) (.itself unlisted plain) ih
  | @number digits body c pieces hex size others ih =>
    exact .escaped (e := 0x75 :: digits) (.four hex size) ih

/-! ## Numbers -/

theorem digits_of_run (run : Json.Run digits) : Digits digitValue? 10 digits (Json.decimalValue digits) := by
  have each : ∀ c ∈ digits, digitValue? c = some (c - 0x30) := by
    intro c member
    have digit := run.2 c member
    simp only [isAsciiDigit, Bool.and_eq_true, decide_eq_true_eq] at digit
    have small : c < 0x80 := Nat.lt_of_le_of_lt digit.2 (by decide)
    rw [digitValue?, if_pos small, if_pos digit]
  refine ⟨run.1, digits.map (· - 0x30), ?_, rfl⟩
  rw [mapM_congr each]
  clear run each
  induction digits with
  | nil => rfl
  | cons c digits ih => rw [List.mapM_cons, ih]; rfl

theorem sign_minusSign (minus : Bool) : Sign (Json.minusSign minus) := by
  cases minus with
  | true => exact .minus
  | false => exact .none

theorem minusSign_eq_iff (minus : Bool) : Json.minusSign minus = [0x2D] ↔ minus = true := by
  cases minus <;> simp [Json.minusSign]

theorem signed_minusSign (minus : Bool) (n : Nat) : signed (Json.minusSign minus) n = Json.signed minus n := by
  cases minus <;> rfl

theorem mantissaValue_of_parts (whole : Json.Whole digits) (part : Json.Fraction fraction places) :
    MantissaValue (digits ++ fraction) (Json.decimalValue (digits ++ places)) places.length := by
  cases part with
  | none =>
    rw [List.append_nil]
    exact .whole (digits_of_run whole.isRun)
  | places run =>
    refine .pointed (digits_of_run ⟨?_, fun c member => ?_⟩)
    · simp [run.1]
    · exact (List.mem_append.mp member).elim (whole.isRun.2 c) (run.2 c)

theorem exponentValue_of_power (scale : Json.Power exponent power) : ExponentValue exponent power := by
  cases scale with
  | none => exact .none
  | plain isLetter run => exact .power isLetter .none (digits_of_run run)
  | plus isLetter run => exact .power isLetter .plus (digits_of_run run)
  | minus isLetter run => exact .power isLetter .minus (digits_of_run run)

theorem numberValue_of_json (number : Json.NumberText token v) : NumberValue token v := by
  cases number with
  | @integer minus digits whole short =>
    have integer := IntegerToken.decimal (sign_minusSign minus) (digits_of_run whole.isRun) short
    rw [signed_minusSign] at integer
    exact .integer integer
  | @decimal minus digits fraction places exponent power whole part scale marked =>
    have marked : 0x2E ∈ digits ++ fraction ∨ exponent ≠ [] := by
      refine marked.imp_left fun some => ?_
      cases part with
      | none => exact absurd rfl some
      | places => simp
    have decimal := NumberValue.decimal (sign_minusSign minus) (mantissaValue_of_parts whole part)
      (exponentValue_of_power scale) marked
    simpa [minusSign_eq_iff] using decimal

/-- A number has its value. -/
theorem numberOf_value (number : NumberValue token v) : numberOf token = .ok v := by
  cases number with
  | integer integer => exact numberOf_integer integer
  | @decimal sign mantissa exponent n places power mark value scale marked =>
    rw [numberOf_marked mark value.form scale.form marked, floatOf_value value scale value.form.each.2]

/-! ## Values -/

theorem takenScalar_of_number (number : NumberValue token v) : TakenScalar v token := by
  refine ⟨number.numberToken.opens, fun rest stops => ?_⟩
  rw [readScalar_number number.numberToken stops, numberOf_value number]
  rfl

theorem takenKey_of_spelling (spelling : Json.Spelling body pieces) :
    TakenKey (singly pieces) (0x22 :: (body ++ [0x22])) :=
  WrittenKey.taken (.text (by decide) (spellsText_of_spelling spelling))

mutual

/-- Whatever writes a tree as JSON is taken for its value. -/
theorem taken_of_writes : ∀ {tree : Tree} {t : Text}, Writes tree t → Taken (tree.value singly) t
  | _, _, .null => .scalar Scalar.null.taken
  | _, _, .true => .scalar Scalar.true.taken
  | _, _, .false => .scalar Scalar.false.taken
  | _, _, .number number => .scalar (takenScalar_of_number (numberValue_of_json number))
  | _, _, .text spelling => .scalar (Scalar.text (by decide) (spellsText_of_spelling spelling)).taken
  | _, _, .noItems gap => .list (.done (gap_of_json gap))
  | _, _, .list inside => .list (takenItems_of_writes inside)
  | _, _, .noFields gap => .object (.done (gap_of_json gap))
  | _, _, .object inside => .object (takenFields_of_writes inside)

theorem takenItems_of_writes :
    ∀ {items : List Tree} {t : Text}, WritesItems items t → TakenItems (Json.itemValues singly items) t
  | _, _, .last before value after => .last (gap_of_json before) (taken_of_writes value) (gap_of_json after)
  | _, _, .more before value after rest =>
    .more (gap_of_json before) (taken_of_writes value) (gap_of_json after) (takenItems_of_writes rest)

theorem takenFields_of_writes : ∀ {fields : List (List Piece × Tree)} {t : Text}, WritesFields fields t →
    TakenFields (Json.fieldValues singly fields) t
  | _, _, .last before key colon blank value after => by
    have field := TakenFields.last (gap_of_json before) (takenKey_of_spelling key) (gap_of_json colon)
      (gap_of_json blank) (taken_of_writes value) (gap_of_json after)
    simpa [Json.fieldValues] using field
  | _, _, .more before key colon blank value after rest => by
    have field := TakenFields.more (gap_of_json before) (takenKey_of_spelling key) (gap_of_json colon)
      (gap_of_json blank) (taken_of_writes value) (gap_of_json after) (takenFields_of_writes rest)
    simpa [Json.fieldValues] using field

end

/-! ## Declared documents -/

/-- A JSON document that is declared as it stands. -/
theorem declaredLiteral_const {name : Text} {tree : Tree} (named : name ≠ [])
    (visible : ∀ c ∈ name.head?, isBlank c = false) (document : Document tree t) :
    declaredLiteral (Text.of "const " ++ (name ++ (Text.of " = " ++ t))) name = .ok (tree.value singly) := by
  obtain ⟨g, w, g', before, writes, after, rfl⟩ := document
  have isDeclarator : Text.of "const" ∈ declarators := by decide
  have blanks : Blanks [0x20] := by decide
  have found : findDeclaration? name false (Text.of "const " ++ (name ++ (Text.of " = " ++ (g ++ (w ++ g'))))) =
      some ((0x20 :: g ++ (w ++ g')).dropWhile isBlank) :=
    findDeclaration?_declares isDeclarator (by decide) blanks blanks named visible
      (show endsInWord [] = false from rfl) fun position bound => absurd bound (by simp)
  have gap : Gap (0x20 :: g) := .blank (by decide) (gap_of_json before)
  have read : readInitializer ((0x20 :: g ++ (w ++ g')).dropWhile isBlank) = .ok (tree.value singly) :=
    readInitializer_taken gap (taken_of_writes writes) (.atEnd (gap_of_json after))
  unfold declaredLiteral
  rw [found]
  dsimp only
  rw [read]

/-- A JSON document is read as JSON and as the literal of a script. Both readings give the same value where no two
escapes after each other are the halves of a surrogate pair. Such halves are one character as JSON, and two in a
script. -/
theorem declaredLiteral_of_document {name t : Text} {tree : Tree} (named : name ≠ [])
    (visible : ∀ c ∈ name.head?, isBlank c = false) (document : Document tree t) :
    Json.read t = .ok (tree.value joined) ∧
      declaredLiteral (Text.of "const " ++ (name ++ (Text.of " = " ++ t))) name = .ok (tree.value singly) ∧
      (tree.Unpaired → tree.value joined = tree.value singly) :=
  ⟨Json.read_of_document document, declaredLiteral_const named visible document, Json.value_of_unpaired⟩

/-- A document with a pair, which gives two values, and one without, where a field is written twice. -/
theorem declaredLiteral_of_document_pair :
    (Json.read (Text.of "[\"\\ud83d\\ude00\", -1.5e+2]") =
        .ok (.list [.text [0x1F600], .float (Binary64.ofDecimal true 15 1)]) ∧
      declaredLiteral (Text.of "const a = [\"\\ud83d\\ude00\", -1.5e+2]") (Text.of "a") =
        .ok (.list [.text [0xD83D, 0xDE00], .float (Binary64.ofDecimal true 15 1)])) ∧
    ∃ v, Json.read (Text.of "\x7b\"k\": 0, \"k\": \"\\u00E9\"\x7d") = .ok v ∧
      declaredLiteral (Text.of "const a = \x7b\"k\": 0, \"k\": \"\\u00E9\"\x7d") (Text.of "a") = .ok v := by
  have none : Json.Gap [] := nofun
  have space : Json.Gap [0x20] := fun c member => by
    rw [List.mem_singleton.mp member]
    rfl
  have high : Digits hexValue? 16 (Text.of "d83d") 0xD83D := ⟨by decide, [13, 8, 3, 13], by decide, by decide⟩
  have low : Digits hexValue? 16 (Text.of "de00") 0xDE00 := ⟨by decide, [13, 14, 0, 0], by decide, by decide⟩
  have face : Writes (.text [⟨0xD83D, true⟩, ⟨0xDE00, true⟩]) (Text.of "\"\\ud83d\\ude00\"") :=
    .text (.number high rfl (.number low rfl .nil))
  have one : Json.Run (Text.of "1") := ⟨by decide, by decide⟩
  have five : Json.Run (Text.of "5") := ⟨by decide, by decide⟩
  have two : Json.Run (Text.of "2") := ⟨by decide, by decide⟩
  have number : Json.NumberText (Text.of "-1.5e+2") (.float (Binary64.ofDecimal true 15 1)) :=
    @Json.NumberText.decimal true (Text.of "1") (Text.of ".5") (Text.of "5") (Text.of "e+2") 2
      (.run one (by decide)) (.places five) (.plus (by decide) two) (.inl (by decide))
  have pair : Document (.list [.text [⟨0xD83D, true⟩, ⟨0xDE00, true⟩], .number _])
      (Text.of "[\"\\ud83d\\ude00\", -1.5e+2]") :=
    ⟨[], _, [], none, .list (.more none face none (.last space (.number number) none)), none, rfl⟩
  have accent : Digits hexValue? 16 (Text.of "00E9") 0xE9 := ⟨by decide, [0, 0, 14, 9], by decide, by decide⟩
  have key : Json.Spelling (Text.of "k") [⟨0x6B, false⟩] := .itself (by decide) (by decide) .nil
  have zero : Json.NumberText (Text.of "0") (.int 0) :=
    @Json.NumberText.integer false (Text.of "0") .zero (by decide)
  have text : Writes (.text [⟨0xE9, true⟩]) (Text.of "\"\\u00E9\"") := .text (.number accent rfl .nil)
  have fields : Document (.object [([⟨0x6B, false⟩], .number (.int 0)), ([⟨0x6B, false⟩], .text [⟨0xE9, true⟩])])
      (Text.of "\x7b\"k\": 0, \"k\": \"\\u00E9\"\x7d") :=
    ⟨[], _, [], none, .object (.more none key none space (.number zero) none (.last space key none space text none)),
      none, rfl⟩
  have named : Text.of "a" ≠ [] := by decide
  have visible : ∀ c ∈ (Text.of "a").head?, isBlank c = false := by decide
  have first := declaredLiteral_of_document named visible pair
  have second := declaredLiteral_of_document named visible fields
  refine ⟨⟨first.1, first.2.1⟩, _, second.1, ?_⟩
  have unpaired (p : Piece) : Json.Unpaired [p] := .singleton p
  rw [second.2.2 ⟨unpaired _, trivial, unpaired _, unpaired _, trivial⟩]
  exact second.2.1

end UrlRules.Script
