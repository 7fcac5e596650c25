import UrlRules.Proofs.Script.Literals

/-!
# The declared literal

A script declares a literal under a name if a declarator, the name, an equals sign and a way to write the
literal follow each other, and then the statement ends (`Declared`). The first declaration of a name
counts. Whatever its layout, the literal that is found there is the declared one
(`declaredLiteral_of_declared`). Two limits are left: a decimal integer has no more digits than can be read,
and after a line break no comment may be left open.
-/
namespace UrlRules.Script

open Text

variable {name s before after rest g g' t tail : Text} {l : Literal} {c : Nat}

/-! ## Finding the declaration -/

def Blanks (g : Text) : Prop := ∀ c ∈ g, isBlank c = true

instance (g : Text) : Decidable (Blanks g) := inferInstanceAs (Decidable (∀ c ∈ g, isBlank c = true))

theorem gap_of_blanks (blanks : Blanks g) : Gap g := by
  induction g with
  | nil => exact .nil
  | cons c g ih =>
    obtain ⟨blank, others⟩ := List.forall_mem_cons.mp blanks
    exact .blank blank (ih others)

/-- A declarator, a name and an equals sign, with blanks between them, stand before a text. -/
def Declares (name s after : Text) : Prop :=
  ∃ declarator ∈ declarators, ∃ g g', (g ≠ [] ∧ Blanks g) ∧ Blanks g' ∧
    s = declarator ++ (g ++ (name ++ (g' ++ 0x3D :: after)))

/-- A word character stands at the end. -/
def endsInWord (s : Text) : Bool := s.getLast?.any isWord

/-- A declaration of a name starts at a position of a text, where no word goes on. -/
def DeclaresAt (name text : Text) (position : Nat) : Prop :=
  endsInWord (text.take position) = false ∧ ∃ after, Declares name (text.drop position) after

theorem dropLead?_append (lead s : Text) : dropLead? lead (lead ++ s) = some s := by
  induction lead with
  | nil => rfl
  | cons c lead ih => simpa [dropLead?] using ih

theorem eq_append_of_dropLead? {lead : Text} (dropped : dropLead? lead s = some rest) :
    s = lead ++ rest := by
  induction lead generalizing s with
  | nil =>
    obtain rfl := Option.some.inj dropped
    rfl
  | cons c lead ih =>
    cases s with
    | nil => cases dropped
    | cons d s =>
      simp only [dropLead?] at dropped
      split at dropped
      next same => rw [same, ih dropped, List.cons_append]
      next => cases dropped

theorem takeWhile_blanks (s : Text) : Blanks (s.takeWhile isBlank) := fun _ member =>
  List.all_eq_true.mp List.all_takeWhile _ member

theorem afterName?_eq_some (found : afterName? name s = some rest) :
    ∃ g after, Blanks g ∧ s = name ++ (g ++ 0x3D :: after) ∧ rest = after.dropWhile isBlank := by
  simp only [afterName?, bind, Option.bind_eq_some_iff] at found
  obtain ⟨s', dropped, found⟩ := found
  split at found
  next after same =>
    refine ⟨s'.takeWhile isBlank, after, takeWhile_blanks s', ?_, (Option.some.inj found).symm⟩
    rw [← same, List.takeWhile_append_dropWhile]
    exact eq_append_of_dropLead? dropped
  next => cases found

theorem afterName?_append (blanks : Blanks g) (after : Text) :
    afterName? name (name ++ (g ++ 0x3D :: after)) = some (after.dropWhile isBlank) := by
  have visible : isBlank 0x3D = false := rfl
  simp [afterName?, dropLead?_append, List.dropWhile_append_of_pos blanks, visible]

theorem afterGap?_eq_some {gap : Nat} (bound : gap ≤ s.length) (blanks : Blanks (s.take gap))
    (found : afterGap? name s gap = some rest) :
    ∃ g g' after, (g ≠ [] ∧ Blanks g) ∧ Blanks g' ∧ s = g ++ (name ++ (g' ++ 0x3D :: after)) ∧
      rest = after.dropWhile isBlank := by
  induction gap with
  | zero => cases found
  | succ gap ih =>
    simp only [afterGap?] at found
    cases here : afterName? name (s.drop (gap + 1)) with
    | some rest' =>
      obtain ⟨g', after, blanks', same, left⟩ := afterName?_eq_some here
      rw [here] at found
      obtain rfl := Option.some.inj found
      refine ⟨s.take (gap + 1), g', after, ⟨?_, blanks⟩, blanks', ?_, left⟩
      · rw [← List.length_pos_iff, List.length_take]
        omega
      · rw [← same, List.take_append_drop]
    | none =>
      rw [here] at found
      refine ih (Nat.le_of_succ_le bound) (fun c member => blanks c ?_) found
      exact List.take_subset_take_left s (Nat.le_succ gap) member

/-- A declaration is only found where there is one, and what is left is what follows it without blanks. -/
theorem declaration?_eq_some (found : declaration? name s = some rest) :
    ∃ after, Declares name s after ∧ rest = after.dropWhile isBlank := by
  obtain ⟨declarator, isDeclarator, found⟩ := List.exists_of_findSome?_eq_some found
  simp only [bind, Option.bind_eq_some_iff] at found
  obtain ⟨s', dropped, found⟩ := found
  have lead : s'.takeWhile isBlank <+: s' := List.takeWhile_prefix isBlank
  have blanks : Blanks (s'.take (s'.takeWhile isBlank).length) := by
    rw [← List.prefix_iff_eq_take.mp lead]
    exact takeWhile_blanks s'
  obtain ⟨g, g', after, gap, blanks', same, left⟩ := afterGap?_eq_some lead.length_le blanks found
  refine ⟨after, ⟨declarator, isDeclarator, g, g', gap, blanks', ?_⟩, left⟩
  rw [eq_append_of_dropLead? dropped, same]

/-- The declarators start with different letters. -/
theorem dropLead?_declarator : ∀ d ∈ declarators, ∀ d' ∈ declarators, ∀ s,
    dropLead? d' (d ++ s) = if d' = d then some s else none := by
  intro d isDeclarator d' isDeclarator' s
  split
  next same =>
    subst same
    exact dropLead?_append d' s
  next other =>
    simp only [declarators, List.mem_cons, List.not_mem_nil, or_false] at isDeclarator isDeclarator'
    rcases isDeclarator with rfl | rfl | rfl <;> rcases isDeclarator' with rfl | rfl | rfl <;>
      first | exact absurd rfl other | rfl

theorem takeWhile_gap (blanks : Blanks g) (visible : ∀ c ∈ s.head?, isBlank c = false) :
    (g ++ s).takeWhile isBlank = g := takeWhile_append_of_stop blanks visible

theorem declaration?_declares {declarator : Text} (isDeclarator : declarator ∈ declarators)
    (some : g ≠ []) (blanks : Blanks g) (blanks' : Blanks g') (named : name ≠ [])
    (visible : ∀ c ∈ name.head?, isBlank c = false) (after : Text) :
    declaration? name (declarator ++ (g ++ (name ++ (g' ++ 0x3D :: after)))) =
      Option.some (after.dropWhile isBlank) := by
  have stop : ∀ c ∈ (name ++ (g' ++ 0x3D :: after)).head?, isBlank c = false := by
    cases name with
    | nil => exact absurd rfl named
    | cons c name => exact visible
  obtain ⟨gap, size⟩ : ∃ n, g.length = n + 1 :=
    Nat.exists_eq_succ_of_ne_zero fun zero => some (List.length_eq_zero_iff.mp zero)
  have found : afterGap? name (g ++ (name ++ (g' ++ 0x3D :: after))) (gap + 1) =
      Option.some (after.dropWhile isBlank) := by
    rw [afterGap?, ← size, List.drop_left, afterName?_append blanks']
    rfl
  have run := takeWhile_gap blanks stop
  have other {d : Text} (isDeclarator' : d ∈ declarators) (apart : d ≠ declarator) :
      dropLead? d (declarator ++ (g ++ (name ++ (g' ++ 0x3D :: after)))) = none := by
    rw [dropLead?_declarator _ isDeclarator _ isDeclarator', if_neg apart]
  unfold declaration?
  simp only [declarators, List.mem_cons, List.not_mem_nil, or_false] at isDeclarator
  rcases isDeclarator with rfl | rfl | rfl
  · simp [declarators, dropLead?_append, run, size, found]
  · simp [declarators, dropLead?_append, run, size, found, other (d := Text.of "const") (by decide) (by decide)]
  · simp [declarators, dropLead?_append, run, size, found, other (d := Text.of "const") (by decide) (by decide),
      other (d := Text.of "let") (by decide) (by decide)]

/-- Text without a declaration of the name is passed. -/
theorem findDeclaration?_append (passed : Text) (first : ∀ position < before.length,
      ¬DeclaresAt name (passed ++ (before ++ s)) (passed.length + position)) :
    findDeclaration? name (endsInWord passed) (before ++ s) =
      findDeclaration? name (endsInWord (passed ++ before)) s := by
  induction before generalizing passed with
  | nil => rw [List.append_nil, List.nil_append]
  | cons c before ih =>
    have none : (if endsInWord passed then none else declaration? name (c :: (before ++ s))) = none := by
      split
      next => rfl
      next boundary =>
        rw [← Option.not_isSome_iff_eq_none, Option.isSome_iff_exists]
        rintro ⟨rest, found⟩
        obtain ⟨after, declares, -⟩ := declaration?_eq_some found
        refine first 0 (by simp) ⟨?_, after, ?_⟩
        · simpa using boundary
        · simpa using declares
    have others := ih (passed ++ [c]) fun position bound declares =>
      first (position + 1) (by simpa using bound) (by
        simpa [Nat.add_assoc, Nat.add_comm 1] using declares)
    have ends : endsInWord (passed ++ [c]) = isWord c := by simp [endsInWord]
    rw [ends, List.append_assoc, List.singleton_append] at others
    rw [List.cons_append, findDeclaration?, none, ← others]

/-! ## The end of the statement -/

/-- What may follow a declared literal: the end of the text, a semicolon or a line break, after any gap.
A comment may run to the end of the text; after a line break none may be left open. -/
inductive EndsStatement : Text → Prop
  | atEnd {g : Text} (gap : Gap g) : EndsStatement g
  | comment {g body : Text} (gap : Gap g) (inLine : lineFeed ∉ body) :
      EndsStatement (g ++ 0x2F :: 0x2F :: body)
  | semicolon {g s : Text} (gap : Gap g) : EndsStatement (g ++ 0x3B :: s)
  | lineBreak {g s : Text} (gap : Gap g) (broken : lineFeed ∈ g) (closed : ¬UnclosedComment s) :
      EndsStatement (g ++ s)

theorem EndsStatement.stops (ends : EndsStatement tail) : Stops tail := by
  cases ends with
  | atEnd gap => simpa using gap.stops stops_nil
  | comment gap inLine => exact gap.stops (stops_mark (by decide) _)
  | semicolon gap => exact gap.stops (stops_mark (by decide) _)
  | @lineBreak g s gap broken closed =>
    cases gap with
    | nil => cases broken
    | blank isBlank others => simp [Stops, isBlank]
    | line => exact stops_mark (by decide) _
    | block => exact stops_mark (by decide) _

/-- Before the end of a statement only a gap is passed, with a line break if no semicolon follows. -/
theorem EndsStatement.passes (ends : EndsStatement tail) :
    ∃ passed after, tail = passed ++ after ∧ skip tail = .ok after ∧
      ∀ c ∈ after.head?, c = 0x3B ∨ lineFeed ∈ passed := by
  cases ends with
  | atEnd gap =>
    have skipped := skip_gap_solid gap solid_nil
    rw [List.append_nil] at skipped
    exact ⟨tail, [], by simp, skipped, by simp⟩
  | comment gap inLine => exact ⟨_, [], (List.append_nil _).symm, skip_lastLine gap inLine, by simp⟩
  | @semicolon g s gap =>
    refine ⟨g, 0x3B :: s, rfl, skip_gap_solid gap (solid_cons rfl (by decide) s), ?_⟩
    intro c first
    exact .inl (Option.some.inj first).symm
  | @lineBreak g s gap broken closed =>
    obtain ⟨passed, after, rfl, skipped⟩ := skip_of_closed closed
    refine ⟨g ++ passed, after, by rw [List.append_assoc], by rw [skip_gap gap, skipped], ?_⟩
    exact fun _ _ => .inr (List.mem_append_left _ broken)

theorem length_le_dropWhile (g : Text) (visible : ∀ c ∈ s.head?, isBlank c = false) :
    s.length ≤ ((g ++ s).dropWhile isBlank).length := by
  have stop : s.dropWhile isBlank = s := by
    cases s with
    | nil => rfl
    | cons c s => exact List.dropWhile_cons_of_neg (by simp [visible c rfl])
  rw [List.dropWhile_append]
  split
  · rw [stop]
  · simp

theorem readValue_of_skip {s' : Text} (same : skip s = skip s') (fuel : Nat) :
    readValue (fuel + 1) s = readValue (fuel + 1) s' := by
  simp only [readValue, same]

/-- A value after a gap, up to the end of its statement. -/
theorem readInitializer_taken {v : Json} (gap : Gap g) (taken : Taken v t) (ends : EndsStatement tail) :
    readInitializer ((g ++ (t ++ tail)).dropWhile isBlank) = .ok v := by
  have shorter := length_le_dropWhile g (taken.opens tail).solid.head_not_blank
  have read : readValue (2 * ((g ++ (t ++ tail)).dropWhile isBlank).length + 2)
      ((g ++ (t ++ tail)).dropWhile isBlank) = .ok (v, tail) := by
    rw [readValue_of_skip (skip_dropWhile _)]
    refine readValue_taken taken gap _ tail ends.stops ?_
    rw [List.length_append] at shorter
    omega
  obtain ⟨passed, after, rfl, skipped, last⟩ := ends.passes
  have between : (passed ++ after).take ((passed ++ after).length - after.length) = passed := by
    rw [List.length_append, Nat.add_sub_cancel, List.take_left]
  simp only [readInitializer, read, skipped, between, bind, Except.bind]
  split
  next => rfl
  next c others =>
    rw [if_pos]
    · rfl
    · rcases last c rfl with same | broken
      · exact .inl same
      · exact .inr (List.contains_iff_mem.mpr broken)

/-! ## Declared literals -/

/-- A text declares a literal under a name: somewhere stand a declarator, the name, an equals sign and a
way to write the literal, and the statement ends after it. It is the first declaration of the name. -/
inductive Declared (name : Text) (l : Literal) : Text → Prop
  | intro {before declarator g g' gap t tail : Text} (isDeclarator : declarator ∈ declarators)
      (apart : g ≠ []) (blanks : Blanks g) (blanks' : Blanks g') (layout : Gap gap)
      (written : Written l t) (ends : EndsStatement tail)
      (boundary : endsInWord before = false)
      (first : ∀ position < before.length, ¬DeclaresAt name
        (before ++ (declarator ++ (g ++ (name ++ (g' ++ 0x3D :: (gap ++ (t ++ tail))))))) position) :
      Declared name l
        (before ++ (declarator ++ (g ++ (name ++ (g' ++ 0x3D :: (gap ++ (t ++ tail)))))))

theorem findDeclaration?_declares {declarator : Text} (isDeclarator : declarator ∈ declarators)
    (apart : g ≠ []) (blanks : Blanks g) (blanks' : Blanks g') (named : name ≠ [])
    (visible : ∀ c ∈ name.head?, isBlank c = false) (boundary : endsInWord before = false)
    (first : ∀ position < before.length, ¬DeclaresAt name
      (before ++ (declarator ++ (g ++ (name ++ (g' ++ 0x3D :: after))))) position) :
    findDeclaration? name false
        (before ++ (declarator ++ (g ++ (name ++ (g' ++ 0x3D :: after))))) =
      some (after.dropWhile isBlank) := by
  have passed := findDeclaration?_append [] (by simpa using first)
  have found := declaration?_declares isDeclarator apart blanks blanks' named visible after
  have start : ∃ c s, declarator ++ (g ++ (name ++ (g' ++ 0x3D :: after))) = c :: s := by
    have some : declarator ≠ [] := ne_of_mem_of_not_mem isDeclarator (by decide)
    obtain ⟨c, s, rfl⟩ := List.exists_cons_of_ne_nil some
    exact ⟨c, _, rfl⟩
  obtain ⟨c, s, same⟩ := start
  rw [show endsInWord [] = false from rfl, List.nil_append, boundary] at passed
  rw [passed, same, findDeclaration?]
  rw [same] at found
  simp [found]

theorem declaredLiteral_of_declared {name text : Text} {l : Literal} (named : name ≠ [])
    (visible : ∀ c ∈ name.head?, isBlank c = false) (declared : Declared name l text) :
    declaredLiteral text name = .ok l.value := by
  obtain ⟨isDeclarator, apart, blanks, blanks', layout, written, ends, boundary, first⟩ := declared
  have found := findDeclaration?_declares isDeclarator apart blanks blanks' named visible boundary first
  have read := readInitializer_taken layout written.taken ends
  unfold declaredLiteral
  rw [found]
  dsimp only
  rw [read]

theorem Declares.start (declares : Declares name s after) :
    ∃ declarator ∈ declarators, startsWith s declarator = true := by
  obtain ⟨declarator, isDeclarator, g, g', -, -, rfl⟩ := declares
  exact ⟨declarator, isDeclarator, by simp [startsWith, dropLead?_append]⟩

/-- An exported array with a negative number, an object whose only text is escaped and followed by a
comma, a comment, and a regex with a slash in a class. -/
theorem declaredLiteral_of_declared_sample :
    Declared (Text.of "a")
        (.list [.integer (-12), .object [(Text.of "k", .text [lineFeed])], .regex (Text.of "/[/]/i")])
        (Text.of "export let a = [-12, \x7b k: '\\n', \x7d /* n */, /[/]/i];") ∧
      declaredLiteral (Text.of "export let a = [-12, \x7b k: '\\n', \x7d /* n */, /[/]/i];")
          (Text.of "a") =
        .ok (.list [.int (-12), .object [(Text.of "k", .text [lineFeed])], .text (Text.of "/[/]/i")]) := by
  have space : Gap [0x20] := .blank (by decide) .nil
  have twelve : Digits digitValue? 10 (Text.of "12") 12 := ⟨by decide, [1, 2], by decide, rfl⟩
  have token := IntegerToken.decimal .minus twelve (by decide)
  have number : Written (.integer (-12)) (Text.of "-12") := .scalar (.integer token)
  have escape : Escape (Text.of "n") lineFeed := .short (by decide)
  have spelled : SpellsText apostrophe (Text.of "\\n") [lineFeed] := .escaped escape .nil
  have text : Written (.text [lineFeed]) (Text.of "'\\n'") := .scalar (.text (by decide) spelled)
  have key : WrittenKey (Text.of "k") (Text.of "k") := .identifier (.intro (by decide) (by decide))
  have object : Written (.object [(Text.of "k", .text [lineFeed])]) (Text.of "\x7b k: '\\n', \x7d") :=
    .object (.more space key .nil space text .nil (.done space))
  have inClass : ClassItems (Text.of "/") := .plain (by decide) .nil
  have items : RegexItems (Text.of "[/]") := .inClass inClass .nil
  have flags : ∀ c ∈ Text.of "i", isAsciiLower c = true := by decide
  have regex : Written (.regex (Text.of "/[/]/i")) (Text.of "/[/]/i") :=
    .scalar (.regex (.intro items (by decide) flags))
  have unended : ¬endMark <:+: Text.of " n " := by decide
  have comment : Gap (Text.of " /* n */") := .blank (by decide) (.block unended .nil)
  have list : Written (.list [.integer (-12), .object [(Text.of "k", .text [lineFeed])],
      .regex (Text.of "/[/]/i")]) (Text.of "[-12, \x7b k: '\\n', \x7d /* n */, /[/]/i]") :=
    .list (.more .nil number .nil (.more space object comment (.last space regex .nil)))
  have first : ∀ position < 7, ¬DeclaresAt (Text.of "a")
      (Text.of "export let a = [-12, \x7b k: '\\n', \x7d /* n */, /[/]/i];") position := by
    have none : ∀ position < 7, ∀ declarator ∈ declarators, startsWith ((Text.of
        "export let a = [-12, \x7b k: '\\n', \x7d /* n */, /[/]/i];").drop position) declarator =
          false := by
      decide
    rintro position bound ⟨-, after, declares⟩
    obtain ⟨declarator, isDeclarator, starts⟩ := declares.start
    exact absurd starts (by simp [none position bound declarator isDeclarator])
  have isDeclarator : Text.of "let" ∈ declarators := by decide
  have blanks : Blanks [0x20] := by decide
  have ends : EndsStatement (Text.of ";") := .semicolon .nil
  have boundary : endsInWord (Text.of "export ") = false := by decide
  have declared : Declared (Text.of "a")
      (.list [.integer (-12), .object [(Text.of "k", .text [lineFeed])], .regex (Text.of "/[/]/i")])
      (Text.of "export let a = [-12, \x7b k: '\\n', \x7d /* n */, /[/]/i];") :=
    .intro isDeclarator (by decide) blanks blanks space list ends boundary first
  exact ⟨declared, declaredLiteral_of_declared (by decide) (by decide) declared⟩

/-- A scalar that cannot be read makes its declaration fail. -/
theorem declaredLiteral_unread {failure : Failure} (opens : OpensScalar t) (failed : readScalar t = .error failure) :
    declaredLiteral (Text.of "const a =" ++ t) (Text.of "a") =
      .error (failure.toError (Text.of "const a =" ++ t).length) := by
  have isDeclarator : Text.of "const" ∈ declarators := by decide
  have blanks : Blanks [0x20] := by decide
  have found : findDeclaration? (Text.of "a") false (Text.of "const a =" ++ t) =
      Option.some (t.dropWhile isBlank) :=
    findDeclaration?_declares isDeclarator (by decide) blanks blanks (by decide) (by decide)
      (show endsInWord [] = false from rfl) fun position bound => absurd bound (by simp)
  have skipped : skip (t.dropWhile isBlank) = .ok t := by
    rw [skip_dropWhile, skip_solid opens.1.solid]
  have refused : readInitializer (t.dropWhile isBlank) = .error failure := by
    unfold readInitializer
    rw [readValue_opensScalar skipped opens, failed]
    rfl
  unfold declaredLiteral
  rw [found]
  dsimp only
  rw [refused]

/-- A decimal integer with more digits than can be read is refused. -/
theorem declaredLiteral_long {digits : Text} (some : digits ≠ []) (all : AllDigits digits)
    (long : maxDecimalDigits < digits.length) :
    declaredLiteral (Text.of "const a =" ++ digits) (Text.of "a") =
      .error (.tooManyDigits digits.length) := by
  have token : NumberToken digits := by
    have decimal := NumberToken.decimal .none (.whole some all) .none
    rwa [List.append_nil, List.nil_append] at decimal
  have opens : OpensScalar digits := by simpa using token.opens []
  have read := readScalar_number token stops_nil
  rw [List.append_nil, numberOf_long some all long] at read
  exact declaredLiteral_unread opens read

/-- Two literals that are written as said above but for a limit: a decimal integer with one digit more than
can be read, and an integer before a line break with an open comment after it. -/
theorem declaredLiteral_limits :
    declaredLiteral (Text.of "const a =" ++ List.replicate 4301 0x31) (Text.of "a") =
        .error (.tooManyDigits 4301) ∧
      declaredLiteral (Text.of "const a = 1\n/*") (Text.of "a") =
        .error (.malformed .unterminatedComment 12) := by
  have ones : AllDigits (List.replicate 4301 0x31) := fun c member => by
    rw [List.eq_of_mem_replicate member]
    decide
  have size : (List.replicate 4301 (0x31 : CodePoint)).length = 4301 := List.length_replicate
  have long := declaredLiteral_long (List.ne_nil_of_length_pos (by rw [size]; decide)) ones
    (by rw [size]; decide)
  rw [size] at long
  exact ⟨long, by cbv⟩

end UrlRules.Script
