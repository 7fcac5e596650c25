import UrlRules.Proofs.Script.Declaration
import UrlRules.Proofs.Script.Lexemes

/-!
# Nothing but literals is read

What is read as a value is a value of the grammar (`readValue_ok`), and what is read as an initializer is one
after which the statement ends (`readInitializer_ok`). The declaration that is found is the first one of the
name (`findDeclaration?_eq_some`). So a literal that is found in a text is declared there
(`isDeclared_of_declaredLiteral`).
-/
namespace UrlRules.Script

open Text

variable {name g g' s t after rest : Text} {v : Json} {c : CodePoint} {d : Dialect}

/-! ## Values -/

/-- Where something is read after skipping, a gap has been taken and a token starts. -/
theorem skip_some_ok (skipped : skip s = .ok after) (some : after ≠ []) :
    ∃ g, Gap g ∧ s = g ++ after ∧ Solid after := by
  obtain ⟨c, rest, rfl⟩ := List.exists_cons_of_ne_nil some
  exact skip_cons_ok skipped

theorem readValue_nil {fuel : Nat} : readValue fuel [] ≠ .ok (v, rest) := by
  intro read
  cases fuel <;> cases read

mutual

/-- What is read as a value is one, after a gap. -/
theorem readValue_ok {fuel : Nat} {s rest : Text} {v : Json} (read : readValue fuel s = .ok (v, rest)) :
    ∃ g t, Gap g ∧ Derives lineFeeds (.value v) t ∧ s = g ++ (t ++ rest) := by
  cases fuel with
  | zero => cases read
  | succ fuel =>
    obtain ⟨after, skipped, ended⟩ := bind_eq_ok.mp read
    split at ended
    next inner =>
      obtain ⟨g, gap, rfl, -⟩ := skip_cons_ok skipped
      obtain ⟨fields, t, rfl, inside, rfl⟩ := readFields_ok ended
      exact ⟨g, _, gap, .object inside, rfl⟩
    next inner =>
      obtain ⟨g, gap, rfl, -⟩ := skip_cons_ok skipped
      obtain ⟨items, t, rfl, inside, rfl⟩ := readItems_ok ended
      exact ⟨g, _, gap, .list inside, rfl⟩
    next =>
      have some : after ≠ [] := by
        rintro rfl
        cases ended
      obtain ⟨g, gap, rfl, solid⟩ := skip_some_ok skipped some
      obtain ⟨t, scalar, rfl⟩ := readScalar_ok solid ended
      exact ⟨g, t, gap, .scalar scalar, rfl⟩

/-- What is read as the rest of an array gives the items that are left. -/
theorem readItems_ok {fuel : Nat} {s rest : Text} {v : Json} {before : List Json}
    (read : readItems fuel before s = .ok (v, rest)) :
    ∃ items t, v = .list (before.reverse ++ items) ∧ Derives lineFeeds (.items items) t ∧ s = t ++ rest := by
  cases fuel with
  | zero => cases read
  | succ fuel =>
    obtain ⟨after, skipped, ended⟩ := bind_eq_ok.mp read
    split at ended
    next inner =>
      obtain ⟨rfl, rfl⟩ := Prod.mk.inj (Except.ok.inj ended)
      obtain ⟨g, gap, rfl, -⟩ := skip_cons_ok skipped
      exact ⟨[], _, by rw [List.append_nil], .noItem gap, by simp⟩
    next => cases ended
    next =>
      obtain ⟨⟨item, left⟩, first, later⟩ := bind_eq_ok.mp ended
      obtain ⟨next, skipped', last⟩ := bind_eq_ok.mp later
      have some : after ≠ [] := by
        rintro rfl
        exact readValue_nil first
      obtain ⟨g, gap, rfl, -⟩ := skip_some_ok skipped some
      obtain ⟨g', t, gap', derived, rfl⟩ := readValue_ok first
      have blank := gap.append gap'
      split at last
      next inner =>
        obtain ⟨g₂, gap₂, rfl, -⟩ := skip_cons_ok skipped'
        obtain ⟨items, others, rfl, inside, rfl⟩ := readItems_ok last
        exact ⟨item :: items, _, by simp, .item blank derived gap₂ inside, by simp⟩
      next inner =>
        obtain ⟨rfl, rfl⟩ := Prod.mk.inj (Except.ok.inj last)
        obtain ⟨g₂, gap₂, rfl, -⟩ := skip_cons_ok skipped'
        exact ⟨[item], _, by simp, .lastItem blank derived gap₂, by simp⟩
      next => cases last

/-- What is read as the rest of an object gives the fields that are left. -/
theorem readFields_ok {fuel : Nat} {s rest : Text} {v : Json} {before : List (Text × Json)}
    (read : readFields fuel before s = .ok (v, rest)) :
    ∃ fields t, v = .object (Json.ofWrites (before.reverse ++ fields)) ∧
      Derives lineFeeds (.fields fields) t ∧ s = t ++ rest := by
  cases fuel with
  | zero => cases read
  | succ fuel =>
    obtain ⟨after, skipped, ended⟩ := bind_eq_ok.mp read
    split at ended
    next inner =>
      obtain ⟨rfl, rfl⟩ := Prod.mk.inj (Except.ok.inj ended)
      obtain ⟨g, gap, rfl, -⟩ := skip_cons_ok skipped
      exact ⟨[], _, by rw [List.append_nil], .noField gap, by simp⟩
    next =>
      obtain ⟨⟨name, left⟩, named, keyed⟩ := bind_eq_ok.mp ended
      obtain ⟨inner, expected, marked⟩ := bind_eq_ok.mp keyed
      obtain ⟨⟨item, left'⟩, first, later⟩ := bind_eq_ok.mp marked
      obtain ⟨next, skipped', last⟩ := bind_eq_ok.mp later
      have some : after ≠ [] := by
        rintro rfl
        cases named
      obtain ⟨g, gap, rfl, -⟩ := skip_some_ok skipped some
      obtain ⟨k, key, rfl⟩ := readKey_ok named
      obtain ⟨g₁, colon, rfl⟩ := expect_ok expected
      obtain ⟨g₂, t, blank, derived, rfl⟩ := readValue_ok first
      split at last
      next inner =>
        obtain ⟨g', gap', rfl, -⟩ := skip_cons_ok skipped'
        obtain ⟨fields, others, rfl, inside, rfl⟩ := readFields_ok last
        exact ⟨(name, item) :: fields, _, by simp, .field gap key colon blank derived gap' inside, by simp⟩
      next inner =>
        obtain ⟨rfl, rfl⟩ := Prod.mk.inj (Except.ok.inj last)
        obtain ⟨g', gap', rfl, -⟩ := skip_cons_ok skipped'
        exact ⟨[(name, item)], _, by simp, .lastField gap key colon blank derived gap', by simp⟩
      next => cases last

end

/-! ## The end of the statement -/

/-- No gap stands before a token. -/
theorem Solid.gap_eq_nil (solid : Solid (g ++ s)) (gap : Gap g) : g = [] := by
  cases gap with
  | nil => rfl
  | blank blank => exact absurd (solid.head_not_blank _ rfl) (by simp [blank])
  | line => exact absurd rfl solid.no_line
  | block => exact absurd rfl solid.no_block

theorem Solid.closed (solid : Solid s) : ¬UnclosedComment s := by
  rintro ⟨g, body, gap, rfl, -⟩
  obtain rfl := solid.gap_eq_nil gap
  exact solid.no_block rfl

/-- What is read as an initializer is a value after a gap, and the statement ends after it. -/
theorem readInitializer_ok (read : readInitializer s = .ok v) :
    ∃ g t tail, Gap g ∧ Derives lineFeeds (.value v) t ∧ EndsStatement tail ∧ s = g ++ (t ++ tail) := by
  obtain ⟨⟨w, tail⟩, value, later⟩ := bind_eq_ok.mp read
  obtain ⟨after, skipped, ended⟩ := bind_eq_ok.mp later
  obtain ⟨g, t, gap, derived, rfl⟩ := readValue_ok value
  dsimp only at ended
  split at ended
  next =>
    obtain rfl := Except.ok.inj ended
    rcases skip_ok skipped with ⟨g', gap', rfl, -⟩ | ⟨-, g', body, gap', inLine, rfl⟩
    · exact ⟨g, t, g', gap, derived, .atEnd gap', by rw [List.append_nil]⟩
    · exact ⟨g, t, _, gap, derived, .comment gap' inLine, rfl⟩
  next c rest =>
    split at ended
    next last =>
      obtain rfl := Except.ok.inj ended
      obtain ⟨g', gap', rfl, solid⟩ := skip_cons_ok skipped
      refine ⟨g, t, _, gap, derived, ?_, rfl⟩
      have passed : (g' ++ c :: rest).take ((g' ++ c :: rest).length - (c :: rest).length) = g' := by
        rw [List.length_append, Nat.add_sub_cancel, List.take_left]
      rw [passed] at last
      rcases last with rfl | broken
      · exact .semicolon gap'
      · exact .lineBreak gap' (List.contains_iff_mem.mp broken) solid.closed
    next => cases ended

/-! ## The declaration that is found -/

theorem isSome_afterGap? {gap : Nat} (some : g ≠ []) (size : g.length ≤ gap) (blanks : Blanks g') :
    (afterGap? name (g ++ (name ++ (g' ++ 0x3D :: after))) gap).isSome = true := by
  induction gap with
  | zero => exact absurd (List.length_eq_zero_iff.mp (Nat.le_zero.mp size)) some
  | succ gap ih =>
    rw [afterGap?, Option.isSome_or, Bool.or_eq_true]
    rcases Nat.lt_or_ge gap g.length with last | more
    · have whole : gap + 1 = g.length := by omega
      rw [whole, List.drop_left, afterName?_append blanks]
      exact .inl rfl
    · exact .inr (ih more)

/-- Where a declaration starts, one is found. -/
theorem isSome_declaration? (declares : Declares name s after) : (declaration? name s).isSome = true := by
  obtain ⟨declarator, isDeclarator, g, g', ⟨some, blanks⟩, blanks', rfl⟩ := declares
  refine List.findSome?_isSome_iff.mpr ⟨declarator, isDeclarator, ?_⟩
  have size : g.length ≤ ((g ++ (name ++ (g' ++ 0x3D :: after))).takeWhile isBlank).length := by
    rw [List.takeWhile_append_of_pos blanks, List.length_append]
    exact Nat.le_add_right ..
  rw [dropLead?_append]
  exact isSome_afterGap? some size blanks'

/-- Where no declaration is found, none starts. -/
theorem not_declaresAt {passed : Text}
    (none : (if endsInWord passed then none else declaration? name s) = none) :
    ¬DeclaresAt name (passed ++ s) passed.length := by
  rintro ⟨free, after, declares⟩
  rw [List.take_left] at free
  rw [List.drop_left] at declares
  rw [if_neg (by simp [free])] at none
  exact absurd (isSome_declaration? declares) (by simp [none])

/-- The declaration that is found is the first one. -/
theorem findDeclaration?_eq_some (passed : Text)
    (found : findDeclaration? name (endsInWord passed) s = some rest) :
    ∃ before s' after, s = before ++ s' ∧ endsInWord (passed ++ before) = false ∧
      Declares name s' after ∧ rest = after.dropWhile isBlank ∧
      ∀ position < before.length, ¬DeclaresAt name (passed ++ s) (passed.length + position) := by
  induction s generalizing passed with
  | nil => cases found
  | cons c s ih =>
    have ends : endsInWord (passed ++ [c]) = isWord c := by simp [endsInWord]
    unfold findDeclaration? at found
    split at found
    next after here =>
      obtain rfl := Option.some.inj found
      split at here
      · cases here
      next boundary =>
        obtain ⟨after, declares, left⟩ := declaration?_eq_some here
        refine ⟨[], c :: s, after, rfl, ?_, declares, left, fun position bound => absurd bound (by simp)⟩
        simpa using boundary
    next none =>
      rw [← ends] at found
      obtain ⟨before, s', after, rfl, boundary, declares, left, first⟩ := ih _ found
      refine ⟨c :: before, s', after, rfl, by simpa using boundary, declares, left, ?_⟩
      rintro (_ | position) bound
      · exact not_declaresAt none
      · have later := first position (by simpa using bound)
        simpa [Nat.add_assoc, Nat.add_comm 1] using later

/-- Where none is found, none starts anywhere. -/
theorem findDeclaration?_eq_none (passed : Text) (missing : findDeclaration? name (endsInWord passed) s = none)
    (position : Nat) : ¬DeclaresAt name (passed ++ s) (passed.length + position) := by
  induction s generalizing passed position with
  | nil =>
    rintro ⟨-, after, declares⟩
    rw [List.drop_eq_nil_of_le (by simp)] at declares
    obtain ⟨declarator, isDeclarator, g, g', -, -, same⟩ := declares
    simp at same
  | cons c s ih =>
    have ends : endsInWord (passed ++ [c]) = isWord c := by simp [endsInWord]
    unfold findDeclaration? at missing
    split at missing
    · cases missing
    next none =>
      rw [← ends] at missing
      cases position with
      | zero => exact not_declaresAt none
      | succ position =>
        have later := ih _ missing position
        simpa [Nat.add_assoc, Nat.add_comm 1] using later

/-! ## Declared values -/

/-- A text declares a value under a name: a declarator, the name, an equals sign and a text of the value
follow each other, and the statement ends. It is the first declaration of the name. From the equals sign to
the end of the value stand bare only values, keys and marks. -/
inductive IsDeclared (d : Dialect) (name : Text) (v : Json) : Text → Prop
  | intro {before declarator g g' gap t tail : Text} (isDeclarator : declarator ∈ declarators)
      (apart : g ≠ []) (blanks : Blanks g) (blanks' : Blanks g') (layout : Gap gap)
      (derived : Derives d (.value v) t) (bare : Flow d false (gap ++ t) true) (ends : EndsStatement tail)
      (boundary : endsInWord before = false)
      (first : ∀ position < before.length, ¬DeclaresAt name
        (before ++ (declarator ++ (g ++ (name ++ (g' ++ 0x3D :: (gap ++ (t ++ tail))))))) position) :
      IsDeclared d name v
        (before ++ (declarator ++ (g ++ (name ++ (g' ++ 0x3D :: (gap ++ (t ++ tail)))))))

/-- A literal that is found in a text is declared there. -/
theorem isDeclared_of_declaredLiteral {text name : Text} {v : Json}
    (found : declaredLiteral text name = .ok v) : IsDeclared lineFeeds name v text := by
  unfold declaredLiteral at found
  split at found
  · cases found
  next rest declared =>
    split at found
    next w read =>
      obtain rfl := Except.ok.inj found
      obtain ⟨before, s, after, rfl, boundary, declares, rfl, first⟩ := findDeclaration?_eq_some [] declared
      obtain ⟨gap, t, tail, layout, derived, ends, same⟩ := readInitializer_ok read
      obtain ⟨declarator, isDeclarator, g, g', ⟨some, blanks⟩, blanks', rfl⟩ := declares
      have blank := gap_of_blanks (takeWhile_blanks after)
      have whole : after = (after.takeWhile isBlank ++ gap) ++ (t ++ tail) := by
        rw [List.append_assoc, ← same, List.takeWhile_append_dropWhile]
      have flow := Flow.gap (blank.append layout) (derived.flow .nil)
      simp only [List.append_nil, List.nil_append, List.length_nil, Nat.zero_add] at flow first boundary
      rw [whole] at first ⊢
      exact .intro isDeclarator some blanks blanks' (blank.append layout) derived flow ends boundary first
    next => cases found

/-- An object with commas after its last item and its last field, and a line break that ends a comment. -/
theorem isDeclared_of_declaredLiteral_sample :
    declaredLiteral (Text.of "let a={k:[null,/[/]/g,],} // n\nb()") (Text.of "a") =
        .ok (.object [(Text.of "k", .list [.null, .text (Text.of "/[/]/g")])]) ∧
      IsDeclared lineFeeds (Text.of "a") (.object [(Text.of "k", .list [.null, .text (Text.of "/[/]/g")])])
        (Text.of "let a={k:[null,/[/]/g,],} // n\nb()") := by
  have found : declaredLiteral (Text.of "let a={k:[null,/[/]/g,],} // n\nb()") (Text.of "a") =
      .ok (.object [(Text.of "k", .list [.null, .text (Text.of "/[/]/g")])]) := by decide +kernel
  exact ⟨found, isDeclared_of_declaredLiteral found⟩

/-! ## Line breaks that are taken -/

/-- Without a backslash the body of a text holds no line break between plain quotes. -/
theorem QuotedBody.plain {quote : CodePoint} {body : Text} (inside : QuotedBody d quote body s)
    (plain : quote ≠ backtick) (unescaped : backslash ∉ body) : quote ∉ body ∧ ∀ c ∈ body, c ∉ d.breaks := by
  induction inside with
  | nil => simp
  | raw apart inLine _ _ ih =>
    obtain ⟨-, unescaped⟩ := List.ne_and_not_mem_of_not_mem_cons unescaped
    obtain ⟨other, others⟩ := ih unescaped
    refine ⟨List.not_mem_cons_of_ne_of_not_mem (Ne.symm apart.1) other, ?_⟩
    exact List.forall_mem_cons.mpr ⟨fun isBreak => plain (inLine isBreak), others⟩
  | escaped => exact absurd (List.mem_cons_self ..) unescaped

/-- A scalar is a text, a regex, or starts with no mark. -/
theorem ScalarText.start (scalar : ScalarText d v t) :
    (∃ quote ∈ quotes, ∃ body s, QuotedBody d quote body s ∧ t = quote :: (body ++ [quote])) ∨
      RegexText d t ∨ ∃ c s, c ∉ punctuation ∧ t = c :: s := by
  cases scalar with
  | text isQuote inside => exact .inl ⟨_, isQuote, _, _, inside, rfl⟩
  | regex literal => exact .inr (.inl literal)
  | number number =>
    obtain ⟨c, s, rfl, start⟩ := number.numberToken.start
    exact .inr (.inr ⟨c, s, start.apart.2.1, rfl⟩)
  | word word => cases word <;> exact .inr (.inr ⟨_, _, by decide, rfl⟩)

/-- What starts with a quote, and what starts with a slash, is derived as a text or as a regex. -/
theorem Derives.of_mark (derived : Derives d (.value v) t) (first : t ++ rest = c :: s)
    (isMark : c ∈ 0x2F :: quotes) :
    (c ∈ quotes ∧ ∃ body t', QuotedBody d c body t' ∧ t = c :: (body ++ [c])) ∨ RegexText d t := by
  cases derived with
  | list inside =>
    obtain rfl := (List.cons.inj first).1
    exact absurd isMark (by decide)
  | object inside =>
    obtain rfl := (List.cons.inj first).1
    exact absurd isMark (by decide)
  | scalar scalar =>
    rcases scalar.start with ⟨quote, isQuote, body, s', inside, rfl⟩ | regex | ⟨c', s', other, rfl⟩
    · obtain rfl := (List.cons.inj first).1
      exact .inl ⟨isQuote, body, s', inside, rfl⟩
    · exact .inr regex
    · obtain rfl := (List.cons.inj first).1
      have each : ∀ c ∈ 0x2F :: quotes, c ∈ punctuation := by decide
      exact absurd (each _ isMark) other

/-- Where a text has one equals sign, and a token follows it, a declared value starts with that token. -/
theorem IsDeclared.after_equals {text : Text} (declared : IsDeclared d name v text) (before s : Text)
    (whole : text = before ++ 0x3D :: s) (absent : 0x3D ∉ before) (absent' : 0x3D ∉ s) (solid : Solid s) :
    ∃ t tail, Derives d (.value v) t ∧ t ++ tail = s := by
  obtain @⟨before', declarator, g, g', gap, t, tail, -, -, -, -, layout, derived⟩ := declared
  have split : before ++ 0x3D :: s =
      (before' ++ (declarator ++ (g ++ (name ++ g')))) ++ 0x3D :: (gap ++ (t ++ tail)) := by
    rw [← whole]
    simp
  obtain ⟨-, -, rfl⟩ := (List.append_cons_inj_of_notMem absent absent').mp split
  obtain rfl := solid.gap_eq_nil layout
  exact ⟨t, tail, derived, rfl⟩

/-- A carriage return breaks no line of a text, and a backslash takes even a line feed in a regex. So what is
read need not be declared where a text or a regex may not hold these. -/
theorem declaredLiteral_breaks :
    (¬∀ text name v, declaredLiteral text name = .ok v → IsDeclared ⟨[lineFeed, 0x0D], []⟩ name v text) ∧
      ¬∀ text name v, declaredLiteral text name = .ok v →
        IsDeclared ⟨[lineFeed], [lineFeed]⟩ name v text := by
  constructor
  · intro each
    have declared := each (Text.of "let a='x\ry'") (Text.of "a") (.text (Text.of "x\ry")) (by decide +kernel)
    obtain ⟨t, tail, derived, first⟩ := declared.after_equals (Text.of "let a")
      [0x27, 0x78, 0x0D, 0x79, 0x27] (by decide) (by decide) (by decide) (solid_cons (by decide) (by decide) _)
    rcases derived.of_mark first (by decide) with ⟨-, body, s, inside, rfl⟩ | regex
    · have held : body ++ 0x27 :: tail = [0x78, 0x0D, 0x79] ++ 0x27 :: [] := by
        simpa using (List.cons.inj first).2
      have unescaped : backslash ∉ body := fun member => by
        have inside : backslash ∈ [0x78, 0x0D, 0x79] ++ 0x27 :: [] := by simp [← held, member]
        exact absurd inside (by decide)
      obtain ⟨-, inLine⟩ := inside.plain (by decide) unescaped
      obtain ⟨rfl, -⟩ := (List.append_cons_inj_of_notMem (by decide) (by decide)).mp held.symm
      exact inLine 0x0D (by decide) (by decide)
    · obtain @⟨c, body, flags, items, star, letters⟩ := regex
      exact absurd (List.cons.inj first).1 (by decide)
  · intro each
    have declared := each (Text.of "let a=/x\\\ny/") (Text.of "a") (.text (Text.of "/x\\\ny/"))
      (by decide +kernel)
    obtain ⟨t, tail, derived, first⟩ := declared.after_equals (Text.of "let a")
      [0x2F, 0x78, backslash, lineFeed, 0x79, 0x2F] (by decide) (by decide) (by decide) ⟨by decide, by decide, by decide⟩
    rcases derived.of_mark first (by decide) with ⟨isQuote, -⟩ | regex
    · exact absurd isQuote (by decide)
    · obtain @⟨c, body, flags, items, star, letters⟩ := regex
      obtain ⟨rfl, held⟩ := List.cons.inj (List.cons.inj first).2
      cases items with
      | plain _ _ others =>
        cases others with
        | nil => exact absurd (List.cons.inj held).1 (by decide)
        | plain apart =>
          obtain rfl := (List.cons.inj held).1
          exact apart (by decide)
        | escaped allowed =>
          obtain rfl := (List.cons.inj (List.cons.inj held).2).1
          exact allowed (by decide)
        | inClass => exact absurd (List.cons.inj held).1 (by decide)

end UrlRules.Script
