import UrlRules.Proofs.Script.Failures

/-!
# Comments before a declaration

A declaration is looked for in the text as it stands, comments included. So text in which none starts is passed over,
and what follows is read as if it stood alone (`declaredLiteral_append`); but one that starts in a comment is read like
any other, and comes first (`declaredLiteral_drop`). Hence a comment at the start of a script only moves positions,
unless a declaration of the name starts in it (`declaredLiteral_comment`).
-/
namespace UrlRules.Script

open Text

variable {name s rest before comment text : Text} {failure : Failure} {position : Nat}

/-! ## Positions -/

/-- The error in a text that stands after so many characters. -/
def Error.shifted (count : Nat) : Error → Error
  | .malformed fault position => .malformed fault (count + position)
  | e => e

/-- What is found in a text is found as far from its end, whatever stands before. -/
theorem Failure.FoundIn.toError_add (found : failure.FoundIn rest) {total : Nat} (within : rest.length ≤ total)
    (count : Nat) : failure.toError (count + total) = (failure.toError total).shifted count := by
  cases found with
  | @inside fault left bound =>
    have inside : left ≤ total := Nat.le_trans bound within
    have position : count + total - left + 0 = count + (total - left + 0) := by omega
    rw [Failure.toError, Failure.toError, Error.shifted, position]
  | cutOff =>
    rw [Failure.toError, Failure.toError, Error.shifted, Nat.sub_zero, Nat.sub_zero, Nat.add_assoc]
  | codePoint => rfl
  | integer => rfl

theorem suffix_of_findDeclaration? (found : findDeclaration? name false s = some rest) : rest <:+ s := by
  obtain ⟨before, s', after, rfl, -, declares, rfl, -⟩ := findDeclaration?_eq_some [] found
  exact declares.suffix.1.trans (List.suffix_append ..)

/-! ## Text before a declaration -/

/-- Text where no declaration of the name starts only moves positions. -/
theorem declaredLiteral_append (boundary : endsInWord before = false)
    (first : ∀ position < before.length, ¬DeclaresAt name (before ++ s) position) :
    declaredLiteral (before ++ s) name = (declaredLiteral s name).mapError (·.shifted before.length) := by
  have passed : findDeclaration? name false (before ++ s) = findDeclaration? name false s := by
    have append := findDeclaration?_append [] (by simpa using first)
    rwa [List.nil_append, boundary] at append
  unfold declaredLiteral
  rw [passed]
  cases found : findDeclaration? name false s with
  | none => rfl
  | some rest =>
    dsimp only
    cases read : readInitializer rest with
    | ok value => rfl
    | error failure =>
      have shorter := (suffix_of_findDeclaration? found).length_le
      dsimp only
      rw [List.length_append, (readInitializer_error read).toError_add shorter]
      rfl

/-- The first declaration of a name is read as if the text started there. -/
theorem declaredLiteral_drop (declared : DeclaresAt name text position)
    (first : ∀ earlier < position, ¬DeclaresAt name text earlier) :
    declaredLiteral text name = (declaredLiteral (text.drop position) name).mapError (·.shifted position) ∧
      declaredLiteral text name ≠ .error (.notDeclared name) := by
  constructor
  · obtain ⟨boundary, after, declares⟩ := declared
    have inside : position ≤ text.length := by
      obtain ⟨-, shorter⟩ := declares.suffix
      rw [List.length_drop] at shorter
      omega
    have size : (text.take position).length = position := List.length_take_of_le inside
    have append := declaredLiteral_append (s := text.drop position) boundary
      (by rwa [size, List.take_append_drop])
    rwa [size, List.take_append_drop] at append
  · intro missing
    cases refused_of_declaredLiteral missing with
    | undeclared none => exact none position declared

/-! ## Comments -/

def lineBreaks : List Text := [[lineFeed], [0x0D], [0x0D, lineFeed], [0x2028], [0x2029]]

/-- A comment up to the end of its line, or a closed one with a line break after it. -/
inductive Comment : Text → Prop
  | line {body ending : Text} (inLine : ∀ c ∈ body, [c] ∉ lineBreaks) (isBreak : ending ∈ lineBreaks) :
      Comment (0x2F :: 0x2F :: (body ++ ending))
  | block {body ending : Text} (unended : ¬endMark <:+: body) (isBreak : ending ∈ lineBreaks) :
      Comment (0x2F :: 0x2A :: (body ++ (endMark ++ ending)))

/-- A comment ends in a character of no word. -/
theorem Comment.exists_last (isComment : Comment comment) : ∃ body c, comment = body ++ [c] ∧ isWord c = false := by
  have last : ∀ ending ∈ lineBreaks, ∃ c, ending = ending.dropLast ++ [c] ∧ isWord c = false := by
    simp only [lineBreaks, List.forall_mem_cons]
    exact ⟨⟨_, rfl, by decide +kernel⟩, ⟨_, rfl, by decide +kernel⟩, ⟨_, rfl, by decide +kernel⟩,
      ⟨_, rfl, by decide +kernel⟩, ⟨_, rfl, by decide +kernel⟩, nofun⟩
  cases isComment with
  | @line body ending _ isBreak =>
    obtain ⟨c, same, apart⟩ := last ending isBreak
    exact ⟨0x2F :: 0x2F :: (body ++ ending.dropLast), c, by rw [same]; simp, apart⟩
  | @block body ending _ isBreak =>
    obtain ⟨c, same, apart⟩ := last ending isBreak
    exact ⟨0x2F :: 0x2A :: (body ++ (endMark ++ ending.dropLast)), c, by rw [same]; simp, apart⟩

theorem Comment.boundary (isComment : Comment comment) : endsInWord comment = false := by
  obtain ⟨body, c, rfl, apart⟩ := isComment.exists_last
  simpa [endsInWord] using apart

/-- Without a declarator in it, a comment starts no declaration. -/
theorem Comment.declares_nothing (isComment : Comment comment)
    (without : ∀ declarator ∈ declarators, ¬declarator <:+: comment) (text name : Text) :
    ∀ position < comment.length, ¬DeclaresAt name (comment ++ text) position := by
  rintro position bound ⟨-, after, declarator, isDeclarator, g, g', -, -, same⟩
  have words : ∀ declarator ∈ declarators, ∀ c ∈ declarator, isWord c = true := by decide +kernel
  rw [List.drop_append_of_le_length bound.le] at same
  rcases List.append_eq_append_iff.mp same with ⟨others, beyond, -⟩ | ⟨others, inside, -⟩
  · -- The declarator would go on beyond the end of the comment, which is in no word.
    obtain ⟨body, c, rfl, apart⟩ := isComment.exists_last
    have early : position ≤ body.length := by simpa [Nat.lt_succ_iff] using bound
    rw [List.drop_append_of_le_length early] at beyond
    have inWord := words declarator isDeclarator c (by simp [beyond])
    rw [apart] at inWord
    cases inWord
  · refine without declarator isDeclarator (List.IsInfix.trans ?_ (List.drop_suffix position comment).isInfix)
    exact inside ▸ (List.prefix_append declarator others).isInfix

/-- A comment before a script only moves positions if no declaration of the name starts in it, and none does if it
holds no declarator. If one starts in it, the first one is read, and the script with the comment declares the name
whether it does so without it or not. -/
theorem declaredLiteral_comment (isComment : Comment comment) (text name : Text) :
    ((∀ position < comment.length, ¬DeclaresAt name (comment ++ text) position) →
        declaredLiteral (comment ++ text) name =
          (declaredLiteral text name).mapError (·.shifted comment.length)) ∧
      ((∀ declarator ∈ declarators, ¬declarator <:+: comment) →
        ∀ position < comment.length, ¬DeclaresAt name (comment ++ text) position) ∧
      ∀ position < comment.length, DeclaresAt name (comment ++ text) position →
        (∀ earlier < position, ¬DeclaresAt name (comment ++ text) earlier) →
        declaredLiteral (comment ++ text) name =
            (declaredLiteral ((comment ++ text).drop position) name).mapError (·.shifted position) ∧
          declaredLiteral (comment ++ text) name ≠ .error (.notDeclared name) :=
  ⟨declaredLiteral_append isComment.boundary, fun without => isComment.declares_nothing without text name,
    fun _ _ => declaredLiteral_drop⟩

/-- A declaration in a comment is read in place of the script's own. A comment without one moves the error. -/
theorem declaredLiteral_comment_older :
    declaredLiteral (Text.of "const a = 2") (Text.of "a") = .ok (.int 2) ∧
      declaredLiteral (Text.of "// const a = 1\n" ++ Text.of "const a = 2") (Text.of "a") = .ok (.int 1) ∧
      declaredLiteral (Text.of "const a = b") (Text.of "a") = .error (.malformed .unsupportedExpression 10) ∧
      declaredLiteral (Text.of "/* a = 1 */\n" ++ Text.of "const a = b") (Text.of "a") =
        .error (.malformed .unsupportedExpression 22) := by
  have older : Comment (Text.of "// const a = 1\n") :=
    @Comment.line (Text.of " const a = 1") [lineFeed] (by decide) (by decide)
  have plain : Comment (Text.of "/* a = 1 */\n") :=
    @Comment.block (Text.of " a = 1 ") [lineFeed] (by decide) (by decide)
  have declared : DeclaresAt (Text.of "a") (Text.of "// const a = 1\n" ++ Text.of "const a = 2") 3 := by
    refine ⟨by decide +kernel, Text.of " 1\nconst a = 2", Text.of "const", by decide, [0x20], [0x20], ?_⟩
    decide
  have first : ∀ earlier < 3,
      ¬DeclaresAt (Text.of "a") (Text.of "// const a = 1\n" ++ Text.of "const a = 2") earlier := by
    have none : ∀ earlier < 3, ∀ declarator ∈ declarators, startsWith
        ((Text.of "// const a = 1\n" ++ Text.of "const a = 2").drop earlier) declarator = false := by decide
    rintro earlier bound ⟨-, after, declares⟩
    obtain ⟨declarator, isDeclarator, starts⟩ := declares.start
    exact absurd starts (by simp [none earlier bound declarator isDeclarator])
  obtain ⟨-, -, inComment⟩ := declaredLiteral_comment older (Text.of "const a = 2") (Text.of "a")
  obtain ⟨moved, without, -⟩ := declaredLiteral_comment plain (Text.of "const a = b") (Text.of "a")
  have rest : (Text.of "// const a = 1\n" ++ Text.of "const a = 2").drop 3 = Text.of "const a = 1\nconst a = 2" := by
    decide
  have read : declaredLiteral (Text.of "const a = 1\nconst a = 2") (Text.of "a") = .ok (.int 1) := by cbv
  have refused : declaredLiteral (Text.of "const a = b") (Text.of "a") =
      .error (.malformed .unsupportedExpression 10) := by decide +kernel
  refine ⟨by cbv, ?_, refused, ?_⟩
  · rw [(inComment 3 (by decide) declared first).1, rest, read]
    rfl
  · rw [moved (without (by decide)), refused]
    rfl

end UrlRules.Script
