import UrlRules.Proofs.Results
import UrlRules.Proofs.Script.NumberValues

/-!
# Tokens that are read

Whatever a reader of tokens takes off the start of a text is a token of the grammar, and what is left is
what follows it: texts (`readText_ok`), regex literals (`readRegex_ok`), scalars (`readScalar_ok`) and keys
(`readKey_ok`). Skipping takes a gap (`skip_ok`).
-/
namespace UrlRules.Script

open Text

variable {quote c : CodePoint} {s t rest digits given name token : Text} {v : Json} {n : Nat}

/-! ## Gaps -/

theorem skip_unclosed (unended : afterComment? s = none) :
    skip (0x2F :: 0x2A :: s) = failAt .unterminatedComment (0x2F :: 0x2A :: s) := by
  have opened : startsWith (0x2F :: 0x2A :: s) (Text.of "/*") = true := rfl
  have other : startsWith (0x2F :: 0x2A :: s) (Text.of "//") = false := rfl
  have visible : isBlank 0x2F = false := rfl
  rw [skip, List.length_cons, skipBlanks]
  simp only [visible, other, opened, List.drop_succ_cons, List.drop_zero, unended, Bool.false_eq_true,
    if_false, if_true]

/-- Skipping takes a gap, and a comment after it that runs to the end of the text. -/
theorem skip_ok (skipped : skip s = .ok rest) :
    (∃ g, Gap g ∧ s = g ++ rest ∧ Solid rest) ∨
      rest = [] ∧ ∃ g body, Gap g ∧ lineFeed ∉ body ∧ s = g ++ 0x2F :: 0x2F :: body := by
  have closed : ¬UnclosedComment s := by
    rintro ⟨g, body, gap, rfl, unended⟩
    cases found : afterComment? body with
    | none =>
      rw [skip_gap gap, skip_unclosed found] at skipped
      cases skipped
    | some after =>
      obtain ⟨inside, -, rfl⟩ := exists_of_afterComment? found
      exact unended ⟨inside, after, by rw [List.append_assoc]⟩
  induction size : s.length using Nat.strong_induction_on generalizing s with
  | h n ih =>
    subst size
    -- A gap at the start can be taken off, as long as it is not empty.
    have step {g after : Text} (gap : Gap g) (some : g ≠ []) (same : s = g ++ after) :
        (∃ g, Gap g ∧ s = g ++ rest ∧ Solid rest) ∨
          rest = [] ∧ ∃ g body, Gap g ∧ lineFeed ∉ body ∧ s = g ++ 0x2F :: 0x2F :: body := by
      subst same
      have shorter : after.length < (g ++ after).length := by
        have := List.length_pos_iff.mpr some
        rw [List.length_append]
        omega
      rw [skip_gap gap] at skipped
      rcases ih _ shorter skipped (fun unclosed => closed (unclosed.after_gap gap)) rfl with
        ⟨g', gap', rfl, solid⟩ | ⟨none, g', body, gap', inLine, rfl⟩
      · exact .inl ⟨g ++ g', gap.append gap', by rw [List.append_assoc], solid⟩
      · exact .inr ⟨none, g ++ g', body, gap.append gap', inLine, by rw [List.append_assoc]⟩
    rcases solid_or_opens s with solid | ⟨c, after, same, blank⟩ | ⟨after, same⟩ | ⟨after, same⟩
    · rw [skip_solid solid] at skipped
      obtain rfl := Except.ok.inj skipped
      exact .inl ⟨[], .nil, rfl, solid⟩
    · exact step (.blank blank .nil) (by simp) same
    · by_cases ended : lineFeed ∈ after
      · obtain ⟨body, after, rfl, inLine⟩ := List.eq_append_cons_of_mem ended
        have split : s = 0x2F :: 0x2F :: (body ++ [lineFeed]) ++ after := by simp [same]
        exact step (.line inLine .nil) (by simp) split
      · rw [same, skip_line, afterLine_of_not_mem ended] at skipped
        exact .inr ⟨(Except.ok.inj skipped).symm, [], after, .nil, ended, same⟩
    · cases found : afterComment? after with
      | none => exact absurd ⟨[], after, .nil, same, not_infix_of_afterComment? found⟩ closed
      | some after =>
        obtain ⟨body, unended, rfl⟩ := exists_of_afterComment? found
        have split : s = 0x2F :: 0x2A :: (body ++ (endMark ++ [])) ++ after := by simp [same]
        exact step (.block unended .nil) (by simp) split

/-- Where something is left after skipping, a gap has been taken and a token starts. -/
theorem skip_cons_ok (skipped : skip s = .ok (c :: rest)) :
    ∃ g, Gap g ∧ s = g ++ c :: rest ∧ Solid (c :: rest) := by
  rcases skip_ok skipped with gap | ⟨none, -⟩
  · exact gap
  · cases none

/-! ## Texts -/

theorem mem_of_shortEscape? {d : CodePoint} (found : shortEscape? c = some d) :
    (c, d) ∈ shortEscapes := by
  have listed : c ∈ shortEscapes.map Prod.fst := by
    by_contra unlisted
    rw [shortEscape?_of_not_mem unlisted] at found
    cases found
  obtain ⟨p, member, rfl⟩ := List.mem_map.mp listed
  rw [shortEscape?_of_mem p member] at found
  obtain rfl := Option.some.inj found
  exact member

theorem not_mem_of_shortEscape? (unlisted : shortEscape? c = none) :
    c ∉ shortEscapes.map Prod.fst := by
  intro member
  obtain ⟨p, listed, rfl⟩ := List.mem_map.mp member
  rw [shortEscape?_of_mem p listed] at unlisted
  cases unlisted

/-- An escape of a fixed number of digits has them all if anything is left after it. -/
theorem readFixed_ok {count : Nat} (read : readFixed count s = .ok (given, rest)) (more : rest ≠ []) :
    ∃ digits c, EscapeDigits digits c ∧ digits.length = count ∧ given = [c] ∧ s = digits ++ rest := by
  obtain ⟨c, number, ended⟩ := bind_eq_ok.mp read
  obtain ⟨rfl, rfl⟩ : [c] = given ∧ s.drop count = rest := by simpa [pure, Except.pure] using ended
  have long : count < s.length := by
    rw [← Nat.not_le]
    exact fun short => more (List.drop_eq_nil_of_le short)
  exact ⟨s.take count, c, characterOf_eq_ok.mp number, by simp; omega, rfl, (List.take_append_drop ..).symm⟩

theorem readEscape_ok (read : readEscape s = .ok (given, rest)) (more : rest ≠ []) :
    ∃ e, EscapeGives e given ∧ s = e ++ rest := by
  unfold readEscape at read
  split at read
  · cases read
  next c s =>
    split at read
    next d found =>
      cases read
      exact ⟨[c], .short (mem_of_shortEscape? found), rfl⟩
    next unlisted =>
      split at read
      next same =>
        cases read
        exact ⟨[lineFeed], .lineFeed, by rw [same]; rfl⟩
      next other =>
        split at read
        next same =>
          obtain ⟨digits, d, number, size, rfl, rfl⟩ := readFixed_ok read more
          exact ⟨_, .two number size, by rw [same]; rfl⟩
        next noX =>
          split at read
          next same =>
            split at read
            next inner =>
              split at read
              · cases read
              next digits after pieces =>
                obtain ⟨d, number, ended⟩ := bind_eq_ok.mp read
                obtain ⟨rfl, rfl⟩ : [d] = given ∧ after = rest := by
                  simpa [pure, Except.pure] using ended
                have closed := not_mem_cut 0x7D inner
                rw [pieces] at closed
                refine ⟨_, .braces (characterOf_eq_ok.mp number) closed, ?_⟩
                simp [same, eq_of_cut pieces]
            · obtain ⟨digits, d, number, size, rfl, rfl⟩ := readFixed_ok read more
              exact ⟨_, .four number size, by rw [same]; rfl⟩
          next noU =>
            cases read
            refine ⟨[c], .itself (not_mem_of_shortEscape? unlisted) ?_, rfl⟩
            simp [other, noX, noU]

theorem EscapeGives.reverse {e : Text} (gives : EscapeGives e given) : given.reverse = given := by
  cases gives <;> rfl

theorem readCharacters_ok {opened fuel : Nat} {read : Text}
    (ended : readCharacters quote opened fuel read s = .ok (t, rest)) :
    ∃ body inside, QuotedBody lineFeeds quote body inside ∧ s = body ++ quote :: rest ∧
      t = read.reverse ++ inside := by
  induction fuel generalizing read s with
  | zero => cases ended
  | succ fuel ih =>
    unfold readCharacters at ended
    split at ended
    · cases ended
    next c s =>
      split at ended
      next same =>
        cases ended
        exact ⟨[], [], .nil, by rw [same]; rfl, by simp⟩
      next apart =>
        split at ended
        next slash =>
          obtain ⟨⟨given, after⟩, escaped, ended⟩ := bind_eq_ok.mp ended
          obtain ⟨body, inside, others, rfl, rfl⟩ := ih ended
          obtain ⟨e, gives, rfl⟩ := readEscape_ok escaped (by simp)
          refine ⟨_, _, .escaped gives others, by simp [slash], ?_⟩
          rw [List.reverse_append, gives.reverse, List.append_assoc]
        next noSlash =>
          split at ended
          · cases ended
          next unopened =>
            split at ended
            · cases ended
            next inLine =>
              obtain ⟨body, inside, others, rfl, rfl⟩ := ih ended
              have stays : c ∈ lineFeeds.breaks → quote = backtick := fun isBreak => by
                by_contra other
                exact inLine ⟨List.mem_singleton.mp isBreak, other⟩
              have plain : quote = backtick → ¬[0x24, 0x7B] <+: c :: body := fun same opens => by
                refine unopened ⟨same, (startsWith_pair ..).mpr ?_⟩
                exact (List.prefix_iff_eq_take.mp (opens.trans (List.prefix_append ..))).symm
              exact ⟨_, _, .raw ⟨apart, noSlash⟩ stays plain others, rfl, by simp⟩

/-- What is read after an opening quote is the body of a text with its closing quote. -/
theorem readText_ok (read : readText quote s = .ok (t, rest)) :
    ∃ body, QuotedBody lineFeeds quote body t ∧ s = body ++ quote :: rest := by
  obtain ⟨body, inside, others, same, rfl⟩ := readCharacters_ok read
  exact ⟨body, others, same⟩

/-! ## Regex literals -/

/-- What may stand before the closing slash of a regex, from inside a class or from outside. -/
def RegexFrom : Bool → Text → Prop
  | false, body => RegexBody lineFeeds body
  | true, body => ∃ items others, ClassBody lineFeeds items ∧ RegexBody lineFeeds others ∧
      body = items ++ 0x5D :: others

theorem RegexFrom.escaped {inClass : Bool} {body : Text} (from' : RegexFrom inClass body) :
    RegexFrom inClass (backslash :: c :: body) := by
  cases inClass with
  | false => exact RegexBody.escaped (by simp [lineFeeds]) from'
  | true =>
    obtain ⟨items, others, inside, after, rfl⟩ := from'
    exact ⟨_, others, .escaped (by simp [lineFeeds]) inside, after, rfl⟩

theorem regexLength?_eq_some {inClass : Bool} (found : regexLength? inClass s = some n) :
    ∃ body after, RegexFrom inClass body ∧ s = body ++ 0x2F :: after ∧ n = body.length + 1 := by
  fun_induction regexLength? inClass s generalizing n with
  | case1 => cases found
  | case2 => cases found
  | case3 inClass d s ih =>
    obtain ⟨m, others, rfl⟩ := Option.map_eq_some_iff.mp found
    obtain ⟨body, after, from', rfl, rfl⟩ := ih others
    exact ⟨_, after, from'.escaped, rfl, rfl⟩
  | case4 => cases found
  | case5 inClass s escape inLine ih =>
    obtain ⟨m, others, rfl⟩ := Option.map_eq_some_iff.mp found
    obtain ⟨_, after, ⟨items, body, inside, outside, rfl⟩, rfl, rfl⟩ := ih others
    refine ⟨0x5B :: (items ++ 0x5D :: body), after, ?_, rfl, rfl⟩
    cases inClass with
    | false => exact .inClass inside outside
    | true => exact ⟨0x5B :: items, body, .plain (by decide) (by decide) inside, outside, rfl⟩
  | case6 inClass s escape inLine opening ih =>
    obtain ⟨m, others, rfl⟩ := Option.map_eq_some_iff.mp found
    obtain ⟨body, after, outside, rfl, rfl⟩ := ih others
    refine ⟨0x5D :: body, after, ?_, rfl, rfl⟩
    cases inClass with
    | false => exact .plain (by decide) (by decide) outside
    | true => exact ⟨[], body, .nil, outside, rfl⟩
  | case7 inClass c s escape inLine opening closing ends =>
    obtain rfl := Option.some.inj found
    obtain ⟨rfl, rfl⟩ : c = 0x2F ∧ inClass = false := by simpa using ends
    exact ⟨[], s, .nil, rfl, rfl⟩
  | case8 inClass c s escape inLine opening closing goesOn ih =>
    obtain ⟨m, others, rfl⟩ := Option.map_eq_some_iff.mp found
    obtain ⟨body, after, from', rfl, rfl⟩ := ih others
    refine ⟨c :: body, after, ?_, rfl, rfl⟩
    have inLine : c ∉ lineFeeds.breaks := by simpa [lineFeeds] using inLine
    cases inClass with
    | false => exact .plain (by simp_all) inLine from'
    | true =>
      obtain ⟨items, body, inside, outside, rfl⟩ := from'
      exact ⟨c :: items, body, .plain (by simp [escape, closing]) inLine inside, outside, rfl⟩

/-- Where no comment starts, the body of a regex is not empty and starts with no star. -/
theorem readRegex_ok (solid : Solid (0x2F :: s)) (read : readRegex (0x2F :: s) = .ok (t, rest)) :
    RegexText lineFeeds t ∧ 0x2F :: s = t ++ rest := by
  unfold readRegex at read
  split at read
  · cases read
  next n found =>
    obtain ⟨body, after, items, rfl, rfl⟩ := regexLength?_eq_some found
    have dropped : (0x2F :: (body ++ 0x2F :: after)).drop (body.length + 1 + 1) = after := by simp
    rw [dropped] at read
    obtain ⟨taken, left⟩ := Prod.mk.inj (Except.ok.inj read)
    have letters : ∀ c ∈ after.takeWhile isAsciiLower, isAsciiLower c = true := fun _ =>
      List.mem_takeWhile_imp
    have whole : 0x2F :: (body ++ 0x2F :: after) =
        (0x2F :: (body ++ 0x2F :: after.takeWhile isAsciiLower)) ++ after.dropWhile isAsciiLower := by
      simp
    have size : (0x2F :: (body ++ 0x2F :: after.takeWhile isAsciiLower)).length =
        body.length + 1 + 1 + (after.takeWhile isAsciiLower).length := by
      simp only [List.length_cons, List.length_append]
      omega
    rw [whole, ← size, List.take_left] at taken
    refine ⟨?_, by rw [← taken, ← left, ← size, whole, List.drop_left]⟩
    rw [← taken]
    cases body with
    | nil => exact absurd rfl solid.no_line
    | cons c body =>
      refine .intro items ?_ letters
      rintro rfl
      exact solid.no_block rfl

/-! ## Scalars and keys -/

theorem word?_ok (found : word? t = some v) : WordValue t v := by
  unfold word? at found
  split at found
  next same =>
    obtain rfl := Option.some.inj found
    exact same ▸ .true
  split at found
  next same =>
    obtain rfl := Option.some.inj found
    exact same ▸ .false
  split at found
  next same =>
    obtain rfl := Option.some.inj found
    exact same ▸ .null
  split at found
  next same =>
    obtain rfl := Option.some.inj found
    exact same ▸ .undefined
  next => cases found

theorem prefix_identifier (s : Text) : identifier s <+: s := by
  unfold identifier
  split
  · split
    · exact List.takeWhile_prefix _
    · exact List.nil_prefix
  · exact List.nil_prefix

theorem identifier_ne_nil (some : identifier s ≠ []) : Identifier (identifier s) := by
  unfold identifier at some ⊢
  split at some
  next c s =>
    split at some
    next start =>
      have part : isIdentifierPart c = true := by rw [isIdentifierPart, start, Bool.true_or]
      rw [if_pos start, List.takeWhile_cons_of_pos part]
      exact .intro start fun d => List.mem_takeWhile_imp
    next => exact absurd rfl some
  next => exact absurd rfl some

/-- What is read as a scalar is one, where no comment starts. -/
theorem readScalar_ok (solid : Solid s) (read : readScalar s = .ok (v, rest)) :
    ∃ t, ScalarText lineFeeds v t ∧ s = t ++ rest := by
  unfold readScalar at read
  split at read
  · cases read
  next c s =>
    split at read
    next isQuote =>
      obtain ⟨⟨t, after⟩, text, ended⟩ := bind_eq_ok.mp read
      obtain ⟨rfl, rfl⟩ := Prod.mk.inj (Except.ok.inj ended)
      obtain ⟨body, inside, rfl⟩ := readText_ok text
      exact ⟨_, .text (by simpa [quotes] using isQuote) inside, by simp⟩
    next =>
      split at read
      next slash =>
        subst slash
        obtain ⟨⟨t, after⟩, regex, ended⟩ := bind_eq_ok.mp read
        obtain ⟨rfl, rfl⟩ := Prod.mk.inj (Except.ok.inj ended)
        obtain ⟨literal, same⟩ := readRegex_ok solid regex
        exact ⟨t, .regex literal, same⟩
      next =>
        dsimp only at read
        split at read
        next digit =>
          obtain ⟨w, number, ended⟩ := bind_eq_ok.mp read
          obtain ⟨rfl, rfl⟩ := Prod.mk.inj (Except.ok.inj ended)
          obtain ⟨token, after, same, size, isToken⟩ := numberLength_ne_zero digit
          rw [size, same, List.take_left] at number
          exact ⟨token, .number (numberOf_ok isToken number), by rw [size, same, List.drop_left]⟩
        next =>
          split at read
          next w found =>
            obtain ⟨rfl, rfl⟩ := Prod.mk.inj (Except.ok.inj read)
            exact ⟨_, .word (word?_ok found), List.prefix_append_drop (prefix_identifier _)⟩
          next => cases read

theorem readKey_ok (read : readKey s = .ok (name, rest)) :
    ∃ k, KeyText lineFeeds name k ∧ s = k ++ rest := by
  unfold readKey at read
  split at read
  · cases read
  next c s =>
    split at read
    next isQuote =>
      obtain ⟨body, inside, rfl⟩ := readText_ok read
      exact ⟨_, .text (List.mem_pair.mpr isQuote) inside, by simp⟩
    next =>
      dsimp only at read
      have token {n : Nat} (size : ∃ k, KeyText lineFeeds k k ∧ k <+: c :: s ∧ n = k.length)
          (read : Except.ok ((c :: s).take n, (c :: s).drop n) = (.ok (name, rest) : Except Failure _)) :
          ∃ k, KeyText lineFeeds name k ∧ c :: s = k ++ rest := by
        obtain ⟨k, key, first, rfl⟩ := size
        obtain ⟨taken, left⟩ := Prod.mk.inj (Except.ok.inj read)
        rw [← List.prefix_iff_eq_take.mp first] at taken
        subst taken
        exact ⟨_, key, by rw [← left, ← List.prefix_append_drop first]⟩
      by_cases none : (identifier (c :: s)).isEmpty = true
      · rw [if_pos none] at read
        split at read
        · cases read
        next digit =>
          obtain ⟨number, after, same, size, isToken⟩ := numberLength_ne_zero digit
          exact token ⟨number, .number isToken, ⟨after, same.symm⟩, size⟩ read
      · have named : identifier (c :: s) ≠ [] := by simpa using none
        rw [if_neg none, if_neg (by simpa using named)] at read
        exact token ⟨_, .identifier (identifier_ne_nil named), prefix_identifier _, rfl⟩ read

theorem expect_ok (taken : expect c s = .ok rest) : ∃ g, Gap g ∧ s = g ++ c :: rest := by
  obtain ⟨after, skipped, ended⟩ := bind_eq_ok.mp taken
  split at ended
  · cases ended
  next d after =>
    split at ended
    next same =>
      obtain rfl := Except.ok.inj ended
      obtain ⟨g, gap, rfl, -⟩ := skip_cons_ok skipped
      exact ⟨g, gap, by rw [same]⟩
    next => cases ended

end UrlRules.Script
