import Mathlib.Data.List.Infix
import UrlRules.Script.Token

/-!
# Gaps in scripts

Between tokens stand blanks and comments. A `Gap` is skipped whatever follows it (`skip_gap`), and
skipping ends where neither a blank nor a comment starts (`skip_solid`). It fails only where a comment is
not closed (`skip_of_closed`).
-/
namespace UrlRules.Script

open Text

variable {g s rest : Text} {c : CodePoint}

/-- The end mark of a comment. -/
def endMark : Text := [0x2A, 0x2F]

/-- Blanks and comments: from two slashes to the end of the line, or between slashes with stars. -/
inductive Gap : Text → Prop
  | nil : Gap []
  | blank {c : CodePoint} {g : Text} (isBlank : isBlank c = true) (others : Gap g) : Gap (c :: g)
  | line {body g : Text} (inLine : lineFeed ∉ body) (others : Gap g) :
      Gap (0x2F :: 0x2F :: (body ++ lineFeed :: g))
  | block {body g : Text} (unended : ¬endMark <:+: body) (others : Gap g) :
      Gap (0x2F :: 0x2A :: (body ++ (endMark ++ g)))

/-- A comment is opened and never closed. -/
def UnclosedComment (s : Text) : Prop :=
  ∃ g body, Gap g ∧ s = g ++ 0x2F :: 0x2A :: body ∧ ¬endMark <:+: body

/-- Neither a blank nor a comment starts here. -/
structure Solid (s : Text) : Prop where
  head_not_blank : ∀ c ∈ s.head?, isBlank c = false
  no_line : s.take 2 ≠ [0x2F, 0x2F]
  no_block : s.take 2 ≠ [0x2F, 0x2A]

theorem solid_nil : Solid [] := ⟨by simp, by simp, by simp⟩

theorem solid_cons (apart : isBlank c = false) (slash : c ≠ 0x2F) (s : Text) : Solid (c :: s) :=
  ⟨by simpa using apart, by simp [slash], by simp [slash]⟩

/-! ## Comments -/

theorem startsWith_pair (a b : CodePoint) (s : Text) :
    startsWith s [a, b] = true ↔ s.take 2 = [a, b] := by
  unfold startsWith
  rcases s with _ | ⟨c, _ | ⟨d, s⟩⟩
  · simp [dropLead?]
  · by_cases first : a = c <;> simp [dropLead?, first]
  · by_cases first : a = c <;> by_cases second : b = d <;>
      simp [dropLead?, first, second, @eq_comm _ c a, @eq_comm _ d b]

theorem afterLine_append {body : Text} (inLine : lineFeed ∉ body) (s : Text) :
    afterLine (body ++ lineFeed :: s) = s := by
  induction body with
  | nil => simp [afterLine]
  | cons c body ih =>
    obtain ⟨other, inLine⟩ := List.ne_and_not_mem_of_not_mem_cons inLine
    simp [afterLine, Ne.symm other, ih inLine]

theorem afterLine_of_not_mem {body : Text} (inLine : lineFeed ∉ body) : afterLine body = [] := by
  induction body with
  | nil => rfl
  | cons c body ih =>
    obtain ⟨other, inLine⟩ := List.ne_and_not_mem_of_not_mem_cons inLine
    simp [afterLine, Ne.symm other, ih inLine]

theorem suffix_afterLine (s : Text) : afterLine s <:+ s := by
  induction s with
  | nil => exact List.suffix_rfl
  | cons c s ih =>
    unfold afterLine
    split
    · exact List.suffix_cons c s
    · exact ih.trans (List.suffix_cons c s)

theorem afterComment?_append {body : Text} (unended : ¬endMark <:+: body) (s : Text) :
    afterComment? (body ++ (endMark ++ s)) = some s := by
  induction body with
  | nil => rfl
  | cons c body ih =>
    have others := ih fun inside => unended (inside.trans (List.suffix_cons c body).isInfix)
    cases body with
    | nil => simp [afterComment?, endMark]
    | cons d body =>
      have apart : ¬(c = 0x2A ∧ d = 0x2F) := by
        rintro ⟨rfl, rfl⟩
        exact unended (List.prefix_append endMark body).isInfix
      simpa [afterComment?, apart] using others

/-- A comment that has no end holds no end mark. -/
theorem not_infix_of_afterComment? (unended : afterComment? s = none) : ¬endMark <:+: s := by
  rintro ⟨before, after, rfl⟩
  induction before with
  | nil => cases unended
  | cons c before ih =>
    refine ih ?_
    rcases before with _ | ⟨d, before⟩ <;>
      · simp only [List.cons_append, List.nil_append, endMark, afterComment?] at unended
        split at unended
        next => cases unended
        next => exact unended

/-- A comment that ends is a body without the end mark, the mark and the rest. -/
theorem exists_of_afterComment? (found : afterComment? s = some rest) :
    ∃ body, ¬endMark <:+: body ∧ s = body ++ (endMark ++ rest) := by
  fun_induction afterComment? s with
  | case1 => cases found
  | case2 => cases found
  | case3 c d rest' ended =>
    obtain ⟨rfl, rfl⟩ := ended
    obtain rfl := Option.some.inj found
    exact ⟨[], by simp [endMark], rfl⟩
  | case4 c d rest' apart ih =>
    obtain ⟨body, unended, same⟩ := ih found
    refine ⟨c :: body, fun inside => ?_, by rw [same, List.cons_append]⟩
    rcases List.infix_cons_iff.mp inside with first | later
    · -- The mark would start at `c`, and what follows `c` starts with `d`.
      obtain ⟨after, mark⟩ := first
      obtain ⟨rfl, rfl⟩ := List.cons.inj mark
      exact apart ⟨rfl, (List.cons.inj same).1⟩
    · exact unended later

theorem length_afterComment? (found : afterComment? s = some rest) : rest.length ≤ s.length := by
  fun_induction afterComment? s with
  | case1 => cases found
  | case2 => cases found
  | case3 c d rest' ended =>
    obtain rfl := Option.some.inj found
    simp only [List.length_cons]
    omega
  | case4 c d rest' _ ih =>
    have shorter := ih found
    simp only [List.length_cons] at shorter ⊢
    omega

/-! ## Skipping -/

/-- Fuel for every character is enough. -/
theorem skipBlanks_enough (fuel : Nat) : ∀ s : Text, s.length ≤ fuel → skipBlanks fuel s = skip s := by
  suffices same : ∀ fuel fuel' (s : Text), s.length ≤ fuel → s.length ≤ fuel' →
      skipBlanks fuel s = skipBlanks fuel' s from
    fun s enough => same fuel s.length s enough (Nat.le_refl _)
  intro fuel
  induction fuel with
  | zero =>
    intro fuel' s enough enough'
    obtain rfl := List.length_eq_zero_iff.mp (Nat.le_zero.mp enough)
    cases fuel' <;> rfl
  | succ fuel ih =>
    intro fuel' s enough enough'
    cases s with
    | nil => cases fuel' <;> rfl
    | cons c s =>
      obtain ⟨fuel', rfl⟩ : ∃ n, fuel' = n + 1 := ⟨fuel' - 1, by simp at enough'; omega⟩
      simp only [List.length_cons] at enough enough'
      unfold skipBlanks
      dsimp only
      split
      · exact ih fuel' s (by omega) (by omega)
      split
      next slashes =>
        -- The two slashes are no line feed, so the rest of the line is shorter.
        have shorter := (suffix_afterLine s).length_le
        have passed : afterLine (c :: s) = afterLine s := by
          obtain ⟨rfl, -⟩ : c = 0x2F ∧ _ := List.cons.inj ((startsWith_pair _ _ _).mp slashes)
          rfl
        rw [passed]
        exact ih fuel' _ (by omega) (by omega)
      split
      · split
        next => rfl
        next rest found =>
          have shorter := length_afterComment? found
          simp only [List.length_drop, List.length_cons] at shorter
          exact ih fuel' rest (by omega) (by omega)
      · rfl

theorem skip_blank (isBlank : isBlank c = true) (s : Text) : skip (c :: s) = skip s := by
  simp [skip, skipBlanks, isBlank]

theorem skip_line (s : Text) : skip (0x2F :: 0x2F :: s) = skip (afterLine s) := by
  have shorter := (suffix_afterLine s).length_le
  have step : skip (0x2F :: 0x2F :: s) = skipBlanks (s.length + 1) (afterLine s) := rfl
  rw [step, skipBlanks_enough _ _ (by omega)]

theorem skip_block (found : afterComment? s = some rest) :
    skip (0x2F :: 0x2A :: s) = skip rest := by
  have shorter := length_afterComment? found
  have opened : startsWith (0x2F :: 0x2A :: s) (Text.of "/*") = true := rfl
  have other : startsWith (0x2F :: 0x2A :: s) (Text.of "//") = false := rfl
  have visible : isBlank 0x2F = false := rfl
  rw [skip, List.length_cons, skipBlanks]
  simp only [visible, other, opened, List.drop_succ_cons, List.drop_zero, found, Bool.false_eq_true, if_false,
    if_true]
  exact skipBlanks_enough _ _ (Nat.le_succ_of_le shorter)

theorem skip_solid (solid : Solid s) : skip s = .ok s := by
  cases s with
  | nil => rfl
  | cons c s =>
    have visible := solid.head_not_blank c rfl
    have line : ¬startsWith (c :: s) (Text.of "//") = true := fun starts =>
      solid.no_line ((startsWith_pair _ _ _).mp starts)
    have block : ¬startsWith (c :: s) (Text.of "/*") = true := fun starts =>
      solid.no_block ((startsWith_pair _ _ _).mp starts)
    simp [skip, skipBlanks, visible, line, block]

/-- A gap is skipped, whatever follows it. -/
theorem skip_gap (gap : Gap g) (s : Text) : skip (g ++ s) = skip s := by
  induction gap with
  | nil => rfl
  | blank isBlank _ ih => rw [List.cons_append, skip_blank isBlank, ih]
  | @line body g inLine _ ih =>
    rw [List.cons_append, List.cons_append, skip_line, List.append_assoc, List.cons_append,
      afterLine_append inLine, ih]
  | @block body g unended _ ih =>
    rw [List.cons_append, List.cons_append, List.append_assoc, List.append_assoc,
      skip_block (afterComment?_append unended (g ++ s)), ih]

theorem skip_gap_solid (gap : Gap g) (solid : Solid s) : skip (g ++ s) = .ok s := by
  rw [skip_gap gap, skip_solid solid]

/-- A comment that runs to the end of the text is skipped too. -/
theorem skip_lastLine (gap : Gap g) {body : Text} (inLine : lineFeed ∉ body) :
    skip (g ++ 0x2F :: 0x2F :: body) = .ok [] := by
  rw [skip_gap gap, skip_line, afterLine_of_not_mem inLine]
  rfl

theorem skip_dropWhile (s : Text) : skip (s.dropWhile isBlank) = skip s := by
  induction s with
  | nil => rfl
  | cons c s ih =>
    cases blank : isBlank c with
    | true => rw [List.dropWhile_cons_of_pos blank, ih, skip_blank blank]
    | false => rw [List.dropWhile_cons_of_neg (by simp [blank])]

theorem Gap.append {g' : Text} (gap : Gap g) (gap' : Gap g') : Gap (g ++ g') := by
  induction gap with
  | nil => exact gap'
  | blank isBlank _ ih => exact .blank isBlank ih
  | line inLine _ ih =>
    simp only [List.cons_append, List.append_assoc]
    exact .line inLine ih
  | block unended _ ih =>
    simp only [List.cons_append, List.append_assoc]
    exact .block unended ih

theorem UnclosedComment.after_gap (gap : Gap g) (unclosed : UnclosedComment s) :
    UnclosedComment (g ++ s) := by
  obtain ⟨g', body, gap', rfl, unended⟩ := unclosed
  exact ⟨g ++ g', body, gap.append gap', by rw [List.append_assoc], unended⟩

theorem solid_or_opens (s : Text) :
    Solid s ∨ (∃ c rest, s = c :: rest ∧ isBlank c = true) ∨ (∃ rest, s = 0x2F :: 0x2F :: rest) ∨
      ∃ rest, s = 0x2F :: 0x2A :: rest := by
  have opens {c d : CodePoint} (two : s.take 2 = [c, d]) : ∃ rest, s = c :: d :: rest :=
    ⟨s.drop 2, by rw [← List.take_append_drop 2 s, two]; rfl⟩
  by_cases line : s.take 2 = [0x2F, 0x2F]
  · exact .inr (.inr (.inl (opens line)))
  by_cases block : s.take 2 = [0x2F, 0x2A]
  · exact .inr (.inr (.inr (opens block)))
  cases s with
  | nil => exact .inl solid_nil
  | cons c rest =>
    cases blank : isBlank c with
    | true => exact .inr (.inl ⟨c, rest, rfl, blank⟩)
    | false => exact .inl ⟨by simpa using blank, line, block⟩

/-- Skipping fails only at a comment that is not closed, and else takes a gap off the start. -/
theorem skip_of_closed (closed : ¬UnclosedComment s) :
    ∃ passed after, s = passed ++ after ∧ skip s = .ok after := by
  induction size : s.length using Nat.strong_induction_on generalizing s with
  | h n ih =>
    subst size
    -- A gap at the start can be taken off, as long as it is not empty.
    have step {g rest : Text} (gap : Gap g) (some : g ≠ []) (same : s = g ++ rest) :
        ∃ passed after, s = passed ++ after ∧ skip s = .ok after := by
      subst same
      have shorter : rest.length < (g ++ rest).length := by
        have := List.length_pos_iff.mpr some
        rw [List.length_append]
        omega
      obtain ⟨passed, after, rfl, skipped⟩ :=
        ih _ shorter (fun unclosed => closed (unclosed.after_gap gap)) rfl
      exact ⟨g ++ passed, after, by rw [List.append_assoc], by rw [skip_gap gap, skipped]⟩
    rcases solid_or_opens s with solid | ⟨c, rest, same, blank⟩ | ⟨rest, same⟩ | ⟨rest, same⟩
    · exact ⟨[], s, rfl, skip_solid solid⟩
    · exact step (.blank blank .nil) (by simp) same
    · by_cases ended : lineFeed ∈ rest
      · obtain ⟨body, after, rfl, inLine⟩ := List.eq_append_cons_of_mem ended
        have split : s = 0x2F :: 0x2F :: (body ++ [lineFeed]) ++ after := by simp [same]
        exact step (.line inLine .nil) (by simp) split
      · exact ⟨s, [], by simp, by rw [same]; exact skip_lastLine .nil ended⟩
    · cases found : afterComment? rest with
      | none =>
        exact absurd ⟨[], rest, .nil, same, not_infix_of_afterComment? found⟩ closed
      | some after =>
        obtain ⟨body, unended, rfl⟩ := exists_of_afterComment? found
        have split : s = 0x2F :: 0x2A :: (body ++ (endMark ++ [])) ++ after := by simp [same]
        exact step (.block unended .nil) (by simp) split

end UrlRules.Script
