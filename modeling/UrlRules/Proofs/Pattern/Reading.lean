import Mathlib
import UrlRules.Pattern.Reader

/-!
# Reading patterns step by step

What one token of a pattern does to the parts of a sequence read so far, one lemma for each kind of token. A text
that is spelled by plain characters and escapes is read as its characters (`readSequence_spelled`).
-/
namespace UrlRules.Pattern.Reader

open Text

variable {s : State} {c : CodePoint} {rest text literal : Text} {fuel : Nat} {first : Bool} {items before : List Item}
  {item : Item}

/-- The state before a text that is left to read. -/
def State.at (s : State) (rest : Text) : State := { s with rest }

@[simp] theorem State.rest_at (s : State) (rest : Text) : (s.at rest).rest = rest := rfl

theorem run_bind_ok {α β : Type} {x : Reading α} {a : α} {s' : State} (ran : x.run s = .ok (a, s'))
    (f : α → Reading β) : (x >>= f).run s = (f a).run s' := by
  rw [StateT.run_bind, ran]
  rfl

/-! ## Tokens -/

theorem run_peek (s : State) : peek.run s = .ok (tokenAt s.rest, s) := rfl

theorem run_place (s : State) : place.run s = .ok (s.total - s.rest.length, s) := rfl

theorem run_get (s : State) : (get : Reading State).run s = .ok (s, s) := rfl

/-- A lone backslash must not be left. -/
theorem run_moveTo (whole : rest ≠ [backslash]) (s : State) : (moveTo rest).run s = .ok ((), s.at rest) := by
  unfold moveTo
  rw [if_neg whole]
  rfl

theorem run_skip (token : Text) (whole : rest ≠ [backslash]) :
    (skip token.length).run (s.at (token ++ rest)) = .ok ((), s.at rest) := by
  unfold skip
  rw [run_bind_ok (run_get _), State.rest_at, List.drop_left]
  exact run_moveTo whole _

theorem run_skip_one (c : CodePoint) (whole : rest ≠ [backslash]) :
    (skip 1).run (s.at (c :: rest)) = .ok ((), s.at rest) := run_skip [c] whole

theorem tokenAt_cons (plain : c ≠ backslash) (rest : Text) : tokenAt (c :: rest) = [c] := by
  cases rest with
  | nil => rfl
  | cons d rest => rw [tokenAt, if_neg plain]

theorem run_peek_cons (plain : c ≠ backslash) (s : State) :
    peek.run (s.at (c :: rest)) = .ok ([c], s.at (c :: rest)) := by
  rw [run_peek, State.rest_at, tokenAt_cons plain]

theorem run_takeIf_same (plain : c ≠ backslash) (whole : rest ≠ [backslash]) :
    (takeIf c).run (s.at (c :: rest)) = .ok (true, s.at rest) := by
  unfold takeIf
  rw [run_bind_ok (run_peek_cons plain s), if_pos rfl, run_bind_ok (run_skip_one c whole)]
  rfl

/-! ## Parts of a sequence -/

/-- The characters that have a meaning outside sets. -/
def signs : Text := Text.of "\\|()[?*+\x7b.^$"

/-- A character that stands for itself. -/
theorem readSequence_plain (plain : c ∉ signs) (whole : rest ≠ [backslash]) :
    (readSequence (fuel + 1) first false items).run (s.at (c :: rest)) =
      (readSequence fuel first false (.single (.char c) :: items)).run (s.at rest) := by
  have ordinary : c ≠ backslash := fun same => plain (same ▸ by decide)
  have signs : signs = [0x5C, 0x7C, 0x28, 0x29, 0x5B, 0x3F, 0x2A, 0x2B, 0x7B, 0x2E, 0x5E, 0x24] := by decide
  simp only [signs, List.mem_cons, List.not_mem_nil, or_false, not_or] at plain
  rw [readSequence, run_bind_ok (run_peek_cons ordinary s), if_neg (by simp [endsSequence, plain]),
    List.length_singleton, run_bind_ok (run_skip_one c whole)]
  simp [plain, isRepeatStart]

/-- A character after a backslash that stands for itself. -/
def isEscapable (c : CodePoint) : Bool := !isAsciiDigit c && !isAsciiLetter c

section Escapable

variable (escapable : isEscapable c)
include escapable

theorem ne_of_escapable {d : CodePoint} (other : isEscapable d = false) : c ≠ d := by
  rintro rfl
  rw [other] at escapable
  cases escapable

theorem anchorEscape?_of_escapable : anchorEscape? c = none := by
  have ne := fun d other => ne_of_escapable escapable (d := d) other
  simp [anchorEscape?, ne 0x41 rfl, ne 0x5A rfl, ne 0x62 rfl, ne 0x42 rfl]

theorem categoryEscape?_of_escapable : categoryEscape? c = none := by
  have ne := fun d other => ne_of_escapable escapable (d := d) other
  simp [categoryEscape?, ne 0x64 rfl, ne 0x44 rfl, ne 0x73 rfl, ne 0x53 rfl, ne 0x77 rfl, ne 0x57 rfl]

theorem controlEscape?_of_escapable : controlEscape? c = if c = backslash then some backslash else none := by
  have ne := fun d other => ne_of_escapable escapable (d := d) other
  simp [controlEscape?, ne 0x61 rfl, ne 0x62 rfl, ne 0x66 rfl, ne 0x6E rfl, ne 0x72 rfl, ne 0x74 rfl, ne 0x76 rfl]

theorem readCode?_of_escapable (escape : Text) : readCode? escape c = pure none := by
  have ne := fun d other => ne_of_escapable escapable (d := d) other
  simp [readCode?, ne 0x78 rfl, ne 0x75 rfl, ne 0x55 rfl, ne 0x4E rfl]

theorem run_readEscape (s : State) : (readEscape [backslash, c]).run s = .ok (.char c, s) := by
  have zero : c ≠ 0x30 := ne_of_escapable escapable rfl
  have other : isAsciiDigit c = false ∧ isAsciiLetter c = false := by simpa [isEscapable] using escapable
  have second : [backslash, c].getD 1 0 = c := rfl
  simp only [readEscape, second, anchorEscape?_of_escapable escapable, categoryEscape?_of_escapable escapable,
    controlEscape?_of_escapable escapable, readCode?_of_escapable escapable]
  by_cases same : c = backslash
  · rw [if_pos same, same]
    rfl
  · rw [if_neg same]
    simp [zero, other]
    rfl

end Escapable

theorem readSequence_escape (escapable : isEscapable c) (whole : rest ≠ [backslash]) :
    (readSequence (fuel + 1) first false items).run (s.at (backslash :: c :: rest)) =
      (readSequence fuel first false (.single (.char c) :: items)).run (s.at rest) := by
  have peeked : peek.run (s.at (backslash :: c :: rest)) = .ok ([backslash, c], s.at (backslash :: c :: rest)) := rfl
  have skipped : (skip [backslash, c].length).run (s.at (backslash :: c :: rest)) = .ok ((), s.at rest) :=
    run_skip [backslash, c] whole
  rw [readSequence, run_bind_ok peeked, if_neg (by simp [endsSequence]), run_bind_ok skipped]
  simp only
  rw [run_bind_ok (run_readEscape escapable _)]
  rfl

/-- A lazy repeat of a group, with any number of rounds. -/
theorem readSequence_lazyStar (whole : rest ≠ [backslash]) (nodes : List Node) :
    (readSequence (fuel + 1) first false (.plain nodes :: before)).run (s.at (0x2A :: 0x3F :: rest)) =
      (readSequence fuel first false (.single (.loop .lazy 0 none (Node.ofList nodes)) :: before)).run (s.at rest) := by
  have greed : readGreed.run (s.at (0x3F :: rest)) = .ok (.lazy, s.at rest) := by
    unfold readGreed
    rw [run_bind_ok (run_takeIf_same (by decide) whole)]
    rfl
  have repeated (opened : Nat) :
      (repeatLast (.plain nodes :: before) [0x2A] opened (0, none)).run (s.at (0x3F :: rest)) =
        .ok (.single (.loop .lazy 0 none (Node.ofList nodes)) :: before, s.at rest) := by
    unfold repeatLast
    rw [run_bind_ok (run_place _)]
    dsimp only
    rw [run_bind_ok greed]
    rfl
  have bounds : (readRepeat? 0x2A).run (s.at (0x3F :: rest)) = .ok (some (0, none), s.at (0x3F :: rest)) := rfl
  have further : 0x3F :: rest ≠ [backslash] := fun same => absurd (List.cons.inj same).1 (by decide)
  rw [readSequence, run_bind_ok (run_peek_cons (by decide) s), if_neg (by decide), List.length_singleton,
    run_bind_ok (run_skip_one _ further)]
  simp only [Bool.false_and, Bool.false_eq_true, if_false]
  rw [if_neg (by decide), if_pos (by decide), run_bind_ok (run_place _), run_bind_ok bounds]
  dsimp only
  rw [run_bind_ok (repeated _)]

/-- Text that is spelled in a pattern by plain characters and escapes. -/
inductive Spells : Text → Text → Prop
  | nil : Spells [] []
  | plain {c : CodePoint} {text literal : Text} (plain : c ∉ signs) (others : Spells text literal) :
      Spells (c :: text) (c :: literal)
  | escape {c : CodePoint} {text literal : Text} (escapable : isEscapable c) (others : Spells text literal) :
      Spells (backslash :: c :: text) (c :: literal)

theorem Spells.whole (spells : Spells text literal) (whole : rest ≠ [backslash]) : text ++ rest ≠ [backslash] := by
  cases spells with
  | nil => exact whole
  | plain plain others =>
    intro same
    obtain ⟨rfl, -⟩ := List.cons.inj same
    exact plain (by decide)
  | escape => simp

theorem Spells.length_le (spells : Spells text literal) : literal.length ≤ text.length := by
  induction spells with
  | nil => exact Nat.le_refl _
  | plain _ _ ih => exact Nat.succ_le_succ ih
  | escape _ _ ih => exact Nat.le_succ_of_le (Nat.succ_le_succ ih)

/-- Spelled text is read as its characters. -/
theorem readSequence_spelled (spells : Spells text literal) (whole : rest ≠ [backslash]) (items : List Item) :
    (readSequence (fuel + literal.length) first false items).run (s.at (text ++ rest)) =
      (readSequence fuel first false ((literal.map fun c => .single (.char c)).reverse ++ items)).run (s.at rest) := by
  induction spells generalizing items with
  | nil => rfl
  | plain plain others ih =>
    rw [List.length_cons, ← Nat.add_assoc, List.cons_append, readSequence_plain plain (others.whole whole), ih]
    simp
  | escape escapable others ih =>
    rw [List.length_cons, ← Nat.add_assoc, List.cons_append, List.cons_append,
      readSequence_escape escapable (others.whole whole), ih]
    simp

end UrlRules.Pattern.Reader
