import Mathlib.Data.List.Basic
import UrlRules.Pattern.Matcher

/-!
# Matching moves on

A point stands on a text if what is before it and what is left make up the text (`Point.On`). Looking back goes
to points before, but what comes after an expression is always matched at a point of the same text that is not
before the one where the expression was tried: every expression is `Onward` (`Node.run_onward`).
-/
namespace UrlRules.Pattern

variable {s subject piece : Text} {p q : Point} {f : Flags} {test : CodePoint → Bool} {goal : Goal}
  {body : Goal → Goal} {count extra least n left : Nat}

namespace Point

/-- What is before a point and what is left make up a text, and its place is their boundary. -/
structure On (s : Text) (p : Point) : Prop where
  whole : p.before.reverse ++ p.rest = s
  place_eq : p.place = p.before.length

/-- The second point stands on the text, and is not before the first one. -/
structure Later (s : Text) (p q : Point) : Prop where
  on : q.On s
  le : p.place ≤ q.place

theorem Later.trans {p p' p'' : Point} (first : Later s p p') (second : Later s p' p'') : Later s p p'' :=
  ⟨second.on, Nat.le_trans first.le second.le⟩

theorem On.step (on : p.On s) {c : CodePoint} {rest : Text} (next : p.rest = c :: rest) :
    (p.step c rest).On s :=
  ⟨by simp [Point.step, ← on.whole, next], by simp [Point.step, on.place_eq]⟩

/-- Going back loses at most one place. -/
theorem On.back (on : p.On s) : p.back.On s ∧ p.place ≤ p.back.place + 1 := by
  unfold Point.back
  split
  · exact ⟨on, Nat.le_succ _⟩
  next c before given =>
    have place := on.place_eq
    have whole := on.whole
    rw [given] at place whole
    simp only [List.length_cons] at place
    exact ⟨⟨by simpa using whole, by simp [place]⟩, by simp [place]⟩

theorem On.backBy (on : p.On s) (n : Nat) : (p.backBy n).On s := by
  induction n generalizing p with
  | zero => exact on
  | succ n ih => exact ih on.back.1

/-- What the groups have captured does not matter. -/
theorem On.marked (on : p.On s) (marks : List Mark) : { p with marks }.On s := ⟨on.whole, on.place_eq⟩

theorem On.length_le (on : p.On s) : p.place ≤ s.length := by
  rw [← on.whole, on.place_eq]
  simp

end Point

open Point

/-- Whatever is found by an expression and what comes after it, the latter has found at a point of the same text
that is not before the one where the expression was tried. -/
def Onward (s : Text) (body : Goal → Goal) : Prop :=
  ∀ ⦃goal : Goal⦄ ⦃p q : Point⦄, p.On s → body goal p = some q → ∃ p', Later s p p' ∧ goal p' = some q

/-- Alone an expression finds a point after the one where it is tried. -/
theorem Onward.alone (onward : Onward s body) (on : p.On s) (found : body some p = some q) : Later s p q := by
  obtain ⟨p', later, same⟩ := onward on found
  exact Option.some.inj same ▸ later

/-- Going on to the goal at once. -/
theorem reached_here (on : p.On s) (found : goal p = some q) : ∃ p', Later s p p' ∧ goal p' = some q :=
  ⟨p, ⟨on, Nat.le_refl _⟩, found⟩

/-- Going on to the goal from a later point. -/
theorem reached_after {p p' : Point} (later : Later s p p') (found : ∃ p'', Later s p' p'' ∧ goal p'' = some q) :
    ∃ p'', Later s p p'' ∧ goal p'' = some q := by
  obtain ⟨p'', onward, reached⟩ := found
  exact ⟨p'', later.trans onward, reached⟩

/-! ## Repeats of one character -/

theorem later_step (on : p.On s) {c : CodePoint} {rest : Text} (next : p.rest = c :: rest) :
    Later s p (p.step c rest) :=
  ⟨on.step next, Nat.le_succ _⟩

/-- Each character that is passed is one place further. -/
theorem passUnits_on (on : p.On s) (test : CodePoint → Bool) (left count : Nat) :
    (passUnits test left count p).2.On s ∧
      (passUnits test left count p).2.place + count = p.place + (passUnits test left count p).1 := by
  induction left generalizing p count with
  | zero => exact ⟨on, rfl⟩
  | succ left ih =>
    unfold passUnits
    split
    · exact ⟨on, rfl⟩
    next c rest next =>
      split
      · obtain ⟨on', places⟩ := ih (on.step next) (count + 1)
        exact ⟨on', by simp only [Point.step] at places ⊢; omega⟩
      · exact ⟨on, rfl⟩

theorem tryBackwards_on (on : p.On s) (found : tryBackwards goal extra p = some q) :
    ∃ p', p'.On s ∧ p.place ≤ p'.place + extra ∧ goal p' = some q := by
  induction extra generalizing p with
  | zero => exact ⟨p, on, Nat.le_refl _, found⟩
  | succ extra ih =>
    unfold tryBackwards at found
    split at found
    next first =>
      obtain rfl := Option.some.inj found
      exact ⟨p, on, by omega, first⟩
    next =>
      obtain ⟨p', on', near, reached⟩ := ih on.back.1 found
      have step := on.back.2
      exact ⟨p', on', by omega, reached⟩

theorem tryForwards_on (on : p.On s) (found : tryForwards test goal left p = some q) :
    ∃ p', Later s p p' ∧ goal p' = some q := by
  induction left generalizing p with
  | zero => exact reached_here on found
  | succ left ih =>
    unfold tryForwards at found
    split at found
    next first =>
      obtain rfl := Option.some.inj found
      exact reached_here on first
    next =>
      split at found
      · cases found
      next c rest next =>
        split at found
        · exact reached_after (later_step on next) (ih (on.step next) found)
        · cases found

theorem loopUnits_onward (test : CodePoint → Bool) (greed : Greed) (least : Nat) (most : Option Nat) :
    Onward s (loopUnits test greed least most) := by
  intro goal p q on found
  obtain ⟨passed, places⟩ := passUnits_on on test (unitRounds most p) 0
  unfold loopUnits at found
  cases greed with
  | greedy =>
    dsimp only at found
    split at found
    · cases found
    next enough =>
      obtain ⟨p', on', near, reached⟩ := tryBackwards_on passed found
      exact ⟨p', ⟨on', by omega⟩, reached⟩
  | possessive =>
    dsimp only at found
    split at found
    · cases found
    · exact ⟨_, ⟨passed, by omega⟩, found⟩
  | lazy =>
    obtain ⟨passed, places⟩ := passUnits_on on test (min least (unitRounds most p)) 0
    dsimp only at found
    split at found
    · cases found
    · exact reached_after ⟨passed, by omega⟩ (tryForwards_on passed found)

/-! ## Repeats of other expressions -/

theorem rounds_onward (onward : Onward s body) (n : Nat) : Onward s (rounds body n) := by
  induction n with
  | zero => exact fun goal p q on found => reached_here on found
  | succ n ih =>
    intro goal p q on found
    obtain ⟨p', later, reached⟩ := onward on found
    exact reached_after later (ih later.on reached)

theorem loopGreedy_onward (onward : Onward s body) (left : Nat) (last : Option Nat) :
    Onward s fun goal => loopGreedy body goal left last := by
  induction left generalizing last with
  | zero => exact fun goal p q on found => reached_here on found
  | succ left ih =>
    intro goal p q on found
    dsimp only at found
    unfold loopGreedy at found
    split at found
    · exact reached_here on found
    · split at found
      next round =>
        obtain rfl := Option.some.inj found
        obtain ⟨p', later, reached⟩ := onward on round
        exact reached_after later (ih _ later.on reached)
      next => exact reached_here on found

theorem loopLazy_onward (onward : Onward s body) (left : Nat) (last : Option Nat) :
    Onward s fun goal => loopLazy body goal left last := by
  induction left generalizing last with
  | zero => exact fun goal p q on found => reached_here on found
  | succ left ih =>
    intro goal p q on found
    dsimp only at found
    unfold loopLazy at found
    split at found
    next first =>
      obtain rfl := Option.some.inj found
      exact reached_here on first
    next =>
      split at found
      · cases found
      · obtain ⟨p', later, reached⟩ := onward on found
        exact reached_after later (ih _ later.on reached)

theorem loopPossessive_onward (onward : Onward s body) (left : Nat) (last : Option Nat) :
    Onward s fun goal => loopPossessive body goal left last := by
  induction left generalizing last with
  | zero => exact fun goal p q on found => reached_here on found
  | succ left ih =>
    intro goal p q on found
    dsimp only at found
    unfold loopPossessive at found
    split at found
    · exact reached_here on found
    · split at found
      next round =>
        have later := onward.alone on round
        exact reached_after later (ih _ later.on found)
      next => exact reached_here on found

theorem roundsPossessive_later (onward : Onward s body) (on : p.On s)
    (found : roundsPossessive body n p = some q) : Later s p q := by
  induction n generalizing p with
  | zero => exact Option.some.inj found ▸ ⟨on, Nat.le_refl _⟩
  | succ n ih =>
    unfold roundsPossessive at found
    split at found
    next round =>
      have later := onward.alone on round
      exact later.trans (ih later.on found)
    next => cases found

theorem loopRounds_onward (onward : Onward s body) (greed : Greed) (least : Nat) (most : Option Nat) :
    Onward s (loopRounds body greed least most) := by
  intro goal p q on found
  unfold loopRounds at found
  cases greed with
  | greedy =>
    obtain ⟨p', later, reached⟩ := rounds_onward onward least on found
    exact reached_after later (loopGreedy_onward onward _ _ later.on reached)
  | lazy =>
    obtain ⟨p', later, reached⟩ := rounds_onward onward least on found
    exact reached_after later (loopLazy_onward onward _ _ later.on reached)
  | possessive =>
    dsimp only at found
    split at found
    next first =>
      have later := roundsPossessive_later onward on first
      exact reached_after later (loopPossessive_onward onward _ _ later.on found)
    next => cases found

/-! ## All expressions -/

theorem passText_later (on : p.On s) (found : passText f piece p = some q) : Later s p q := by
  induction piece generalizing p with
  | nil => exact Option.some.inj found ▸ ⟨on, Nat.le_refl _⟩
  | cons c piece ih =>
    simp only [passText] at found
    split at found
    · cases found
    next x rest next =>
      cases same : (if f.ignoreCase then f.lower c == f.lower x else c == x) with
      | false => simp [same] at found
      | true =>
        rw [same, if_pos rfl] at found
        exact (later_step on next).trans (ih (on.step next) found)

/-- An expression for one character. -/
theorem unit_onward (test : CodePoint → Bool) :
    Onward s fun goal p =>
      match p.rest with
      | [] => none
      | c :: rest => if test c then goal (p.step c rest) else none := by
  intro goal p q on found
  dsimp only at found
  split at found
  · cases found
  next c rest next =>
    split at found
    · exact reached_after (later_step on next) (reached_here (on.step next) found)
    · cases found

/-- Every expression moves on. -/
theorem Node.run_onward (widths : Nat → Width) (node : Node) (f : Flags) :
    Onward s (node.run subject widths f) := by
  induction node generalizing f with
  | empty => exact fun goal p q on found => reached_here on found
  | char c => exact unit_onward _
  | notChar c => exact unit_onward _
  | any => exact unit_onward _
  | set set => exact unit_onward _
  | anchor a =>
    intro goal p q on found
    simp only [Node.run] at found
    split at found
    · exact reached_here on found
    · cases found
  | backref group =>
    intro goal p q on found
    simp only [Node.run] at found
    split at found
    · cases found
    · obtain ⟨p', passed, reached⟩ := Option.bind_eq_some_iff.mp found
      exact ⟨p', passText_later on passed, reached⟩
  | seq a b first second =>
    intro goal p q on found
    obtain ⟨p', later, reached⟩ := first f on found
    exact reached_after later (second f later.on reached)
  | alt a b first second =>
    intro goal p q on found
    simp only [Node.run] at found
    split at found
    next matched =>
      obtain rfl := Option.some.inj found
      exact first f on matched
    next => exact second f on found
  | group index off on' body ih =>
    intro goal p q on found
    cases index with
    | none => exact ih _ on found
    | some index =>
      obtain ⟨p', later, reached⟩ := ih _ (on.marked _) found
      exact ⟨p'.record index true, ⟨later.on.marked _, later.le⟩, reached⟩
  | atomic body ih =>
    intro goal p q on found
    obtain ⟨p', matched, reached⟩ := Option.bind_eq_some_iff.mp found
    exact ⟨p', (ih f).alone on matched, reached⟩
  | look behind negated body ih =>
    intro goal p q on found
    -- What is looked at lies anywhere; the goal is tried at the point itself.
    simp only [Node.run] at found
    split at found
    next seen _ =>
      split at found
      · cases found
      · exact ⟨{ p with marks := seen.marks }, ⟨on.marked _, Nat.le_refl _⟩, found⟩
    · split at found
      · exact reached_here on found
      · cases found
  | choice group present absent yes no =>
    intro goal p q on found
    simp only [Node.run] at found
    split at found
    · exact yes f on found
    · exact no f on found
  | loop greed least most body ih =>
    intro goal p q on found
    simp only [Node.run] at found
    split at found
    · exact loopUnits_onward _ greed least most on found
    · exact loopRounds_onward (ih f) greed least most on found

end UrlRules.Pattern
