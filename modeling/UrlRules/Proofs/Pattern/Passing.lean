import Mathlib
import UrlRules.Pattern.Matcher

/-!
# What expressions pass

Alternatives are tried one after the other, so an expression and what comes after it find something exactly if some
way through the expression leads to a point where the goal finds something. An expression that looks only at the
characters it takes passes the texts of a language in this sense (`Passes`): a character passes the characters it
stands for, a sequence the products of its parts (`Passes.mul`), a repeat of a character all texts of such characters
with a length between the bounds (`passes_loopUnits`), and a repeat of an expression without empty texts the star of
its language (`Passes.star`).
-/
namespace UrlRules.Pattern

open scoped Computability

variable {p : Point} {goal : Goal} {body : Goal → Goal} {L M : Language CodePoint} {f : Flags}
  {piece more rest w : Text}

namespace Point

/-- The point after a piece of what is left. -/
def pass (p : Point) (piece rest : Text) : Point :=
  ⟨piece.reverse ++ p.before, rest, p.place + piece.length, p.marks⟩

@[simp] theorem rest_pass (p : Point) (piece rest : Text) : (p.pass piece rest).rest = rest := rfl

@[simp] theorem pass_nil (p : Point) : p.pass [] p.rest = p := rfl

theorem pass_pass (p : Point) (piece more rest rest' : Text) :
    (p.pass piece rest).pass more rest' = p.pass (piece ++ more) rest' := by
  simp [pass, Nat.add_assoc]

theorem step_eq_pass (p : Point) (c : CodePoint) (rest : Text) : p.step c rest = p.pass [c] rest := rfl

/-- Going back over the last character that was passed. -/
theorem back_pass (p : Point) (piece : Text) (c : CodePoint) (rest : Text) :
    (p.pass (piece ++ [c]) rest).back = p.pass piece (c :: rest) := by
  simp [pass, back, ← Nat.add_assoc]

end Point

/-- An expression and what comes after it find something exactly if the goal finds something after some text of a
language. -/
def Passes (body : Goal → Goal) (L : Language CodePoint) : Prop :=
  ∀ (goal : Goal) (p : Point), (body goal p).isSome ↔
    ∃ piece ∈ L, ∃ rest, p.rest = piece ++ rest ∧ (goal (p.pass piece rest)).isSome

theorem passes_nothing : Passes (fun goal => goal) 1 := by
  intro goal p
  simp

/-- An expression before a goal that passes further texts wherever the expression leads to. -/
theorem Passes.before (first : Passes body L) {next : Goal}
    (onward : ∀ piece ∈ L, ∀ rest, p.rest = piece ++ rest → ((next (p.pass piece rest)).isSome ↔
      ∃ more ∈ M, ∃ rest', rest = more ++ rest' ∧ (goal ((p.pass piece rest).pass more rest')).isSome)) :
    (body next p).isSome ↔ ∃ piece ∈ L * M, ∃ rest, p.rest = piece ++ rest ∧ (goal (p.pass piece rest)).isSome := by
  rw [first]
  constructor
  · rintro ⟨piece, inL, rest, split, found⟩
    obtain ⟨more, inM, rest', rfl, found⟩ := (onward piece inL rest split).mp found
    exact ⟨piece ++ more, Language.append_mem_mul inL inM, rest', by rw [split, List.append_assoc],
      by rwa [Point.pass_pass] at found⟩
  · rintro ⟨_, ⟨piece, inL, more, inM, rfl⟩, rest, split, found⟩
    have split : p.rest = piece ++ (more ++ rest) := by rw [split, List.append_assoc]
    exact ⟨piece, inL, more ++ rest, split,
      (onward piece inL _ split).mpr ⟨more, inM, rest, rfl, by rwa [Point.pass_pass]⟩⟩

theorem Passes.mul {after : Goal → Goal} (first : Passes body L) (second : Passes after M) :
    Passes (fun goal => body (after goal)) (L * M) :=
  fun _ _ => first.before fun _ _ _ _ => second _ _

/-- An expression for one character passes the characters it stands for. -/
theorem passes_unit (test : CodePoint → Bool) :
    Passes (fun goal p =>
      match p.rest with
      | [] => none
      | c :: rest => if test c then goal (p.step c rest) else none) {s | ∃ c, s = [c] ∧ test c} := by
  intro goal p
  constructor
  · intro found
    dsimp only at found
    split at found
    · cases found
    next c rest next =>
      split at found
      next holds => exact ⟨[c], ⟨c, rfl, holds⟩, rest, next, found⟩
      next => cases found
  · rintro ⟨_, ⟨c, rfl, holds⟩, rest, split, found⟩
    simp only [split, List.singleton_append, holds, if_true]
    exact found

/-! ## Repeats of one character -/

/-- A piece of characters of a class at the start of a text, of bounded length, and no longer one is there. -/
structure Longest (test : CodePoint → Bool) (bound : Nat) (w text : Text) : Prop where
  within : w.length ≤ bound
  each : ∀ c ∈ w, test c
  longest : ∀ piece, piece <+: text → piece.length ≤ bound → (∀ c ∈ piece, test c) → piece <+: w

/-- Passing units takes the longest piece of them. -/
theorem passUnits_eq (test : CodePoint → Bool) (bound count : Nat) (p : Point) :
    ∃ w rest, p.rest = w ++ rest ∧ Longest test bound w p.rest ∧
      passUnits test bound count p = (count + w.length, p.pass w rest) := by
  induction bound generalizing count p with
  | zero =>
    refine ⟨[], p.rest, rfl, ⟨Nat.le_refl _, by simp, fun piece _ none _ => ?_⟩, rfl⟩
    rw [List.length_eq_zero_iff.mp (Nat.le_zero.mp none)]
  | succ bound ih =>
    unfold passUnits
    split
    next next =>
      exact ⟨[], p.rest, rfl, ⟨Nat.zero_le _, by simp, fun piece first _ _ => next ▸ first⟩, rfl⟩
    next c others next =>
      split
      next holds =>
        obtain ⟨w, rest, split, longest, passed⟩ := ih (count + 1) (p.step c others)
        refine ⟨c :: w, rest, by rw [next, List.cons_append, ← split]; rfl,
          ⟨Nat.succ_le_succ longest.within, List.forall_mem_cons.mpr ⟨holds, longest.each⟩, ?_⟩, ?_⟩
        · rintro (_ | ⟨d, piece⟩) first short each
          · exact List.nil_prefix
          · rw [next, List.cons_prefix_cons] at first
            obtain ⟨rfl, first⟩ := first
            refine (List.prefix_cons_inj d).mpr (longest.longest piece first (Nat.le_of_succ_le_succ short) ?_)
            exact (List.forall_mem_cons.mp each).2
        · rw [passed, Point.step_eq_pass, Point.pass_pass, List.length_cons, Nat.add_assoc, Nat.add_comm 1]
          rfl
      next other =>
        refine ⟨[], p.rest, rfl, ⟨Nat.zero_le _, by simp, ?_⟩, rfl⟩
        rintro (_ | ⟨d, piece⟩) first _ each
        · exact List.nil_prefix
        · rw [next, List.cons_prefix_cons] at first
          exact absurd (first.1 ▸ (List.forall_mem_cons.mp each).1) other

/-- Going back tries the goal after each beginning of what was passed that leaves out few enough characters. -/
theorem isSome_tryBackwards (goal : Goal) (p : Point) (extra : Nat) (w rest : Text) (inside : extra ≤ w.length) :
    (tryBackwards goal extra (p.pass w rest)).isSome ↔
      ∃ piece more, w = piece ++ more ∧ more.length ≤ extra ∧ (goal (p.pass piece (more ++ rest))).isSome := by
  induction extra generalizing w rest with
  | zero =>
    unfold tryBackwards
    constructor
    · intro found
      exact ⟨w, [], by simp, Nat.le_refl _, found⟩
    · rintro ⟨piece, more, rfl, none, found⟩
      obtain rfl := List.length_eq_zero_iff.mp (Nat.le_zero.mp none)
      simpa using found
  | succ extra ih =>
    obtain ⟨piece, c, rfl⟩ : ∃ piece c, w = piece ++ [c] := by
      refine ⟨w.dropLast, w.getLast ?_, (List.dropLast_append_getLast _).symm⟩
      rintro rfl
      simp at inside
    have shorter := ih piece (c :: rest) (by simpa using inside)
    unfold tryBackwards
    cases here : goal (p.pass (piece ++ [c]) rest) with
    | some q =>
      simp only [Option.isSome_some, true_iff]
      exact ⟨piece ++ [c], [], by simp, Nat.zero_le _, by simp [here]⟩
    | none =>
      dsimp only
      rw [Point.back_pass, shorter]
      constructor
      · rintro ⟨first, more, rfl, few, found⟩
        exact ⟨first, more ++ [c], by simp, by simpa using few, by simpa using found⟩
      · rintro ⟨first, more, split, few, found⟩
        -- All of the piece has been tried already, so its last character is left out.
        obtain rfl | ⟨more, d, rfl⟩ := more.eq_nil_or_concat
        · rw [List.append_nil] at split
          rw [← split, List.nil_append, here] at found
          cases found
        · simp only [List.concat_eq_append, ← List.append_assoc] at split few found
          obtain ⟨rfl, last⟩ := List.append_inj' split rfl
          obtain rfl := List.singleton_inj.mp last
          exact ⟨first, more, rfl, by simpa using few, by simpa using found⟩

/-- The texts of a class of characters with a length between two bounds. -/
def runs (test : CodePoint → Bool) (least : Nat) (most : Option Nat) : Language CodePoint :=
  {s | least ≤ s.length ∧ (∀ n ∈ most, s.length ≤ n) ∧ ∀ c ∈ s, test c}

theorem unitRounds_eq (most : Option Nat) (p : Point) (n : Nat) :
    n ≤ unitRounds most p ↔ (∀ m ∈ most, n ≤ m) ∧ n ≤ p.rest.length := by
  cases most <;> simp [unitRounds]

/-- A greedy repeat of a character passes all texts of such characters within its bounds. -/
theorem passes_loopUnits (test : CodePoint → Bool) (least : Nat) (most : Option Nat) :
    Passes (loopUnits test .greedy least most) (runs test least most) := by
  intro goal p
  obtain ⟨w, rest, split, longest, passed⟩ := passUnits_eq test (unitRounds most p) 0 p
  simp only [loopUnits, passed, Nat.zero_add]
  constructor
  · intro found
    split at found
    · cases found
    next enough =>
      obtain ⟨piece, more, rfl, few, found⟩ := (isSome_tryBackwards goal p _ w rest (Nat.sub_le _ _)).mp found
      have bounded := longest.within
      rw [List.length_append] at few enough bounded
      have within := ((unitRounds_eq most p piece.length).mp (by omega)).1
      refine ⟨piece, ⟨by omega, within, fun c member => ?_⟩, more ++ rest, by rw [split, List.append_assoc], found⟩
      exact longest.each c (List.mem_append_left _ member)
  · rintro ⟨piece, ⟨enough, within, each⟩, rest', split', found⟩
    have short : piece.length ≤ unitRounds most p :=
      (unitRounds_eq most p _).mpr ⟨within, by rw [split']; simp⟩
    -- The piece is the beginning of the longest one.
    obtain ⟨more, rfl⟩ := longest.longest piece (split' ▸ List.prefix_append ..) short each
    obtain rfl : more ++ rest = rest' := by
      rw [split, List.append_assoc] at split'
      exact List.append_cancel_left split'
    rw [if_neg (by rw [List.length_append]; omega), isSome_tryBackwards goal p _ _ _ (Nat.sub_le _ _)]
    exact ⟨piece, more, rfl, by rw [List.length_append]; omega, found⟩

/-! ## Repeats of other expressions -/

/-- A lazy repeat with enough rounds left. A round that has passed something starts further on than the one before. -/
theorem isSome_loopLazy (passes : Passes body L) (nonempty : [] ∉ L) (goal : Goal) (left : Nat) (last : Option Nat)
    (p : Point) (enough : p.rest.length < left) (moved : last ≠ some p.place) :
    (loopLazy body goal left last p).isSome ↔
      ∃ piece ∈ L∗, ∃ rest, p.rest = piece ++ rest ∧ (goal (p.pass piece rest)).isSome := by
  induction left generalizing last p with
  | zero => cases enough
  | succ left ih =>
    -- A further round passes one text of the language, and the repeat goes on from there.
    have round : (body (loopLazy body goal left (some p.place)) p).isSome ↔
        ∃ piece ∈ L * L∗, ∃ rest, p.rest = piece ++ rest ∧ (goal (p.pass piece rest)).isSome := by
      refine passes.before fun piece inL rest split => ih (some p.place) (p.pass piece rest) ?_ ?_
      all_goals
        have passed : 0 < piece.length := List.length_pos_iff.mpr fun empty => nonempty (empty ▸ inL)
      · rw [split, List.length_append] at enough
        rw [Point.rest_pass]
        omega
      · simp only [Point.pass, ne_eq, Option.some.injEq]
        omega
    unfold loopLazy
    rw [← Language.one_add_self_mul_kstar_eq_kstar]
    cases here : goal p with
    | some q =>
      simp only [Option.isSome_some, true_iff]
      exact ⟨[], .inl rfl, p.rest, rfl, by simp [here]⟩
    | none =>
      simp only [if_neg moved, round]
      constructor
      · rintro ⟨piece, inside, found⟩
        exact ⟨piece, .inr inside, found⟩
      · rintro ⟨piece, rfl | inside, rest, split, found⟩
        · obtain rfl : p.rest = rest := split
          rw [Point.pass_nil, here] at found
          cases found
        · exact ⟨piece, inside, rest, split, found⟩

/-- A lazy repeat of an expression that passes no empty text passes any number of its texts. -/
theorem Passes.star (passes : Passes body L) (nonempty : [] ∉ L) : Passes (loopRounds body .lazy 0 none) L∗ := by
  intro goal p
  exact isSome_loopLazy passes nonempty goal _ none p (Nat.lt_succ_self _) nofun

end UrlRules.Pattern
