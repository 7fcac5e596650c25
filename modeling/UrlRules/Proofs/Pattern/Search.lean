import Mathlib
import UrlRules.Pattern.Search
import UrlRules.Proofs.Pattern.Advance

/-!
# Searching and erasing

A match lies in the text that is searched, and does not end before it starts (`searchFrom_within`). Erasing goes
from match to match: what is left is a subsequence of the text (`erase_sublist`), shorter by the lengths of the
matches that are erased (`length_erase`). So a text that is left as it is has had none but empty matches
(`erase_eq_self_iff`).
-/
namespace UrlRules.Pattern

open Point

variable {p : Pattern} {subject s before rest : Text} {advance : Bool} {place fuel : Nat} {m : Match}

/-! ## One match -/

/-- A match lies between a place and the end of what is left there. -/
structure Match.Within (m : Match) (place : Nat) (rest : Text) : Prop where
  starts : place ≤ m.first
  ends : m.first ≤ m.last
  inside : m.last ≤ place + rest.length

theorem matchAt_later {point q : Point} (on : point.On s) (found : p.matchAt subject advance point = some q) :
    Later s point q := by
  obtain ⟨p', later, reached⟩ := Node.run_onward p.widthOf p.root p.flags (on.marked []) found
  split at reached
  · cases reached
  · exact Option.some.inj reached ▸ ⟨later.on, later.le⟩

/-- A search finds a match at its place, or one character further on. -/
theorem searchFrom_cases (found : p.searchFrom subject advance before rest place = some m) :
    (∃ q, p.matchAt subject advance ⟨before, rest, place, []⟩ = some q ∧ m = ⟨subject, place, q.place, q.marks⟩) ∨
      ∃ (c : CodePoint) (others : Text), rest = c :: others ∧
        p.searchFrom subject false (c :: before) others (place + 1) = some m := by
  unfold searchFrom at found
  dsimp only at found
  split at found
  next q here =>
    split at here
    · exact .inl ⟨q, here, (Option.some.inj found).symm⟩
    · cases here
  next =>
    split at found
    · cases found
    next c others _ => exact .inr ⟨c, others, rfl, found⟩

/-- A search from the place between two pieces of a text finds a match in the second one. -/
theorem searchFrom_within (boundary : place = before.length)
    (found : p.searchFrom subject advance before rest place = some m) : m.Within place rest := by
  induction rest generalizing advance before place with
  | nil =>
    obtain ⟨q, here, rfl⟩ | ⟨c, others, split, -⟩ := searchFrom_cases found
    · have later := matchAt_later ⟨rfl, boundary⟩ here
      have inside := later.on.length_le
      simp only [List.append_nil, List.length_reverse, ← boundary] at inside
      exact ⟨Nat.le_refl _, later.le, by simpa using inside⟩
    · cases split
  | cons c rest ih =>
    obtain ⟨q, here, rfl⟩ | ⟨d, others, split, later⟩ := searchFrom_cases found
    · have later := matchAt_later ⟨rfl, boundary⟩ here
      have inside := later.on.length_le
      simp only [List.length_append, List.length_reverse, ← boundary] at inside
      exact ⟨Nat.le_refl _, later.le, inside⟩
    · obtain ⟨rfl, rfl⟩ := List.cons.inj split
      obtain ⟨starts, ends, inside⟩ := ih (by simp [boundary]) later
      exact ⟨by omega, ends, by simp only [List.length_cons]; omega⟩

/-! ## All matches -/

/-- The number of characters of a match. -/
def Match.length (m : Match) : Nat := m.last - m.first

/-- The matches that are erased from a place on, in their order. -/
def erasedFrom (p : Pattern) (subject : Text) : Nat → Bool → Text → Text → Nat → List Match
  | 0, _, _, _, _ => []
  | fuel + 1, advance, before, rest, place =>
      match p.searchFrom subject advance before rest place with
      | none => []
      | some m =>
          m :: erasedFrom p subject fuel (m.first == m.last) ((rest.take (m.last - place)).reverse ++ before)
            (rest.drop (m.last - place)) m.last

/-- The matches that are erased from a text. -/
def erased (p : Pattern) (s : Text) : List Match := p.erasedFrom s (2 * s.length + 2) false [] s 0

/-- After a match the next search starts between what has been passed and the rest. -/
theorem Match.Within.boundary (within : m.Within place rest) (boundary : place = before.length) :
    m.last = ((rest.take (m.last - place)).reverse ++ before).length := by
  have starts := within.starts
  have ends := within.ends
  have inside := within.inside
  simp only [List.length_append, List.length_reverse, List.length_take, ← boundary]
  omega

theorem eraseFrom_sublist (boundary : place = before.length) :
    (p.eraseFrom subject fuel advance before rest place).Sublist rest := by
  induction fuel generalizing advance before rest place with
  | zero => exact .refl rest
  | succ fuel ih =>
    unfold eraseFrom
    split
    · exact .refl rest
    next m found =>
      have within := searchFrom_within boundary found
      have others := @ih _ (rest.drop (m.last - place)) (m.first == m.last) _ (within.boundary boundary)
      have starts : m.first - place ≤ m.last - place := Nat.sub_le_sub_right within.ends place
      -- What is kept before the match, and what is left after it, lie apart.
      have whole : (rest.take (m.first - place) ++ rest.drop (m.last - place)).Sublist rest := by
        conv_rhs => rw [← List.take_append_drop (m.first - place) rest]
        refine (List.Sublist.refl _).append ?_
        rw [← Nat.add_sub_cancel' starts, ← List.drop_drop]
        exact List.drop_sublist _ _
      exact ((List.Sublist.refl _).append others).trans whole

theorem length_eraseFrom (boundary : place = before.length) :
    (p.eraseFrom subject fuel advance before rest place).length +
      ((p.erasedFrom subject fuel advance before rest place).map Match.length).sum = rest.length := by
  induction fuel generalizing advance before rest place with
  | zero => simp [eraseFrom, erasedFrom]
  | succ fuel ih =>
    unfold eraseFrom erasedFrom
    cases found : p.searchFrom subject advance before rest place with
    | none => simp
    | some m =>
      have within := searchFrom_within boundary found
      have starts := within.starts
      have ends := within.ends
      have inside := within.inside
      have others := @ih _ (rest.drop (m.last - place)) (m.first == m.last) _ (within.boundary boundary)
      simp only [List.length_append, List.length_take, List.length_drop, List.map_cons, List.sum_cons,
        Match.length] at others ⊢
      omega

/-- Erasing leaves a subsequence of the text. -/
theorem erase_sublist (p : Pattern) (s : Text) : (p.erase s).Sublist s := eraseFrom_sublist rfl

/-- It takes away as many characters as the matches have. -/
theorem length_erase (p : Pattern) (s : Text) :
    (p.erase s).length + ((p.erased s).map Match.length).sum = s.length := length_eraseFrom rfl

/-- What a search finds first is erased first. -/
theorem erased_of_search (found : p.search s = some m) : m ∈ p.erased s := by
  unfold search at found
  rw [erased, erasedFrom, found]
  exact List.mem_cons_self ..

theorem le_of_mem_erasedFrom (boundary : place = before.length)
    (member : m ∈ p.erasedFrom subject fuel advance before rest place) : m.first ≤ m.last := by
  induction fuel generalizing advance before rest place with
  | zero => cases member
  | succ fuel ih =>
    unfold erasedFrom at member
    split at member
    · cases member
    next first found =>
      have within := searchFrom_within boundary found
      rcases List.mem_cons.mp member with rfl | later
      · exact within.ends
      · exact ih (within.boundary boundary) later

/-- Erasing leaves a text as it is exactly if no match has a character. -/
theorem erase_eq_self_iff : p.erase s = s ↔ ∀ m ∈ p.erased s, m.first = m.last := by
  have lengths := p.length_erase s
  constructor
  · intro same m member
    rw [same] at lengths
    have none : ((p.erased s).map Match.length).sum = 0 := by omega
    have empty : m.length = 0 :=
      List.sum_eq_zero_iff_forall_eq_nat.mp none _ (List.mem_map_of_mem member)
    exact Nat.le_antisymm (le_of_mem_erasedFrom rfl member) (Nat.le_of_sub_eq_zero empty)
  · intro empty
    have none : ((p.erased s).map Match.length).sum = 0 := by
      refine List.sum_eq_zero_iff_forall_eq_nat.mpr fun count member => ?_
      obtain ⟨m, inside, rfl⟩ := List.mem_map.mp member
      rw [Match.length, empty m inside, Nat.sub_self]
    exact (p.erase_sublist s).eq_of_length (by omega)

end UrlRules.Pattern
