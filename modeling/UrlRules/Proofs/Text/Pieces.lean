import Mathlib.Data.List.Basic
import UrlRules.Text.Basic

/-!
# Pieces of a text

Pieces that do not hold the separator are found again where they were joined (`splitOn_joinWith`), and
joining the pieces of a text gives the text (`joinWith_splitOn`). A text without the separator is found
again before the first one (`cut_append`).
-/
namespace UrlRules

namespace Text

variable {sep : CodePoint} {s t rest : Text} {pieces : List Text}

theorem takeWhile_append_of_stop {p : CodePoint → Bool} {run rest : Text}
    (all : ∀ c ∈ run, p c = true) (after : ∀ c ∈ rest.head?, p c = false) :
    (run ++ rest).takeWhile p = run := by
  have stop : rest.takeWhile p = [] := by
    cases rest with
    | nil => rfl
    | cons c rest => exact List.takeWhile_cons_of_neg (by simp [after c rfl])
  rw [List.takeWhile_append_of_pos all, stop, List.append_nil]

/-! ## Cutting -/

theorem cut_of_not_mem (absent : sep ∉ s) : cut sep s = (s, none) := by
  induction s with
  | nil => rfl
  | cons c s ih =>
    obtain ⟨other, absent⟩ := List.ne_and_not_mem_of_not_mem_cons absent
    simp [cut, Ne.symm other, ih absent]

theorem cut_append (absent : sep ∉ s) (t : Text) : cut sep (s ++ sep :: t) = (s, some t) := by
  induction s with
  | nil => simp [cut]
  | cons c s ih =>
    obtain ⟨other, absent⟩ := List.ne_and_not_mem_of_not_mem_cons absent
    simp [cut, Ne.symm other, ih absent]

theorem not_mem_cut (sep : CodePoint) (s : Text) : sep ∉ (cut sep s).1 := by
  induction s with
  | nil => simp [cut]
  | cons c s ih =>
    unfold cut
    split
    · simp
    next other => simpa [Ne.symm other] using ih

theorem eq_of_cut (found : cut sep s = (t, some rest)) : s = t ++ sep :: rest := by
  induction s generalizing t with
  | nil => cases found
  | cons c s ih =>
    unfold cut at found
    split at found
    next same =>
      obtain ⟨rfl, rfl⟩ : [] = t ∧ s = rest := by simpa using found
      rw [same, List.nil_append]
    next =>
      obtain ⟨rfl, after⟩ : c :: (cut sep s).1 = t ∧ (cut sep s).2 = some rest := by simpa using found
      exact congrArg (c :: ·) (ih (Prod.ext rfl after))

/-! ## Splitting and joining -/

theorem splitOn_ne_nil (sep : CodePoint) (s : Text) : splitOn sep s ≠ [] := by
  cases s with
  | nil => simp [splitOn]
  | cons c s =>
    unfold splitOn
    split
    · simp
    · split <;> simp

theorem not_mem_of_mem_splitOn {piece : Text} (member : piece ∈ splitOn sep s) : sep ∉ piece := by
  induction s generalizing piece with
  | nil =>
    obtain rfl : piece = [] := by simpa [splitOn] using member
    simp
  | cons c s ih =>
    unfold splitOn at member
    split at member
    · rcases List.mem_cons.mp member with rfl | later
      · simp
      · exact ih later
    next other =>
      cases split : splitOn sep s with
      | nil => exact absurd split (splitOn_ne_nil sep s)
      | cons first others =>
        rw [split] at member ih
        rcases List.mem_cons.mp member with rfl | later
        · simpa [Ne.symm other] using ih (List.mem_cons_self ..)
        · exact ih (List.mem_cons_of_mem _ later)

theorem splitOn_append (absent : sep ∉ s) (t : Text) :
    splitOn sep (s ++ sep :: t) = s :: splitOn sep t := by
  induction s with
  | nil => simp [splitOn]
  | cons c s ih =>
    obtain ⟨other, absent⟩ := List.ne_and_not_mem_of_not_mem_cons absent
    simp [splitOn, Ne.symm other, ih absent]

theorem splitOn_of_not_mem (absent : sep ∉ s) : splitOn sep s = [s] := by
  induction s with
  | nil => rfl
  | cons c s ih =>
    obtain ⟨other, absent⟩ := List.ne_and_not_mem_of_not_mem_cons absent
    simp [splitOn, Ne.symm other, ih absent]

/-- Pieces without the separator are found again where they were joined. -/
theorem splitOn_joinWith (some : pieces ≠ []) (apart : ∀ piece ∈ pieces, sep ∉ piece) :
    splitOn sep (joinWith [sep] pieces) = pieces := by
  induction pieces with
  | nil => exact absurd rfl some
  | cons piece pieces ih =>
    have own := apart piece (by simp)
    cases pieces with
    | nil => exact splitOn_of_not_mem own
    | cons next pieces =>
      have others := ih (by simp) fun other member => apart other (by simp [member])
      simp only [joinWith, List.append_assoc, List.singleton_append]
      rw [splitOn_append own, others]

theorem joinWith_cons_cons (piece next : Text) (pieces : List Text) :
    joinWith [sep] (piece :: next :: pieces) = piece ++ sep :: joinWith [sep] (next :: pieces) := by
  simp [joinWith]

theorem joinWith_splitOn (sep : CodePoint) (s : Text) : joinWith [sep] (splitOn sep s) = s := by
  induction s with
  | nil => rfl
  | cons c s ih =>
    unfold splitOn
    cases split : splitOn sep s with
    | nil => exact absurd split (splitOn_ne_nil sep s)
    | cons first others =>
      rw [split] at ih
      by_cases same : c = sep
      · rw [if_pos same, joinWith_cons_cons, ih, same]
        rfl
      · rw [if_neg same]
        cases others with
        | nil => simpa [joinWith] using ih
        | cons next others =>
          rw [joinWith_cons_cons] at ih ⊢
          simp [← ih]

/-- Each piece counts with its own length, and one separator stands after each but the last. -/
theorem length_joinWith (sep : CodePoint) (some : pieces ≠ []) :
    (joinWith [sep] pieces).length + 1 = pieces.flatten.length + pieces.length := by
  induction pieces with
  | nil => exact absurd rfl some
  | cons piece pieces ih =>
    cases pieces with
    | nil => simp [joinWith]
    | cons next pieces =>
      have others := ih (by simp)
      rw [joinWith_cons_cons, List.flatten_cons]
      simp only [List.length_append, List.length_cons] at others ⊢
      omega

theorem mem_joinWith {c : CodePoint} (member : c ∈ joinWith [sep] pieces) :
    c = sep ∨ ∃ piece ∈ pieces, c ∈ piece := by
  induction pieces with
  | nil => cases member
  | cons piece pieces ih =>
    cases pieces with
    | nil => exact .inr ⟨piece, by simp, member⟩
    | cons next pieces =>
      rw [joinWith_cons_cons, List.mem_append, List.mem_cons] at member
      rcases member with own | same | later
      · exact .inr ⟨piece, by simp, own⟩
      · exact .inl same
      · rcases ih later with same | ⟨other, inside, own⟩
        · exact .inl same
        · exact .inr ⟨other, List.mem_cons_of_mem _ inside, own⟩

theorem subset_joinWith (sep : CodePoint) {piece : Text} (inside : piece ∈ pieces) : piece ⊆ joinWith [sep] pieces := by
  induction pieces with
  | nil => cases inside
  | cons first pieces ih =>
    cases pieces with
    | nil =>
      obtain rfl := List.mem_singleton.mp inside
      exact List.Subset.refl _
    | cons next pieces =>
      rw [joinWith_cons_cons]
      rcases List.mem_cons.mp inside with rfl | later
      · exact List.subset_append_left _ _
      · exact fun c member => List.mem_append_right _ (List.mem_cons_of_mem _ (ih later member))

/-- Joining fewer pieces leaves out text. -/
theorem joinWith_sublist (sep : CodePoint) {fewer : List Text} (some : fewer.Sublist pieces) :
    (joinWith [sep] fewer).Sublist (joinWith [sep] pieces) := by
  induction some with
  | slnil => exact .refl _
  | @cons fewer pieces piece some ih =>
    cases pieces with
    | nil => exact ih.trans (List.nil_sublist _)
    | cons next pieces =>
      rw [joinWith_cons_cons]
      exact (ih.cons sep).trans (List.sublist_append_right _ _)
  | @cons_cons fewer pieces piece some ih =>
    cases fewer with
    | nil =>
      cases pieces with
      | nil => exact .refl _
      | cons next pieces =>
        rw [joinWith_cons_cons]
        exact List.sublist_append_left _ _
    | cons first fewer =>
      cases pieces with
      | nil => cases some
      | cons next pieces =>
        rw [joinWith_cons_cons, joinWith_cons_cons]
        exact (ih.cons_cons sep).append_left piece

end Text
end UrlRules
