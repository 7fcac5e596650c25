import UrlRules.Chain.Basic

/-!
# The course of a chain

`Walk` is a chain without a bound: steps taken one after the other from a value. `Ends` lists the ways
in which a bounded chain ends, by the walk it has taken:

* it settles after fewer steps than the bound, at a value that has no step;
* it loops, at the first step that leads back to a value seen before;
* it is cut off, when the bound is used up and all values seen are distinct.

`follow_eq_iff` says that following a chain ends in exactly the way that `Ends` allows. The invariant
of the loop is that the steps so far are a walk to the current value on which no value occurs twice.
-/
namespace UrlRules.Chain

variable {α β : Type}

/-- Steps taken one after the other: each label with the value it led to. -/
inductive Walk (step : α → Option (β × α)) : α → List (β × α) → α → Prop
  | nil (u : α) : Walk step u [] u
  | cons {u v w : α} {label : β} {steps : List (β × α)} (first : step u = some (label, v))
      (rest : Walk step v steps w) : Walk step u ((label, v) :: steps) w

namespace Walk

variable {step : α → Option (β × α)} {u v w : α} {steps more : List (β × α)}

theorem append (walk : Walk step u steps v) (next : Walk step v more w) :
    Walk step u (steps ++ more) w := by
  induction walk with
  | nil _ => exact next
  | cons first _ ih => exact .cons first (ih next)

theorem snoc {label : β} (walk : Walk step u steps v) (last : step v = some (label, w)) :
    Walk step u (steps ++ [(label, w)]) w :=
  walk.append (.cons last (.nil w))

/-- A walk is left at the last value it has led to. -/
theorem last_eq (walk : Walk step u steps v) : ((steps.map (·.2)).getLast?).getD u = v := by
  induction walk with
  | nil _ => rfl
  | cons _ _ ih => simpa [List.getLast?_cons] using ih

/-- Two walks from one value that both settle are the same walk. -/
theorem settled_unique {steps' : List (β × α)} {v' : α} (walk : Walk step u steps v)
    (settled : step v = none) (walk' : Walk step u steps' v') (settled' : step v' = none) :
    steps = steps' := by
  induction walk generalizing steps' with
  | nil _ =>
    cases walk' with
    | nil _ => rfl
    | cons first _ =>
      rw [settled] at first
      cases first
  | cons first rest ih =>
    cases walk' with
    | nil _ =>
      rw [settled'] at first
      cases first
    | cons first' rest' =>
      rw [first] at first'
      cases first'
      rw [ih settled rest']

/-- A walk passes through each value it leads to. -/
theorem split_at (walk : Walk step u steps v) (passed : w ∈ steps.map (·.2)) :
    ∃ before after, steps = before ++ after ∧ before ≠ [] ∧ Walk step u before w ∧
      Walk step w after v := by
  induction walk with
  | nil _ => simp at passed
  | @cons u x v label steps first rest ih =>
    rcases List.mem_cons.mp passed with here | later
    · obtain rfl : w = x := here
      exact ⟨[(label, w)], steps, rfl, by simp, .cons first (.nil w), rest⟩
    · obtain ⟨before, after, split, _, toW, fromW⟩ := ih later
      exact ⟨(label, x) :: before, after, by rw [split]; rfl, by simp, .cons first toW, fromW⟩

/-- No value occurs twice on a walk that settles: from a second visit it would settle as far away as
from the first. -/
theorem nodup_of_settled (walk : Walk step u steps v) (settled : step v = none) :
    (u :: steps.map (·.2)).Nodup := by
  induction walk with
  | nil _ => simp
  | @cons u x v label steps first rest ih =>
    refine List.nodup_cons.mpr ⟨?_, ih settled⟩
    intro again
    have whole : Walk step u ((label, x) :: steps) v := .cons first rest
    obtain ⟨before, after, split, nonempty, _, fromU⟩ := whole.split_at again
    have same := whole.settled_unique settled fromU settled
    rw [split] at same
    exact nonempty (by simpa using same)

end Walk

variable {step : α → Option (β × α)} {start : α}

/-- The test for a loop, on the steps in the order in which they were taken. -/
theorem seen_iff (steps : List (β × α)) (v : α) :
    (v = start ∨ v ∈ steps.map (·.2)) ↔ v ∈ start :: steps.reverse.map (·.2) := by
  simp

theorem nodup_snoc {steps : List (β × α)} {label : β} {v : α}
    (distinct : (start :: steps.map (·.2)).Nodup) (fresh : v ∉ start :: steps.map (·.2)) :
    (start :: (steps ++ [(label, v)]).map (·.2)).Nodup := by
  rw [List.map_append, ← List.cons_append]
  exact List.nodup_append.mpr ⟨distinct, by simp, by
    intro a seen b last
    obtain rfl : b = v := by simpa using last
    exact fun same => fresh (same ▸ seen)⟩

/-- The ways in which a chain of at most `rounds` steps ends. -/
inductive Ends (step : α → Option (β × α)) (rounds : Nat) (start : α) : Outcome α β → Prop
  | settled {steps : List (β × α)} {last : α} (walk : Walk step start steps last)
      (short : steps.length < rounds) (stop : step last = none) :
      Ends step rounds start ⟨if steps.isEmpty then .notMatched else .matched, steps⟩
  | looped {steps : List (β × α)} {last back : α} {label : β} (walk : Walk step start steps last)
      (short : steps.length < rounds) (distinct : (start :: steps.map (·.2)).Nodup)
      (next : step last = some (label, back)) (seen : back ∈ start :: steps.map (·.2)) :
      Ends step rounds start ⟨.circular, steps ++ [(label, back)]⟩
  | cutOff {steps : List (β × α)} {last : α} (walk : Walk step start steps last)
      (used : steps.length = rounds) (distinct : (start :: steps.map (·.2)).Nodup) :
      Ends step rounds start ⟨.infinite, steps⟩

variable [DecidableEq α]

theorem ends_followFrom (rounds : Nat) (current : α) (steps : List (β × α))
    (walk : Walk step start steps.reverse current)
    (distinct : (start :: steps.reverse.map (·.2)).Nodup) :
    Ends step (rounds + steps.length) start (followFrom step start rounds current steps) := by
  induction rounds generalizing current steps with
  | zero => exact .cutOff walk (by simp) distinct
  | succ rounds ih =>
    unfold followFrom
    cases next : step current with
    | none =>
      have ends : Ends step (rounds + 1 + steps.length) start _ := .settled walk (by simp) next
      simpa using ends
    | some found =>
      obtain ⟨label, v⟩ := found
      simp only [seen_iff]
      split
      next seen =>
        rw [List.reverse_cons]
        exact .looped walk (by simp) distinct next seen
      next fresh =>
        have ends := ih v ((label, v) :: steps)
          (by rw [List.reverse_cons]; exact walk.snoc next)
          (by rw [List.reverse_cons]; exact nodup_snoc distinct fresh)
        rw [List.length_cons, ← Nat.add_assoc, Nat.add_right_comm] at ends
        exact ends

theorem ends_follow (rounds : Nat) (start : α) :
    Ends step rounds start (follow step rounds start) :=
  ends_followFrom rounds start [] (.nil start) (by simp)

/-- A walk on which no value occurs twice is followed to its end. -/
theorem followFrom_walk {current last : α} {walked : List (β × α)}
    (walk : Walk step current walked last) (rounds : Nat) (steps : List (β × α))
    (distinct : (start :: (steps.reverse ++ walked).map (·.2)).Nodup) :
    followFrom step start (walked.length + rounds) current steps =
      followFrom step start rounds last (walked.reverse ++ steps) := by
  induction walk generalizing steps with
  | nil _ => simp
  | @cons u x v label walked first rest ih =>
    have fresh : x ∉ start :: steps.reverse.map (·.2) := by
      intro seen
      rw [List.map_append, ← List.cons_append] at distinct
      exact (List.nodup_append.mp distinct).2.2 x seen x (by simp) rfl
    have onward := ih ((label, x) :: steps) (by simpa using distinct)
    rw [List.length_cons, Nat.add_right_comm]
    simp only [followFrom, first, seen_iff, if_neg fresh, onward]
    simp

theorem follow_walk {last : α} {walked : List (β × α)} (walk : Walk step start walked last)
    (rounds : Nat) (distinct : (start :: walked.map (·.2)).Nodup) :
    follow step (walked.length + rounds) start =
      followFrom step start rounds last walked.reverse := by
  have onward := followFrom_walk walk rounds [] (by simpa using distinct)
  simpa [follow] using onward

/-- Following a chain ends in exactly the way that the walk from its start allows. -/
theorem follow_eq_iff (rounds : Nat) (start : α) (o : Outcome α β) :
    follow step rounds start = o ↔ Ends step rounds start o := by
  constructor
  · rintro rfl
    exact ends_follow rounds start
  · intro ends
    cases ends with
    | @settled steps last walk short stop =>
      obtain ⟨left, rfl⟩ := Nat.exists_eq_add_of_lt short
      rw [Nat.add_assoc, follow_walk walk (left + 1) (walk.nodup_of_settled stop)]
      simp [followFrom, stop]
    | @looped steps last back label walk short distinct next seen =>
      obtain ⟨left, rfl⟩ := Nat.exists_eq_add_of_lt short
      rw [Nat.add_assoc, follow_walk walk (left + 1) distinct]
      simp only [followFrom, next, seen_iff, List.reverse_reverse, if_pos seen]
      simp
    | @cutOff steps last walk used distinct =>
      subst used
      have cut := follow_walk walk 0 distinct
      simpa [followFrom] using cut

end UrlRules.Chain
