import Mathlib
import UrlRules.Proofs.Chain.Verdict

/-!
# Restarting a chain

A chain can be started again at any URL it has produced. One that settles goes on from there as before, to the
same end (`resolve_of_settled`). One that loops comes back to the new start or to a later URL of its cycle: from
each URL it has produced there are no more steps to a URL seen before than the whole chain has taken
(`Walk.exists_return`), and a chain that can come back within the bound is one that loops (`circular_of_return`).
-/
namespace UrlRules

namespace Chain

variable {α β : Type} {step : α → Option (β × α)} {u v w : α} {steps more : List (β × α)}

namespace Walk

/-- Of two walks from one value, the shorter one is the beginning of the other. -/
theorem prefix_of_length_le (walk : Walk step u steps v) (other : Walk step u more w)
    (shorter : steps.length ≤ more.length) : steps <+: more := by
  induction walk generalizing more with
  | nil _ => exact List.nil_prefix
  | @cons u x v label steps first rest ih =>
    cases other with
    | nil _ => simp at shorter
    | @cons _ x' _ label' more first' rest' =>
      obtain ⟨rfl, rfl⟩ : label = label' ∧ x = x' := by simpa [first] using first'
      exact (List.prefix_cons_inj _).mpr (ih rest' (by simpa using shorter))

/-- A walk that settles is the longest one. -/
theorem length_le_of_settled (walk : Walk step u steps v) (settled : step v = none)
    (other : Walk step u more w) : more.length ≤ steps.length := by
  by_contra longer
  obtain ⟨further, rfl⟩ := walk.prefix_of_length_le other (by omega)
  induction walk with
  | nil u =>
    cases other with
    | nil _ => simp at longer
    | cons first _ => simp [settled] at first
  | cons first _ ih =>
    cases other with
    | cons _ rest => exact ih settled rest (by simpa using longer)

theorem mem_of_ne_nil (walk : Walk step u steps v) (nonempty : steps ≠ []) : v ∈ steps.map (·.2) := by
  induction walk with
  | nil _ => exact absurd rfl nonempty
  | @cons u x v label steps first rest ih =>
    rw [List.map_cons, List.mem_cons]
    cases rest with
    | nil _ => exact .inl rfl
    | cons next rest => exact .inr (ih (by simp))

/-- A walk passes its start or its end at its end. -/
theorem end_mem (walk : Walk step u steps v) : v ∈ u :: steps.map (·.2) := by
  cases walk with
  | nil _ => exact List.mem_cons_self ..
  | cons first rest => exact List.mem_cons_of_mem _ ((Walk.cons first rest).mem_of_ne_nil (by simp))

/-- A walk is one walk after another, wherever it is cut. -/
theorem split_append {before after : List (β × α)} (walk : Walk step u (before ++ after) w) :
    ∃ v, Walk step u before v ∧ Walk step v after w := by
  induction before generalizing u with
  | nil => exact ⟨u, .nil u, walk⟩
  | cons first before ih =>
    cases walk with
    | cons own rest =>
      obtain ⟨v, toV, fromV⟩ := ih rest
      exact ⟨v, .cons own toV, fromV⟩

/-- From every value that a closed walk has led to, a walk that is not longer leads to a value seen on it. The
closed walk goes to `v`, and from there back to `v`. -/
theorem exists_return {out back : List (β × α)} (out' : Walk step u out v) (back' : Walk step v back v)
    (moves : back ≠ []) (passed : w ∈ (out ++ back).map (·.2)) :
    ∃ again last, Walk step w again last ∧ again.length ≤ (out ++ back).length ∧
      ¬(w :: again.map (·.2)).Nodup := by
  rw [List.map_append, List.mem_append] at passed
  obtain onWay | inCycle := passed
  · -- The cycle is still ahead: it is entered at `v` and closed at `v`.
    obtain ⟨before, after, rfl, -, -, ahead⟩ := out'.split_at onWay
    refine ⟨after ++ back, v, ahead.append back', by simp, fun distinct => ?_⟩
    rw [List.map_append, ← List.cons_append] at distinct
    exact (List.nodup_append.mp distinct).2.2 v ahead.end_mem v (back'.mem_of_ne_nil moves) rfl
  · -- The cycle is run through once, from `w` to `w`.
    obtain ⟨before, after, rfl, moved, toW, fromW⟩ := back'.split_at inCycle
    refine ⟨after ++ before, w, fromW.append toW, by simp; omega, fun distinct => ?_⟩
    have closed := (fromW.append toW).mem_of_ne_nil (by simp [moved])
    exact (List.nodup_cons.mp distinct).1 closed

end Walk

variable [DecidableEq α] {rounds : Nat}

/-- A chain that can come back to a value seen before within the bound is one that loops. -/
theorem circular_of_return (walk : Walk step u steps v) (short : steps.length ≤ rounds)
    (repeated : ¬(u :: steps.map (·.2)).Nodup) : (follow step rounds u).status = .circular := by
  have within {longer : List (β × α)} (distinct : (u :: longer.map (·.2)).Nodup) (part : steps <+: longer) :
      False :=
    repeated (distinct.sublist ((part.map (·.2)).sublist.cons_cons u))
  have ends : Ends step rounds u (follow step rounds u) := ends_follow rounds u
  generalize follow step rounds u = o at ends
  cases ends with
  | settled other _ stop =>
    exact (within (other.nodup_of_settled stop)
      (walk.prefix_of_length_le other (other.length_le_of_settled stop walk))).elim
  | looped => rfl
  | cutOff other used distinct =>
    exact (within distinct (walk.prefix_of_length_le other (used ▸ short))).elim

end Chain

namespace Rule

open Chain

variable {rules : List Rule} {bound : Int} {url : Text} {o : ChainResult}

/-- A chain that settles goes on as before from each URL on it. -/
theorem resolve_of_settled (resolved : resolve rules bound url = .ok o) (settles : Settles o)
    {before after : List (Text × Text)} (split : o.steps = before ++ after) :
    resolve rules bound (reached url (before.map (·.2))) =
      .ok ⟨if after.isEmpty then .notMatched else .matched, after⟩ := by
  have positive := positive_of_resolve resolved
  obtain ⟨ends, quiet⟩ := (resolve_eq_ok_iff positive o).mp resolved
  obtain ⟨-, short, last, walk, stop⟩ := ends_settled_status ends settles
  rw [split] at walk short
  obtain ⟨v, toV, fromV⟩ := walk.split_append
  obtain rfl : reached url (before.map (·.2)) = v := toV.last_eq
  rw [List.length_append] at short
  refine (resolve_eq_ok_iff positive _).mpr ⟨.settled fromV (by omega) stop, fun _ => ?_⟩
  have stopped : reached _ (after.map (·.2)) = last := fromV.last_eq
  have reachedLast : reached url o.values = last := by
    rw [Outcome.values, split]
    exact walk.last_eq
  rw [Outcome.values, stopped, ← reachedLast]
  exact quiet settles

/-- A chain that loops is one that loops from each URL it has produced. -/
theorem circular_of_resolve (resolved : resolve rules bound url = .ok o) (loops : o.status = .circular)
    {v : Text} (produced : v ∈ o.values) :
    ∃ o', resolve rules bound v = .ok o' ∧ o'.status = .circular := by
  have positive := positive_of_resolve resolved
  obtain ⟨ends, -⟩ := (resolve_eq_ok_iff positive o).mp resolved
  cases ends with
  | settled => split at loops <;> cases loops
  | cutOff => cases loops
  | @looped steps last back label walk short _ next seen =>
    -- The walk from the URL that comes back is not left before it does.
    obtain ⟨out, cycle, rfl, toBack, fromBack⟩ : ∃ out cycle, steps = out ++ cycle ∧
        Walk (step rules) url out back ∧ Walk (step rules) back cycle last := by
      rcases List.mem_cons.mp seen with rfl | later
      · exact ⟨[], steps, rfl, .nil _, walk⟩
      · obtain ⟨out, cycle, split, -, toBack, fromBack⟩ := walk.split_at later
        exact ⟨out, cycle, split, toBack, fromBack⟩
    obtain ⟨again, w, fromV, fewer, repeated⟩ := toBack.exists_return (fromBack.snoc next) (by simp)
      (w := v) (by simpa [Outcome.values] using produced)
    simp only [List.length_append, List.length_singleton] at fewer short
    have circular : (follow (step rules) bound.toNat v).status = .circular :=
      circular_of_return fromV (by omega) repeated
    refine ⟨_, (resolve_eq_ok_iff positive _).mpr ⟨ends_follow _ _, fun settles => ?_⟩, circular⟩
    simp [Settles, circular] at settles

/-- Chains can be restarted. A chain that settles is continued from each URL it has produced: with the URLs and
the ids that are left of it, and with nothing from the last one. A chain that loops does so from each URL it has
produced, within the same bound. -/
theorem resolve_restarted (rules : List Rule) (bound : Int) (url : Text) (o : ChainResult)
    (resolved : resolve rules bound url = .ok o) :
    (o.status = .matched →
      (∀ i v, o.values[i]? = some v → i + 1 < o.values.length → ∃ o', resolve rules bound v = .ok o' ∧
        o'.status = .matched ∧ o'.values = o.values.drop (i + 1) ∧ o'.labels = o.labels.drop (i + 1)) ∧
      ∃ last, o.final? = some last ∧ resolve rules bound last = .ok ⟨.notMatched, []⟩) ∧
    (o.status = .circular → ∀ v ∈ o.values,
      ∃ o', resolve rules bound v = .ok o' ∧ o'.status = .circular) := by
  refine ⟨fun matched => ⟨fun i v produced inside => ?_, ?_⟩, fun loops v => circular_of_resolve resolved loops⟩
  · have rest := resolve_of_settled resolved (.inr matched) (o.steps.take_append_drop (i + 1)).symm
    have here : reached url ((o.steps.take (i + 1)).map (·.2)) = v := by
      rw [List.map_take, ← Outcome.values, reached, List.getLast?_take]
      simp [produced]
    rw [here] at rest
    refine ⟨_, rest, ?_, by simp [Outcome.values], by simp [Outcome.labels]⟩
    have left : o.steps.drop (i + 1) ≠ [] := by
      simpa [Outcome.values] using inside
    simp [left]
  · have rest := resolve_of_settled resolved (.inr matched) (List.append_nil o.steps).symm
    have moved : o.values ≠ [] := by
      obtain ⟨ends, -⟩ := (resolve_eq_ok_iff (positive_of_resolve resolved) o).mp resolved
      have notMatched := (ends_settled_status ends (.inr matched)).1
      simpa [matched] using notMatched
    obtain ⟨last, final⟩ := Option.ne_none_iff_exists'.mp (List.getLast?_eq_none_iff.not.mpr moved)
    refine ⟨last, final, ?_⟩
    have here : reached url (o.steps.map (·.2)) = last := by
      rw [← Outcome.values, reached, final]
      rfl
    simpa [here] using rest

/-- `a` becomes `b` and `b` becomes `c`: from `b` the chain goes on to `c`. If `c` becomes `b` again, then the
chain loops from `b` and from `c` as it does from `a`. -/
theorem resolve_restarted_letters :
    let settling := [letterRule 0x61 0x62, letterRule 0x62 0x63]
    let looping := settling ++ [letterRule 0x63 0x62]
    let o : ChainResult := ⟨.circular, [([0x61], [0x62]), ([0x62], [0x63]), ([0x63], [0x62])]⟩
    (resolve settling 3 [0x61] = .ok ⟨.matched, o.steps.take 2⟩ ∧
      ∃ o', resolve settling 3 [0x62] = .ok o' ∧ o'.status = .matched ∧ o'.values = [[0x63]] ∧
        o'.labels = [[0x62]]) ∧
    resolve looping 3 [0x61] = .ok o ∧
      ∀ v ∈ o.values, ∃ o', resolve looping 3 v = .ok o' ∧ o'.status = .circular := by
  intro settling looping o
  have settled : resolve settling 3 [0x61] = .ok ⟨.matched, o.steps.take 2⟩ := by cbv
  have looped : resolve looping 3 [0x61] = .ok o := by cbv
  exact ⟨⟨settled, ((resolve_restarted settling 3 [0x61] _ settled).1 rfl).1 0 [0x62] rfl (by decide)⟩,
    looped, (resolve_restarted looping 3 [0x61] o looped).2 rfl⟩

end Rule
end UrlRules
