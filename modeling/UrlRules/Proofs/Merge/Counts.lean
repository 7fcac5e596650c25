import Mathlib.Algebra.GroupWithZero.Nat
import Mathlib.Data.List.Induction
import Mathlib.Data.List.Nodup
import UrlRules.Merge.Basic
import UrlRules.Proofs.Json.Fields

/-!
# Counts by name

A merge counts under the names of its sources. Its counts are a table over the names in the order in
which they first came, each name once: `table names f` has `f name` beside each name. Counting under a
name adds to its entry, or puts a new entry at the end if the name is new.
-/
namespace UrlRules.Merge

variable {names : List Text} {f : Text → Nat}

def table (names : List Text) (f : Text → Nat) : List (Text × Nat) :=
  names.map fun name => (name, f name)

@[simp] theorem fst_table (names : List Text) (f : Text → Nat) : (table names f).map (·.1) = names := by
  simp [table, Function.comp_def]

/-- The names in the order in which they first come. -/
def namesOf (sources : List RuleSource) : List Text := (sources.map (·.name)).eraseDups

theorem field?_table_of_mem {name : Text} (member : name ∈ names) :
    Json.field? (table names f) name = some (f name) := by
  induction names with
  | nil => cases member
  | cons first rest ih =>
    simp only [table, List.map_cons, Json.field?]
    split
    next same => rw [same]
    next other =>
      exact ih ((List.mem_cons.mp member).resolve_left fun same => other same.symm)

theorem setField_table_of_mem {name : Text} (member : name ∈ names) (distinct : names.Nodup)
    (n : Nat) :
    Json.setField (table names f) name n =
      table names fun other => if other = name then n else f other := by
  induction names with
  | nil => cases member
  | cons first rest ih =>
    obtain ⟨apart, distinct⟩ := List.nodup_cons.mp distinct
    simp only [table, List.map_cons, Json.setField]
    split
    next same =>
      subst same
      refine congrArg₂ List.cons (by simp) (List.map_congr_left fun other inside => ?_)
      have different : other ≠ first := fun same => apart (same ▸ inside)
      simp [different]
    next other =>
      refine congrArg₂ List.cons (by simp) ?_
      exact ih ((List.mem_cons.mp member).resolve_left fun same => other same.symm) distinct

/-- Counting under a name. Nothing has been counted under a name that is not in the table. -/
theorem count_table (names : List Text) (f : Text → Nat) (name : Text) (n : Nat)
    (distinct : names.Nodup) (unseen : name ∉ names → f name = 0) :
    count (table names f) name n =
      table (if name ∈ names then names else names ++ [name])
        fun other => f other + if other = name then n else 0 := by
  unfold count
  by_cases member : name ∈ names
  · rw [field?_table_of_mem member, setField_table_of_mem member distinct, if_pos member]
    refine List.map_congr_left fun other _ => ?_
    by_cases same : other = name <;> simp [same]
  · have new : name ∉ (table names f).map (·.1) := by rwa [fst_table]
    rw [Json.field?_of_not_mem new, Json.setField_of_not_mem new, if_neg member]
    have old : table names f = table names fun other => f other + if other = name then n else 0 := by
      refine List.map_congr_left fun other inside => ?_
      have different : other ≠ name := fun same => member (same ▸ inside)
      simp [different]
    rw [old]
    simp [table, unseen member]

@[simp] theorem mem_namesOf {sources : List RuleSource} {name : Text} :
    name ∈ namesOf sources ↔ ∃ s ∈ sources, s.name = name := by
  simp [namesOf]

theorem eraseDups_snoc (names : List Text) (name : Text) :
    (names ++ [name]).eraseDups =
      if name ∈ names then names.eraseDups else names.eraseDups ++ [name] := by
  rw [List.eraseDups_append]
  by_cases old : name ∈ names <;> simp [List.removeAll, old, List.eraseDups_cons]

theorem namesOf_snoc (sources : List RuleSource) (s : RuleSource) :
    namesOf (sources ++ [s]) =
      if s.name ∈ namesOf sources then namesOf sources else namesOf sources ++ [s.name] := by
  simp only [namesOf, List.map_append, List.map_singleton, eraseDups_snoc, List.mem_eraseDups]

theorem nodup_namesOf (sources : List RuleSource) : (namesOf sources).Nodup := by
  induction sources using List.reverseRecOn with
  | nil => exact List.nodup_nil
  | append_singleton sources s ih =>
    rw [namesOf_snoc]
    split
    next => exact ih
    next new =>
      refine List.nodup_append.mpr ⟨ih, List.nodup_singleton _, ?_⟩
      intro name old other last
      obtain rfl := List.mem_singleton.mp last
      exact fun same => new (same ▸ old)

theorem sum_table_add (names : List Text) (f g : Text → Nat) :
    ((table names fun name => f name + g name).map (·.2)).sum =
      ((table names f).map (·.2)).sum + ((table names g).map (·.2)).sum := by
  induction names with
  | nil => rfl
  | cons first rest ih =>
    simp only [table, List.map_cons, List.sum_cons] at ih ⊢
    omega

/-- One thing counted under one of distinct names adds one to the sum. -/
theorem sum_table_single (distinct : names.Nodup) {name : Text} (member : name ∈ names) :
    ((table names fun other => if name = other then 1 else 0).map (·.2)).sum = 1 := by
  induction names with
  | nil => cases member
  | cons first rest ih =>
    obtain ⟨apart, distinct⟩ := List.nodup_cons.mp distinct
    simp only [table, List.map_cons, List.sum_cons]
    by_cases here : name = first
    · have others : rest.map (fun other => (other, if name = other then 1 else 0)) =
          rest.map fun other => (other, 0) := by
        refine List.map_congr_left fun other inside => ?_
        have different : name ≠ other := fun same => apart (here ▸ same ▸ inside)
        rw [if_neg different]
      rw [if_pos here, others]
      simp [Function.comp_def]
    · have later : name ∈ rest := (List.mem_cons.mp member).resolve_left here
      rw [if_neg here, Nat.zero_add]
      exact ih distinct later

/-- Each entry counted under one of distinct names is counted once. -/
theorem sum_table_countP {ε : Type} (nameOf : ε → Text) (entries : List ε) (distinct : names.Nodup)
    (covered : ∀ entry ∈ entries, nameOf entry ∈ names) :
    ((table names fun name => entries.countP (nameOf · = name)).map (·.2)).sum = entries.length := by
  induction entries with
  | nil => simp [table, Function.comp_def]
  | cons entry entries ih =>
    have rest := ih fun other member => covered other (by simp [member])
    have one := sum_table_single distinct (covered entry (by simp))
    simp only [List.countP_cons, decide_eq_true_eq, sum_table_add, rest, one, List.length_cons]

end UrlRules.Merge
