import UrlRules.Proofs.Merge.Counts
import UrlRules.Proofs.Merge.FirstSeen

/-!
# What a merge gives

`summary` says what merging sources gives in terms of their occurrences alone: the first occurrences,
the repeats, and how many of each name there are. The accumulators of the merge agree with it after
every source (`add_summary`), so they agree at the end (`merge_eq_summary`).
-/
namespace UrlRules.Merge

/-- A first occurrence as it is kept: tagged with the name of its source if it has none, or as it is. -/
def kept (tagged : Bool) (entry : Text × Rule) : Rule :=
  if tagged then tag entry.1 entry.2 else entry.2

/-- The merge of sources by their occurrences. -/
def summary (tagged : Bool) (sources : List RuleSource) : MergeResult where
  rules := (firsts (occurrences sources)).map (kept tagged)
  duplicates := table (namesOf sources) fun name =>
    (repeats (occurrences sources)).countP (·.1 = name)
  skipped := (repeats (occurrences sources)).map fun entry => (entry.1, entry.2.id)
  counts := table (namesOf sources) fun name => (occurrences sources).countP (·.1 = name)

variable {tagged : Bool} {sources : List RuleSource}

@[simp] theorem id_kept (tagged : Bool) (entry : Text × Rule) :
    (kept tagged entry).id = entry.2.id := by
  cases tagged <;> rfl

theorem ids_summary (tagged : Bool) (sources : List RuleSource) :
    (summary tagged sources).rules.map (·.id) = ids (firsts (occurrences sources)) := by
  simp [summary, ids, Function.comp_def]

theorem occurrences_snoc (sources : List RuleSource) (s : RuleSource) :
    occurrences (sources ++ [s]) = occurrences sources ++ s.rules.map (s.name, ·) := by
  simp [occurrences]

theorem name_of_mem_occurrences {entry : Text × Rule} (member : entry ∈ occurrences sources) :
    entry.1 ∈ namesOf sources := by
  obtain ⟨s, inside, here⟩ := List.mem_flatMap.mp member
  obtain ⟨r, _, rfl⟩ := List.mem_map.mp here
  exact mem_namesOf.mpr ⟨s, inside, rfl⟩

theorem mem_of_mem_repeats {found : List (Text × Rule)} {entry : Text × Rule}
    (member : entry ∈ repeats found) : entry ∈ found := by
  obtain ⟨place, inside, rfl⟩ := List.mem_map.mp member
  exact List.fst_mem_of_mem_zipIdx (List.mem_of_mem_filter inside)

/-- Nothing is counted under a name that no source has. -/
theorem countP_eq_zero_of_new {name : Text} (new : name ∉ namesOf sources)
    (entries : List (Text × Rule)) (covered : ∀ entry ∈ entries, entry.1 ∈ namesOf sources) :
    entries.countP (·.1 = name) = 0 := by
  refine List.countP_eq_zero.mpr fun entry member => ?_
  simp only [decide_eq_true_eq]
  exact fun same => new (same ▸ covered entry member)

theorem countP_named (rules : List Rule) (own name : Text) :
    (rules.map (own, ·)).countP (·.1 = name) = if name = own then rules.length else 0 := by
  by_cases same : own = name
  · simp [same, Function.comp_def]
  · simp [same, Ne.symm same, Function.comp_def]

/-- One source: the accumulators go on agreeing with the summary. -/
theorem add_summary (tagged : Bool) (sources : List RuleSource) (s : RuleSource) :
    add tagged (summary tagged sources) s = summary tagged (sources ++ [s]) := by
  obtain ⟨first, repeated⟩ := parted_append s.name s.rules (occurrences sources)
    (ids (firsts (occurrences sources))) (mem_ids_firsts (occurrences sources))
  rw [← occurrences_snoc] at first repeated
  have unrepeated : s.name ∉ namesOf sources →
      (repeats (occurrences sources)).countP (·.1 = s.name) = 0 :=
    fun new => countP_eq_zero_of_new new _ fun entry member =>
      name_of_mem_occurrences (mem_of_mem_repeats member)
  have unseen : s.name ∉ namesOf sources → (occurrences sources).countP (·.1 = s.name) = 0 :=
    fun new => countP_eq_zero_of_new new _ fun _ => name_of_mem_occurrences
  simp only [add, ids_summary]
  generalize fresh (ids (firsts (occurrences sources))) s.rules = new at *
  generalize stale (ids (firsts (occurrences sources))) s.rules = old at *
  simp only [summary, MergeResult.mk.injEq]
  refine ⟨?_, ?_, ?_, ?_⟩
  · rw [first, List.map_append, List.map_map]
    cases tagged <;> simp [Function.comp_def, kept]
  · rw [count_table _ _ _ _ (nodup_namesOf sources) unrepeated, namesOf_snoc, repeated]
    simp only [List.countP_append, countP_named]
  · rw [repeated, List.map_append, List.map_map]
    rfl
  · rw [count_table _ _ _ _ (nodup_namesOf sources) unseen, namesOf_snoc, occurrences_snoc]
    simp only [List.countP_append, countP_named]

/-- All sources. -/
theorem merge_eq_summary (tagged : Bool) (sources : List RuleSource) :
    merge tagged sources = summary tagged sources := by
  induction sources using List.reverseRecOn with
  | nil => rfl
  | append_singleton sources s ih =>
    rw [← add_summary, ← ih]
    simp [merge]

end UrlRules.Merge
