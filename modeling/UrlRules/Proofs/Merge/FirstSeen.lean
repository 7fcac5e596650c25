import Mathlib.Data.List.Induction
import Mathlib.Data.List.Nodup
import UrlRules.Merge.Basic

/-!
# First occurrences

The rules of all sources in their order are a list of occurrences: each a rule with the name of the
source it stands in. An occurrence is a first one if no earlier one has its id, and a repeat if one
has. `firsts` and `repeats` part the occurrences by their places alone.

`Merge.fresh` and `Merge.stale` go through one source at a time with the ids seen so far.
`parted_append` says that they find the same occurrences.
-/
namespace UrlRules.Merge

/-- The rules of sources in their order, each with the name of its source. -/
def occurrences (sources : List RuleSource) : List (Text × Rule) :=
  sources.flatMap fun s => s.rules.map (s.name, ·)

def ids (found : List (Text × Rule)) : List Text := found.map (·.2.id)

/-- Whether no occurrence before a place has the id of the one that stands there. -/
def isFirst (found : List (Text × Rule)) (entry : (Text × Rule) × Nat) : Bool :=
  entry.1.2.id ∉ ids (found.take entry.2)

def firsts (found : List (Text × Rule)) : List (Text × Rule) :=
  (found.zipIdx.filter (isFirst found)).map (·.1)

def repeats (found : List (Text × Rule)) : List (Text × Rule) :=
  (found.zipIdx.filter fun entry => !isFirst found entry).map (·.1)

variable {found : List (Text × Rule)} {entry : Text × Rule}

/-- Whether an occurrence is a first one depends on those before it only. -/
theorem isFirst_append (later : List (Text × Rule)) {place : (Text × Rule) × Nat}
    (inside : place ∈ found.zipIdx) : isFirst (found ++ later) place = isFirst found place := by
  have bound : place.2 < found.length := by
    have := List.snd_lt_of_mem_zipIdx inside
    omega
  unfold isFirst
  rw [List.take_append_of_le_length (Nat.le_of_lt bound)]

theorem isFirst_last : isFirst (found ++ [entry]) (entry, found.length) =
    (entry.2.id ∉ ids found : Bool) := by
  simp [isFirst]

theorem firsts_snoc (found : List (Text × Rule)) (entry : Text × Rule) :
    firsts (found ++ [entry]) =
      firsts found ++ if entry.2.id ∈ ids found then [] else [entry] := by
  unfold firsts
  rw [List.zipIdx_append, List.filter_append, List.map_append]
  congr 1
  · rw [List.filter_congr fun place inside => isFirst_append [entry] inside]
  · by_cases seen : entry.2.id ∈ ids found <;> simp [isFirst_last, seen]

theorem repeats_snoc (found : List (Text × Rule)) (entry : Text × Rule) :
    repeats (found ++ [entry]) =
      repeats found ++ if entry.2.id ∈ ids found then [entry] else [] := by
  unfold repeats
  rw [List.zipIdx_append, List.filter_append, List.map_append]
  congr 1
  · rw [List.filter_congr fun place inside => by rw [isFirst_append [entry] inside]]
  · by_cases seen : entry.2.id ∈ ids found <;> simp [isFirst_last, seen]

theorem ids_snoc (found : List (Text × Rule)) (entry : Text × Rule) :
    ids (found ++ [entry]) = ids found ++ [entry.2.id] := by
  simp [ids]

/-! ## What first occurrences and repeats have in common -/

/-- Every id survives in a first occurrence. -/
theorem mem_ids_firsts (found : List (Text × Rule)) (id : Text) :
    id ∈ ids (firsts found) ↔ id ∈ ids found := by
  induction found using List.reverseRecOn with
  | nil => rfl
  | append_singleton found entry ih =>
    rw [firsts_snoc, ids_snoc]
    by_cases seen : entry.2.id ∈ ids found
    · rw [if_pos seen, List.append_nil, ih, List.mem_append, List.mem_singleton]
      exact ⟨.inl, fun both => both.elim (fun old => old) (fun same => same ▸ seen)⟩
    · rw [if_neg seen, ids_snoc, List.mem_append, List.mem_append, ih]

theorem nodup_ids_firsts (found : List (Text × Rule)) : (ids (firsts found)).Nodup := by
  induction found using List.reverseRecOn with
  | nil => exact List.nodup_nil
  | append_singleton found entry ih =>
    rw [firsts_snoc]
    by_cases seen : entry.2.id ∈ ids found
    · rw [if_pos seen, List.append_nil]
      exact ih
    · rw [if_neg seen, ids_snoc]
      refine List.nodup_append.mpr ⟨ih, List.nodup_singleton _, ?_⟩
      intro id old other last
      obtain rfl := List.mem_singleton.mp last
      exact fun same => seen ((mem_ids_firsts found _).mp (same ▸ old))

theorem length_firsts_add_repeats (found : List (Text × Rule)) :
    (firsts found).length + (repeats found).length = found.length := by
  induction found using List.reverseRecOn with
  | nil => rfl
  | append_singleton found entry ih =>
    rw [firsts_snoc, repeats_snoc]
    by_cases seen : entry.2.id ∈ ids found <;> simp [seen] <;> omega

/-- There are no repeats exactly if all ids are distinct. -/
theorem repeats_eq_nil_iff (found : List (Text × Rule)) : repeats found = [] ↔ (ids found).Nodup := by
  induction found using List.reverseRecOn with
  | nil => simp [repeats, ids]
  | append_singleton found entry ih =>
    rw [repeats_snoc, ids_snoc, List.append_eq_nil_iff, ih, List.nodup_append]
    by_cases seen : entry.2.id ∈ ids found
    · simp only [seen, if_true, List.cons_ne_nil, and_false, false_iff]
      exact fun both => both.2.2 _ seen _ (List.mem_singleton_self _) rfl
    · rw [if_neg seen]
      refine and_congr_right fun _ => ⟨fun _ => ⟨List.nodup_singleton _, ?_⟩, fun _ => rfl⟩
      intro id old other last
      obtain rfl := List.mem_singleton.mp last
      exact fun same => seen (same ▸ old)

/-! ## Source by source -/

/-- The rules found fresh in one source are its first occurrences, and those found stale its repeats,
whatever list holds the ids seen before. -/
theorem parted_append (name : Text) (rules : List Rule) (found : List (Text × Rule))
    (seen : List Text) (same : ∀ id, id ∈ seen ↔ id ∈ ids found) :
    firsts (found ++ rules.map (name, ·)) = firsts found ++ (fresh seen rules).map (name, ·) ∧
      repeats (found ++ rules.map (name, ·)) = repeats found ++ (stale seen rules).map (name, ·) := by
  induction rules generalizing found seen with
  | nil => simp [fresh, stale]
  | cons r rules ih =>
    have step : found ++ (r :: rules).map (name, ·) =
        (found ++ [(name, r)]) ++ rules.map (name, ·) := by simp
    rw [step]
    unfold fresh stale
    by_cases old : r.id ∈ seen
    · have repeated : r.id ∈ ids found := (same _).mp old
      have onward := ih (found ++ [(name, r)]) seen (by
        intro id
        rw [ids_snoc, List.mem_append, List.mem_singleton, same]
        exact ⟨.inl, fun both => both.elim (fun before => before) (fun last => last ▸ repeated)⟩)
      rw [onward.1, onward.2, firsts_snoc, repeats_snoc]
      simp [old, repeated]
    · have new : r.id ∉ ids found := fun before => old ((same _).mpr before)
      have onward := ih (found ++ [(name, r)]) (r.id :: seen) (by
        intro id
        rw [ids_snoc, List.mem_append, List.mem_singleton, List.mem_cons, same, or_comm])
      rw [onward.1, onward.2, firsts_snoc, repeats_snoc]
      simp [old, new]

end UrlRules.Merge
