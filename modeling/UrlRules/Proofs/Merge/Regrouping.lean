import UrlRules.Proofs.Merge.Conservation
import UrlRules.Proofs.Rule.Wire

/-!
# Regrouping sources

A merge does not depend on how its sources are grouped. A source is merged like its two halves one after the
other (`add_append`, `mergeInputs_split`). And two merges that are merged keep the rules that one merge of all
their sources keeps (`rules_of_merged`): of the second merge those stay whose ids the first one has not seen
(`firsts_append`), and the tags of both are kept.
-/
namespace UrlRules.Merge

variable {tagged : Bool} {sources more : List RuleSource} {rules later : List Rule} {seen seen' : List Text}

/-! ## A source in two halves -/

/-- Only which ids have been seen matters. -/
theorem parted_congr (rules : List Rule) (same : ∀ id, id ∈ seen ↔ id ∈ seen') :
    fresh seen rules = fresh seen' rules ∧ stale seen rules = stale seen' rules := by
  induction rules generalizing seen seen' with
  | nil => exact ⟨rfl, rfl⟩
  | cons r rules ih =>
    obtain ⟨kept, dropped⟩ := ih same
    obtain ⟨kept', dropped'⟩ := @ih (r.id :: seen) (r.id :: seen') fun id => by
      rw [List.mem_cons, List.mem_cons, same]
    simp only [fresh, stale, same, kept, dropped, kept', dropped', and_self]

/-- The rules of the second half meet the ids of those that stay of the first. -/
theorem parted_halves (rules later : List Rule) (seen : List Text) :
    fresh seen (rules ++ later) =
        fresh seen rules ++ fresh (seen ++ (fresh seen rules).map (·.id)) later ∧
      stale seen (rules ++ later) =
        stale seen rules ++ stale (seen ++ (fresh seen rules).map (·.id)) later := by
  induction rules generalizing seen with
  | nil => simp [fresh, stale]
  | cons r rules ih =>
    by_cases old : r.id ∈ seen
    · simp [fresh, stale, old, ih]
    · have same (id : Text) : id ∈ r.id :: (seen ++ (fresh (r.id :: seen) rules).map (·.id)) ↔
          id ∈ seen ++ r.id :: (fresh (r.id :: seen) rules).map (·.id) := by
        simp only [List.mem_append, List.mem_cons]
        exact or_left_comm
      obtain ⟨kept, dropped⟩ := parted_congr later same
      simp [fresh, stale, old, ih, kept, dropped]

theorem count_count (counts : List (Text × Nat)) (name : Text) (n k : Nat) :
    count (count counts name n) name k = count counts name (n + k) := by
  simp only [count, Json.field?_setField, Json.setField_setField, Option.getD_some, Nat.add_assoc]

theorem ids_add (tagged : Bool) (result : MergeResult) (s : RuleSource) :
    (add tagged result s).rules.map (·.id) =
      result.rules.map (·.id) ++ (fresh (result.rules.map (·.id)) s.rules).map (·.id) := by
  cases tagged <;> simp [add, tag, Function.comp_def]

/-- A source is added as its two halves are, one after the other. -/
theorem add_append (tagged : Bool) (result : MergeResult) (name : Text) (rules later : List Rule) :
    add tagged (add tagged result ⟨name, rules⟩) ⟨name, later⟩ = add tagged result ⟨name, rules ++ later⟩ := by
  obtain ⟨kept, dropped⟩ := parted_halves rules later (result.rules.map (·.id))
  have seen := ids_add tagged result ⟨name, rules⟩
  unfold add at seen ⊢
  dsimp only at seen ⊢
  simp only [seen, kept, dropped, count_count, List.length_append, List.map_append, List.append_assoc]
  cases tagged <;> simp

/-- A rule of a source cannot be tagged if one of its first half cannot, or one of its second half after that. -/
theorem tagError?_append (result : MergeResult) (name : Text) (rules later : List Rule) :
    tagError? result ⟨name, rules ++ later⟩ =
      (tagError? result ⟨name, rules⟩).or (tagError? (add true result ⟨name, rules⟩) ⟨name, later⟩) := by
  obtain ⟨kept, -⟩ := parted_halves rules later (result.rules.map (·.id))
  simp only [tagError?, ids_add, kept, List.findSome?_append]

theorem mergeAfter_halves (tagged : Bool) (result : MergeResult) (name : Text) (rules later : List Rule)
    (rest : List Input) :
    mergeAfter tagged result (.of ⟨name, rules ++ later⟩ :: rest) =
      mergeAfter tagged result (.of ⟨name, rules⟩ :: .of ⟨name, later⟩ :: rest) := by
  by_cases named : name = []
  · have refused (own : List Rule) : (Input.of ⟨name, own⟩).toSource = .error (.badName (.text [])) := by
      simp [Input.of, Input.toSource, named, Json.asNonEmptyText?]
    simp only [mergeAfter, refused, bind, Except.bind]
  · have read (own : List Rule) : (Input.of ⟨name, own⟩).toSource = .ok ⟨name, own⟩ := toSource_of named
    simp only [mergeAfter, read, bind, Except.bind, add_append, tagError?_append]
    cases tagged with
    | false => rfl
    | true =>
      simp only [if_true]
      cases tagError? result ⟨name, rules⟩ with
      | some e => rfl
      | none => rfl

/-- A source anywhere in a list is merged like its two halves. -/
theorem mergeInputs_split (tagged : Bool) (before rest : List Input) (name : Text) (rules later : List Rule) :
    mergeInputs tagged (before ++ .of ⟨name, rules ++ later⟩ :: rest) =
      mergeInputs tagged (before ++ .of ⟨name, rules⟩ :: .of ⟨name, later⟩ :: rest) := by
  unfold mergeInputs
  generalize empty = result
  induction before generalizing result with
  | nil => exact mergeAfter_halves tagged result name rules later rest
  | cons input before ih => simp only [List.cons_append, mergeAfter, ih]

/-! ## Merges that are merged -/

/-- Of later occurrences those are first ones that are first among themselves and whose ids are new. -/
theorem firsts_append (found later : List (Text × Rule)) :
    firsts (found ++ later) = firsts found ++ (firsts later).filter fun entry => entry.2.id ∉ ids found := by
  induction later using List.reverseRecOn with
  | nil => simp [firsts]
  | append_singleton later entry ih =>
    have seen : entry.2.id ∈ ids (found ++ later) ↔ entry.2.id ∈ ids found ∨ entry.2.id ∈ ids later := by
      simp [ids]
    rw [← List.append_assoc, firsts_snoc, firsts_snoc, ih, List.filter_append, List.append_assoc]
    congr 2
    by_cases old : entry.2.id ∈ ids found <;> by_cases again : entry.2.id ∈ ids later <;> simp [seen, old, again]

/-- Rules with ids of their own stay where these have not been seen. -/
theorem fresh_of_distinct (distinct : (rules.map (·.id)).Nodup) :
    fresh seen rules = rules.filter fun r => r.id ∉ seen := by
  induction rules generalizing seen with
  | nil => rfl
  | cons r rules ih =>
    obtain ⟨apart, distinct⟩ := List.nodup_cons.mp distinct
    by_cases old : r.id ∈ seen
    · simp [fresh, old, ih distinct]
    · have others : (rules.filter fun q => q.id ∉ r.id :: seen) = rules.filter fun q => q.id ∉ seen := by
        refine List.filter_congr fun q member => ?_
        have other : q.id ≠ r.id := fun same => apart (List.mem_map.mpr ⟨q, member, same⟩)
        simp [other]
      rw [fresh, if_neg old, ih distinct, others, List.filter_cons_of_pos (by simpa using old)]

/-- Two merges that are merged keep the rules that a merge of all sources keeps. -/
theorem rules_of_merged (tagged : Bool) (sources more : List RuleSource) (name other : Text) :
    (merge tagged [⟨name, (summary tagged sources).rules⟩, ⟨other, (summary tagged more).rules⟩]).rules =
      (summary tagged (sources ++ more)).rules := by
  have distinct (s : List RuleSource) : ((summary tagged s).rules.map (·.id)).Nodup := by
    rw [ids_summary]
    exact nodup_ids_firsts _
  have tags (own : Text) (s : List RuleSource) (keep : Rule → Bool) :
      (if tagged then ((summary tagged s).rules.filter keep).map (tag own)
        else (summary tagged s).rules.filter keep) = (summary tagged s).rules.filter keep := by
    cases tagged with
    | false => rfl
    | true =>
      refine (List.map_congr_left fun r member => ?_).trans (List.map_id _)
      obtain ⟨entry, -, rfl⟩ := List.mem_map.mp (List.mem_of_mem_filter member)
      rfl
  have first : (add tagged empty ⟨name, (summary tagged sources).rules⟩).rules = (summary tagged sources).rules := by
    have whole := tags name sources fun _ => true
    have all : fresh [] (summary tagged sources).rules = (summary tagged sources).rules.filter fun _ => true := by
      rw [fresh_of_distinct (distinct sources)]
      simp
    simp only [add, empty, List.map_nil, all, whole, List.nil_append]
    simp
  have joined : occurrences (sources ++ more) = occurrences sources ++ occurrences more := by
    simp [occurrences]
  have second : (summary tagged (sources ++ more)).rules = (summary tagged sources).rules ++
      (summary tagged more).rules.filter fun r => r.id ∉ (summary tagged sources).rules.map (·.id) := by
    simp only [ids_summary, mem_ids_firsts]
    simp only [summary, joined, firsts_append, List.map_append, List.filter_map]
    congr 2
    refine List.filter_congr fun entry _ => ?_
    simp
  rw [second, merge, List.foldl_cons, List.foldl_cons, List.foldl_nil, add]
  simp only [first, fresh_of_distinct (distinct more), tags]

/-- The rules that a merge keeps are right. -/
theorem valid_summary (valid : ∀ s ∈ sources, s.Valid) : ∀ r ∈ (summary tagged sources).rules, r.Valid := by
  intro r member
  obtain ⟨entry, first, rfl⟩ := List.mem_map.mp member
  obtain ⟨place, inside, rfl⟩ := List.mem_map.mp first
  obtain ⟨s, among, here⟩ := List.mem_flatMap.mp (List.fst_mem_of_mem_zipIdx (List.mem_of_mem_filter inside))
  obtain ⟨q, own, same⟩ := List.mem_map.mp here
  have right := (valid s among).rules_valid q own
  rw [← same]
  cases tagged with
  | false => exact right
  | true => exact right.fromSource _

/-- Merges are regrouped without a change. Two groups of sources that are merged, and then the two results under
any names, give the rules of one merge of all the sources, in the same order and with the same tags. And a source
anywhere in a list can be cut in two sources of its name: the result is the same in all its parts. -/
theorem merge_regrouped (tagged : Bool) :
    (∀ sources more : List RuleSource, (∀ s ∈ sources, s.Valid) → (∀ s ∈ more, s.Valid) →
      ∀ name other : Text, name ≠ [] → other ≠ [] →
      ∃ first second both whole,
        mergeInputs tagged (sources.map .of) = .ok first ∧ mergeInputs tagged (more.map .of) = .ok second ∧
        mergeInputs tagged [.of ⟨name, first.rules⟩, .of ⟨other, second.rules⟩] = .ok both ∧
        mergeInputs tagged ((sources ++ more).map .of) = .ok whole ∧ both.rules = whole.rules) ∧
    ∀ (before rest : List Input) (name : Text) (rules later : List Rule),
      mergeInputs tagged (before ++ .of ⟨name, rules ++ later⟩ :: rest) =
        mergeInputs tagged (before ++ .of ⟨name, rules⟩ :: .of ⟨name, later⟩ :: rest) := by
  refine ⟨fun sources more valid validMore name other named namedOther => ?_, fun before rest name rules later =>
    mergeInputs_split tagged before rest name rules later⟩
  have merged (s : List RuleSource) (right : ∀ source ∈ s, source.Valid) :
      mergeInputs tagged (s.map .of) = .ok (summary tagged s) := by
    simpa [mergeAfter] using mergeInputs_valid tagged right []
  have validBoth : ∀ s ∈ [RuleSource.mk name (summary tagged sources).rules,
      RuleSource.mk other (summary tagged more).rules], s.Valid := by
    simp only [List.forall_mem_cons, List.not_mem_nil, false_implies, implies_true, and_true]
    exact ⟨⟨named, valid_summary valid⟩, ⟨namedOther, valid_summary validMore⟩⟩
  have validAll : ∀ s ∈ sources ++ more, s.Valid := fun s member =>
    (List.mem_append.mp member).elim (valid s) (validMore s)
  refine ⟨_, _, _, _, merged sources valid, merged more validMore, merged _ validBoth, merged _ validAll, ?_⟩
  rw [← merge_eq_summary]
  exact rules_of_merged tagged sources more name other

/-- The second group keeps a rule for `a` of its own, which is dropped for that of the first group, in a merge of the
groups and in one of their sources. -/
theorem merge_regrouped_shared :
    let sourced (letter new name : CodePoint) : Rule := { Rule.letterRule letter new with source := some [name] }
    let sources := [RuleSource.mk [0x78] [Rule.letterRule 0x61 0x62]]
    let more := [RuleSource.mk [0x79] [Rule.letterRule 0x61 0x63, Rule.letterRule 0x62 0x63]]
    (∀ s ∈ sources, s.Valid) ∧ (∀ s ∈ more, s.Valid) ∧
    (∃ both whole, mergeInputs true [.of ⟨[0x70], [sourced 0x61 0x62 0x78]⟩,
        .of ⟨[0x71], [sourced 0x61 0x63 0x79, sourced 0x62 0x63 0x79]⟩] = .ok both ∧
      mergeInputs true ((sources ++ more).map .of) = .ok whole ∧ both.rules = whole.rules ∧
      both.rules = [sourced 0x61 0x62 0x78, sourced 0x62 0x63 0x79]) ∧
    mergeInputs true [.of ⟨[0x79], [Rule.letterRule 0x61 0x63, Rule.letterRule 0x61 0x62]⟩] =
      mergeInputs true [.of ⟨[0x79], [Rule.letterRule 0x61 0x63]⟩, .of ⟨[0x79], [Rule.letterRule 0x61 0x62]⟩] := by
  intro sourced sources more
  have valid : ∀ s ∈ sources, s.Valid := by
    simp only [sources, List.mem_singleton, forall_eq]
    exact ⟨by simp, by simpa using Rule.valid_letterRule ⟨_, by cbv⟩⟩
  have validMore : ∀ s ∈ more, s.Valid := by
    simp only [more, List.mem_singleton, forall_eq]
    exact ⟨by simp, by simpa using ⟨Rule.valid_letterRule ⟨_, by cbv⟩, Rule.valid_letterRule ⟨_, by cbv⟩⟩⟩
  obtain ⟨first, second, both, whole, merged, mergedMore, again, all, same⟩ :=
    (merge_regrouped true).1 sources more valid validMore [0x70] [0x71] (by simp) (by simp)
  have left : (mergeInputs true (sources.map .of)).map (·.rules) = .ok [sourced 0x61 0x62 0x78] := by cbv
  have right : (mergeInputs true (more.map .of)).map (·.rules) =
      .ok [sourced 0x61 0x63 0x79, sourced 0x62 0x63 0x79] := by cbv
  rw [merged] at left
  rw [mergedMore] at right
  have one : first.rules = [sourced 0x61 0x62 0x78] := Except.ok.inj left
  have two : second.rules = [sourced 0x61 0x63 0x79, sourced 0x62 0x63 0x79] := Except.ok.inj right
  rw [one, two] at again
  have kept : (mergeInputs true ((sources ++ more).map .of)).map (·.rules) =
      .ok [sourced 0x61 0x62 0x78, sourced 0x62 0x63 0x79] := by cbv
  rw [all] at kept
  exact ⟨valid, validMore, ⟨both, whole, again, all, same, same.trans (Except.ok.inj kept)⟩,
    (merge_regrouped true).2 [] [] [0x79] [Rule.letterRule 0x61 0x63] [Rule.letterRule 0x61 0x62]⟩

end UrlRules.Merge
