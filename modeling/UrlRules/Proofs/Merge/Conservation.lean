import Mathlib
import UrlRules.Merge.Input
import UrlRules.Proofs.Merge.Summary
import UrlRules.Proofs.Rule.Check

/-!
# Merging what is given

What is given for a source is checked when its turn comes: `WellFormed` is a named list of rules, and
`Refused` says which error anything else is answered with. Rules that are right pass the check that
tagging makes, so sources of them are merged to their `summary`, and the first thing given that is no
source ends the merge with its own error. Nothing is lost on the way: `mergeInputs_summary` adds up the
kept and the skipped rules to all that were given.
-/
namespace UrlRules

/-- A source as it is given. -/
def Merge.Input.of (s : RuleSource) : Merge.Input :=
  .source (.text s.name) (.entries (s.rules.map .inl))

/-- A source has a name, and its rules are right. -/
structure RuleSource.Valid (s : RuleSource) : Prop where
  name_ne_nil : s.name ≠ []
  rules_valid : ∀ r ∈ s.rules, r.Valid

namespace Merge

/-- What is given is a list of rules with a name that is a text other than the empty one. -/
def Input.WellFormed (input : Input) : Prop := ∃ s : RuleSource, s.name ≠ [] ∧ input = .of s

/-- The errors with which anything else is refused. -/
inductive Input.Refused : Input → Error → Prop
  | notASource (value : Json) : Refused (.other value) (.notASource value)
  | badName {name : Json} {rules : RulesInput} (nameless : name.asNonEmptyText? = none) :
      Refused (.source name rules) (.badName name)
  | rulesNotList {name : Text} {value : Json} (named : name ≠ []) :
      Refused (.source (.text name) (.other value)) (.rulesNotList name)
  | notARule {name : Text} {before : List Rule} {value : Json} {after : List (Rule ⊕ Json)}
      (named : name ≠ []) :
      Refused (.source (.text name) (.entries (before.map .inl ++ .inr value :: after)))
        (.notARule name value)

variable {tagged : Bool} {sources : List RuleSource} {s : RuleSource} {input : Input}

theorem rulesOf_rules (name : Text) (rules : List Rule) :
    rulesOf name (rules.map .inl) = .ok rules := by
  induction rules with
  | nil => rfl
  | cons r rules ih => simp [rulesOf, ih, bind, Except.bind, pure, Except.pure]

theorem rulesOf_refused (name : Text) (rules : List Rule) (value : Json)
    (after : List (Rule ⊕ Json)) :
    rulesOf name (rules.map .inl ++ .inr value :: after) = .error (.notARule name value) := by
  induction rules with
  | nil => rfl
  | cons r rules ih => simp [rulesOf, ih, bind, Except.bind]

theorem toSource_of (named : s.name ≠ []) : (Input.of s).toSource = .ok s := by
  simp [Input.of, Input.toSource, Json.asNonEmptyText?_text named, rulesOf_rules, bind, Except.bind,
    pure, Except.pure]

/-- A list of entries holds rules only, or something else comes after some rules. -/
theorem entries_cases (items : List (Rule ⊕ Json)) :
    (∃ rules : List Rule, items = rules.map .inl) ∨
      ∃ (before : List Rule) (value : Json) (after : List (Rule ⊕ Json)),
        items = before.map .inl ++ .inr value :: after := by
  induction items with
  | nil => exact .inl ⟨[], rfl⟩
  | cons item items ih =>
    cases item with
    | inr value => exact .inr ⟨[], value, items, rfl⟩
    | inl r =>
      rcases ih with ⟨rules, rfl⟩ | ⟨before, value, after, rfl⟩
      · exact .inl ⟨r :: rules, rfl⟩
      · exact .inr ⟨r :: before, value, after, rfl⟩

/-- Whatever is no source is refused with an error that says why. -/
theorem toSource_refused (malformed : ¬input.WellFormed) :
    ∃ e, input.toSource = .error e ∧ input.Refused e := by
  cases input with
  | other value => exact ⟨_, rfl, .notASource value⟩
  | source name rules =>
    cases read : name.asNonEmptyText? with
    | none => exact ⟨.badName name, by simp [Input.toSource, read], .badName read⟩
    | some text =>
      have named := Json.ne_nil_of_asNonEmptyText? read
      obtain rfl : name = .text text := Json.eq_text_of_asNonEmptyText? read
      cases rules with
      | other value =>
        exact ⟨.rulesNotList text, by simp [Input.toSource, read], .rulesNotList named⟩
      | entries items =>
        rcases entries_cases items with ⟨rules, rfl⟩ | ⟨before, value, after, rfl⟩
        · exact absurd ⟨⟨text, rules⟩, named, rfl⟩ malformed
        · refine ⟨.notARule text value, ?_, .notARule named⟩
          simp [Input.toSource, read, rulesOf_refused, bind, Except.bind]

/-! ## Tagging -/

theorem tagged_of_valid {r : Rule} (valid : r.Valid) (name : Text) :
    r.tagged name = .ok (tag name r) := by
  unfold Rule.tagged tag
  split
  next untagged => simp [Rule.check_draft valid, untagged]
  next given =>
    obtain ⟨source, own⟩ := Option.ne_none_iff_exists'.mp given
    have same : some (r.source.getD name) = r.source := by rw [own]; rfl
    rw [same]

theorem mem_of_mem_fresh {seen : List Text} {rules : List Rule} {r : Rule}
    (member : r ∈ fresh seen rules) : r ∈ rules := by
  induction rules generalizing seen with
  | nil => cases member
  | cons q rules ih =>
    unfold fresh at member
    split at member
    · exact .tail q (ih member)
    · rcases List.mem_cons.mp member with rfl | later
      · exact .head rules
      · exact .tail q (ih later)

theorem tagError?_of_valid (valid : s.Valid) (result : MergeResult) : tagError? result s = none := by
  refine List.findSome?_eq_none_iff.mpr fun r member => ?_
  rw [tagged_of_valid (valid.rules_valid r (mem_of_mem_fresh member))]

/-! ## The whole merge -/

theorem mergeAfter_valid (tagged : Bool) (result : MergeResult) (sources : List RuleSource)
    (valid : ∀ s ∈ sources, s.Valid) (rest : List Input) :
    mergeAfter tagged result (sources.map .of ++ rest) =
      mergeAfter tagged (sources.foldl (add tagged) result) rest := by
  induction sources generalizing result with
  | nil => rfl
  | cons s sources ih =>
    have own := valid s (by simp)
    rw [List.map_cons, List.cons_append, mergeAfter, toSource_of own.name_ne_nil]
    simp only [tagError?_of_valid own, bind, Except.bind, ite_self]
    exact ih (add tagged result s) fun other member => valid other (by simp [member])

theorem mergeInputs_valid (tagged : Bool) (valid : ∀ s ∈ sources, s.Valid) (rest : List Input) :
    mergeInputs tagged (sources.map .of ++ rest) =
      mergeAfter tagged (summary tagged sources) rest := by
  rw [← merge_eq_summary]
  exact mergeAfter_valid tagged empty sources valid rest

theorem length_occurrences (sources : List RuleSource) :
    ((summary tagged sources).counts.map (·.2)).sum = (occurrences sources).length :=
  sum_table_countP (fun entry : Text × Rule => entry.1) (occurrences sources) (nodup_namesOf sources)
    fun _ => name_of_mem_occurrences

theorem length_repeats (sources : List RuleSource) :
    (summary tagged sources).totalDuplicates = (repeats (occurrences sources)).length := by
  have sum := sum_table_countP (fun entry : Text × Rule => entry.1) (repeats (occurrences sources))
    (nodup_namesOf sources) fun _ member => name_of_mem_occurrences (mem_of_mem_repeats member)
  rw [List.sum_eq_foldl] at sum
  exact sum

/-- Merging sources gives their summary: of the rules with one id the first stays, in the order of the
sources and with the name of its source for a tag if it has none; all others are skipped, and counted
under the names of their sources. So the ids that stay are distinct, no id is lost, and the kept and the
skipped rules add up to all that were given. If something given is no source, the first such thing ends
the merge with the error that refuses it. -/
theorem mergeInputs_summary (tagged : Bool) (sources : List RuleSource)
    (valid : ∀ s ∈ sources, s.Valid) :
    mergeInputs tagged (sources.map .of) = .ok (summary tagged sources) ∧
    ((summary tagged sources).rules.map (·.id)).Nodup ∧
    (∀ s ∈ sources, ∀ r ∈ s.rules, r.id ∈ (summary tagged sources).rules.map (·.id)) ∧
    ((summary tagged sources).counts.map (·.2)).sum =
      (summary tagged sources).rules.length + (summary tagged sources).totalDuplicates ∧
    ∀ bad rest, ¬Input.WellFormed bad →
      ∃ e, mergeInputs tagged (sources.map .of ++ bad :: rest) = .error e ∧ bad.Refused e := by
  refine ⟨?_, ?_, ?_, ?_, ?_⟩
  · simpa [mergeAfter] using mergeInputs_valid tagged valid []
  · rw [ids_summary]
    exact nodup_ids_firsts _
  · intro s inside r member
    rw [ids_summary, mem_ids_firsts]
    have occurs : (s.name, r) ∈ occurrences sources :=
      List.mem_flatMap.mpr ⟨s, inside, List.mem_map_of_mem member⟩
    exact List.mem_map.mpr ⟨_, occurs, rfl⟩
  · rw [length_occurrences, length_repeats, ← length_firsts_add_repeats]
    simp [summary]
  · intro bad rest malformed
    obtain ⟨e, refused, reason⟩ := toSource_refused malformed
    refine ⟨e, ?_, reason⟩
    rw [mergeInputs_valid tagged valid (bad :: rest), mergeAfter, refused]
    rfl

/-- Of two rules with one id the first stays, tagged with the name of its source. Nothing comes of what
follows the first thing that is no source. -/
theorem mergeInputs_summary_repeated :
    mergeInputs true
        [.of ⟨[0x78], [Rule.letterRule 0x61 0x62]⟩, .of ⟨[0x79], [Rule.letterRule 0x61 0x63]⟩] =
      .ok
        { rules := [{ Rule.letterRule 0x61 0x62 with source := some [0x78] }]
          duplicates := [([0x78], 0), ([0x79], 1)]
          skipped := [([0x79], [0x61])]
          counts := [([0x78], 1), ([0x79], 1)] } ∧
      mergeInputs true [.of ⟨[0x78], [Rule.letterRule 0x61 0x62]⟩,
          .of ⟨[0x79], [Rule.letterRule 0x61 0x63]⟩, .other .null, .other (.bool true)] =
        .error (.notASource .null) := by
  have reads : ∃ p, Pattern.read [0x61] = .ok p := ⟨_, by cbv⟩
  have valid : ∀ s ∈ [RuleSource.mk [0x78] [Rule.letterRule 0x61 0x62],
      RuleSource.mk [0x79] [Rule.letterRule 0x61 0x63]], s.Valid := by
    intro s member
    simp only [List.mem_cons, List.not_mem_nil, or_false] at member
    rcases member with rfl | rfl
    · exact ⟨by simp, by simpa using Rule.valid_letterRule reads⟩
    · exact ⟨by simp, by simpa using Rule.valid_letterRule reads⟩
  have merged := mergeInputs_summary true _ valid
  refine ⟨merged.1, ?_⟩
  have malformed : ¬Input.WellFormed (.other .null) := by
    rintro ⟨_, _, same⟩
    cases same
  obtain ⟨e, stopped, refused⟩ := merged.2.2.2.2 (.other .null) [.other (.bool true)] malformed
  cases refused
  exact stopped

end Merge
end UrlRules
