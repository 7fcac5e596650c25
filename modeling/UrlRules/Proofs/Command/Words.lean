import Mathlib.Data.List.Basic
import UrlRules.Command.Run

/-!
# The words of an update

An update is asked for in words: an option for each thing that is given, and the id of the rule (`updateWords`).
Options with values are read one by one, whatever the values are (`readAfter_optionWords`). So the words ask for the
changes that they were made of, and are refused exactly if they give both a template and parameters
(`read_updateWords`).
-/
namespace UrlRules

open Text

namespace RuleChanges

/-- A template and parameters are both given. -/
def Clashing (changes : RuleChanges) : Prop := changes.substitution.isSome ∧ changes.removeParams ≠ []

instance (changes : RuleChanges) : Decidable changes.Clashing :=
  inferInstanceAs (Decidable (changes.substitution.isSome ∧ changes.removeParams ≠ []))

end RuleChanges

namespace Command

variable {switches : List Switch}

/-! ## Options -/

/-- The words of options with values. -/
def optionWords (options : List (Text × Text)) : List Text := options.flatMap fun option => [option.1, option.2]

/-- The options that give changes. -/
def changeOptions (changes : RuleChanges) : List (Text × Text) :=
  changes.pattern.toList.map (Text.of "--pattern", ·) ++
    changes.substitution.toList.map (Text.of "--substitution", ·) ++
    changes.removeParams.map (Text.of "--remove-param", ·)

/-- The words that ask for changes of a rule. -/
def updateWords (config : Option Text) (id : Text) (changes : RuleChanges) : List Text :=
  optionWords (config.toList.map (Text.of "--config", ·)) ++
    Text.of "rules" :: Text.of "update" :: (optionWords (changeOptions changes) ++ [Text.of "--", id])

/-- The word names an option whose value is the next word. -/
def NamesOption (switches : List Switch) (word : Text) : Prop :=
  word ≠ Text.of "--" ∧ Arguments.readWord? switches word = some (.ok ([], some word))

instance (switches : List Switch) (word : Text) : Decidable (NamesOption switches word) :=
  inferInstanceAs (Decidable (_ ∧ _))

/-- Options with values are read one by one, and then the words after them. -/
theorem readAfter_optionWords {options : List (Text × Text)}
    (known : ∀ option ∈ options, NamesOption switches option.1) (mixed : Bool) (words : List Text) :
    Arguments.readAfter switches mixed none (optionWords options ++ words) =
      (Arguments.readAfter switches mixed none words).map (Arguments.withOptions options) := by
  induction options with
  | nil =>
    rw [optionWords, List.flatMap_nil, List.nil_append]
    cases Arguments.readAfter switches mixed none words <;> rfl
  | cons option options ih =>
    obtain ⟨⟨other, named⟩, others⟩ := List.forall_mem_cons.mp known
    have rest := ih others
    have other : option.1 ≠ [Arguments.hyphen, Arguments.hyphen] := other
    rw [optionWords, List.flatMap_cons, List.append_assoc, ← optionWords]
    simp only [List.cons_append, List.nil_append, Arguments.readAfter, other, if_false, named, rest, bind,
      Except.bind, pure, Except.pure]
    cases Arguments.readAfter switches mixed none words <;> rfl

/-- A word that is no option is a place, and so are those after it. -/
theorem readAfter_place {word : Text} (other : word ≠ Text.of "--")
    (plain : Arguments.readWord? switches word = none) (words : List Text) :
    Arguments.readAfter switches false none (word :: words) = .ok ⟨[], word :: words⟩ := by
  have other : word ≠ [Arguments.hyphen, Arguments.hyphen] := other
  simp [Arguments.readAfter, other, plain]

/-- The values of one option among those of another. -/
theorem filter_pairs (name other : Text) (values : List Text) :
    ((values.map (name, ·)).filter (·.1 == other)).map (·.2) = if name = other then values else [] := by
  by_cases same : name = other <;> simp [List.filter_map, Function.comp_def, same]

theorem values_changeOptions (changes : RuleChanges) (places : List Text) :
    let args : Arguments := ⟨changeOptions changes, places⟩
    args.value? "--pattern" = changes.pattern ∧ args.value? "--substitution" = changes.substitution ∧
      args.values "--remove-param" = changes.removeParams ∧ args.has "--help" = false := by
  have apart : Text.of "--pattern" ≠ Text.of "--substitution" ∧ Text.of "--pattern" ≠ Text.of "--remove-param" ∧
      Text.of "--substitution" ≠ Text.of "--remove-param" ∧
      ∀ name ∈ [Text.of "--pattern", Text.of "--substitution", Text.of "--remove-param"],
        name ≠ Text.of "--help" := by decide
  obtain ⟨first, second, third, help⟩ := apart
  have last (value : Option Text) : value.toList.getLast? = value := by cases value <;> rfl
  refine ⟨?_, ?_, ?_, ?_⟩
  · simp only [Arguments.value?, Arguments.values, changeOptions, List.filter_append, List.map_append, filter_pairs,
      first.symm, second.symm, if_true, if_false, List.append_nil, last]
  · simp only [Arguments.value?, Arguments.values, changeOptions, List.filter_append, List.map_append, filter_pairs,
      first, third.symm, if_true, if_false, List.append_nil, List.nil_append, last]
  · simp only [Arguments.values, changeOptions, List.filter_append, List.map_append, filter_pairs, second, third,
      if_true, if_false, List.nil_append]
  · simp only [List.forall_mem_cons] at help
    simp [Arguments.has, changeOptions, help]

theorem readUpdate_changeOptions (id : Text) (changes : RuleChanges) :
    readUpdate ⟨changeOptions changes, [id]⟩ =
      if changes.Clashing then .error (.clashingOptions "--substitution" "--remove-param")
      else .ok (.update id changes) := by
  obtain ⟨pattern, substitution, names, -⟩ := values_changeOptions changes [id]
  unfold readUpdate
  simp only [pattern, substitution, names]
  by_cases clashing : changes.substitution.isSome ∧ changes.removeParams ≠ []
  · rw [if_pos clashing, if_pos (show changes.Clashing from clashing)]
    rfl
  · rw [if_neg clashing, if_neg (show ¬changes.Clashing from clashing)]
    rfl

/-- The words after the name of the command are options, and the id after two hyphens. -/
theorem read_changeOptions (id : Text) (changes : RuleChanges) :
    Arguments.read [patternSwitch, substitutionSwitch, removeSwitch] true
        (optionWords (changeOptions changes) ++ [Text.of "--", id]) = .ok ⟨changeOptions changes, [id]⟩ := by
  have each : ∀ name ∈ [Text.of "--pattern", Text.of "--substitution", Text.of "--remove-param"],
      NamesOption [Arguments.helpSwitch, patternSwitch, substitutionSwitch, removeSwitch] name := by decide
  have known : ∀ option ∈ changeOptions changes,
      NamesOption [Arguments.helpSwitch, patternSwitch, substitutionSwitch, removeSwitch] option.1 := by
    simp only [changeOptions, List.mem_append, List.mem_map]
    rintro option ((⟨_, -, rfl⟩ | ⟨_, -, rfl⟩) | ⟨_, -, rfl⟩) <;> exact each _ (by simp)
  have last : Arguments.readAfter [Arguments.helpSwitch, patternSwitch, substitutionSwitch, removeSwitch] true none
      [Text.of "--", id] = .ok ⟨[], [id]⟩ := rfl
  rw [Arguments.read, readAfter_optionWords known, last]
  simp [Except.map, Arguments.withOptions]

theorem readRules_update (id : Text) (changes : RuleChanges) :
    readRules (Text.of "update" :: (optionWords (changeOptions changes) ++ [Text.of "--", id])) =
      (readUpdate ⟨changeOptions changes, [id]⟩).map some := by
  have found : ruleReaders.find? (·.name == Text.of "update") =
      some ⟨Text.of "update", [patternSwitch, substitutionSwitch, removeSwitch], readUpdate⟩ := rfl
  have help : Arguments.has ⟨changeOptions changes, [id]⟩ "--help" = false := (values_changeOptions changes [id]).2.2.2
  have noHelp (places : List Text) : Arguments.has ⟨[], places⟩ "--help" = false := rfl
  unfold readRules
  rw [Arguments.read, readAfter_place (by decide) (by decide)]
  simp only [bind, Except.bind, noHelp, Bool.false_eq_true, if_false, readWith, found, read_changeOptions, help, pure,
    Except.pure]
  cases readUpdate ⟨changeOptions changes, [id]⟩ <;> rfl

/-- The words are understood unless they give both a template and parameters. -/
theorem read_updateWords (config : Option Text) (id : Text) (changes : RuleChanges) :
    read (updateWords config id changes) =
      if changes.Clashing then .error (.clashingOptions "--substitution" "--remove-param")
      else .ok ⟨config.map Path.ofText, some (.update id changes)⟩ := by
  have named : NamesOption [Arguments.helpSwitch, ⟨"--config", some 0x63, true⟩, ⟨"--verbose", some 0x76, false⟩]
    (Text.of "--config") := by decide
  have known : ∀ option ∈ config.toList.map (Text.of "--config", ·),
      NamesOption [Arguments.helpSwitch, ⟨"--config", some 0x63, true⟩, ⟨"--verbose", some 0x76, false⟩] option.1 :=
    List.forall_mem_map.mpr fun _ _ => named
  have value (places : List Text) :
      Arguments.value? ⟨config.toList.map (Text.of "--config", ·), places⟩ "--config" = config := by
    cases config <;> simp [Arguments.value?, Arguments.values]
  have noHelp (places : List Text) :
      Arguments.has ⟨config.toList.map (Text.of "--config", ·), places⟩ "--help" = false := by
    have other : Text.of "--config" ≠ Text.of "--help" := by decide
    cases config <;> simp [Arguments.has, other]
  have group : Text.of "rules" = groupName := rfl
  unfold read
  rw [updateWords, Arguments.read, readAfter_optionWords known, readAfter_place (by decide) (by decide)]
  simp only [bind, Except.bind, Except.map, Arguments.withOptions, List.append_nil, value, noHelp,
    Bool.false_eq_true, if_false, group, if_true, readRules_update, readUpdate_changeOptions, pure, Except.pure]
  by_cases clashing : changes.Clashing
  · rw [if_pos clashing, if_pos clashing]
  · rw [if_neg clashing, if_neg clashing]

end Command
end UrlRules
