import UrlRules.Proofs.Rule.Faults
import UrlRules.Proofs.Store.Actions

/-!
# Rows that hold no rule

Whatever stands in its cells, a row either holds a rule that is right (`valid_of_toRule`) or is damaged in one
way: in its examples, in the names of its parameters, or in what the check of a rule says
(`Row.toRule_eq_error_iff`).

Reading the list stops at the first damaged row. What is said of it is that the attempt has failed only where a
cell is a text that is no JSON, or where the pattern fails for a cause that is not its form; every other damage
surfaces as it is (`Surfaces`). Looking up a rule says this of its own row (`reading_damaged`).
-/
namespace UrlRules

open Text

namespace Row

variable {row : Row} {c : Cell} {value item : Json} {items : List Json} {r : Rule} {e : RowError}

/-! ## Cells and examples -/

/-- A cell holds a value as JSON. -/
def Holds (c : Cell) (value : Json) : Prop := ∃ s, c = .text s ∧ Json.read s = .ok value

theorem jsonOf_eq_ok : jsonOf c = .ok value ↔ Holds c value := by
  cases c with
  | text s => cases read : Json.read s <;> simp [jsonOf, Holds, read]
  | _ => simp [jsonOf, Holds]

theorem jsonOf_eq_error :
    jsonOf c = .error e ↔ ((∀ s, c ≠ .text s) ∧ e = .notText) ∨
      ∃ s failure, c = .text s ∧ Json.read s = .error failure ∧ e = .notJson failure := by
  cases c with
  | text s => cases read : Json.read s <;> simp [jsonOf, read, eq_comm]
  | _ => simp [jsonOf, eq_comm]

/-- An object shows an example in two of its fields. -/
def ShowsCase (item : Json) (shown : Example) : Prop :=
  ∃ fields, item = .object fields ∧ Json.field? fields (Text.of "from") = some shown.input ∧
    Json.field? fields (Text.of "to") = some shown.expected

theorem exampleOf_eq_ok {shown : Example} : exampleOf item = .ok shown ↔ ShowsCase item shown := by
  obtain ⟨input, expected⟩ := shown
  cases item with
  | object fields =>
    cases first : Json.field? fields (Text.of "from") <;> cases second : Json.field? fields (Text.of "to") <;>
      simp [exampleOf, ShowsCase, first, second]
  | _ => simp [exampleOf, ShowsCase]

theorem exampleOf_eq_error :
    exampleOf item = .error e ↔ ((∀ fields, item ≠ .object fields) ∧ e = .exampleNotObject) ∨
      ∃ fields, item = .object fields ∧ e = .exampleIncomplete ∧
        (Json.field? fields (Text.of "from") = none ∨ Json.field? fields (Text.of "to") = none) := by
  cases item with
  | object fields =>
    cases first : Json.field? fields (Text.of "from") <;> cases second : Json.field? fields (Text.of "to") <;>
      simp [exampleOf, first, second, eq_comm]
  | _ => simp [exampleOf, eq_comm]

/-- The examples of a row: a list of them, or another value whose items they are. -/
def ShowsExamples (row : Row) (examples : List Example) : Prop :=
  ∃ value items, Holds row.examples value ∧ Rule.itemsOf? value = some items ∧
    List.Forall₂ ShowsCase items examples

theorem examplesOf_eq_ok {examples : List Example} :
    examplesOf value = .ok examples ↔
      ∃ items, Rule.itemsOf? value = some items ∧ List.Forall₂ ShowsCase items examples := by
  unfold examplesOf
  cases Rule.itemsOf? value with
  | none => simp
  | some items => simp [mapM_eq_ok, exampleOf_eq_ok]

/-! ## Damage -/

/-- The fields of the rule in a row, as far as they are no JSON. -/
def draftWith (row : Row) (names : Json) (examples : List Example) : Rule.Draft where
  id := row.id.toJson
  pattern := row.pattern.toJson
  substitution := row.substitution.toJson
  removeParams := names
  enabled := .bool row.enabled.isTruthy
  examples

/-- Why a row holds no rule. Everything that is read before is right. -/
inductive Damaged (row : Row) : RowError → Prop
  | examplesNotText (other : ∀ s, row.examples ≠ .text s) : Damaged row .notText
  | examplesNotJson {s : Text} {failure : Json.ReadError} (cell : row.examples = .text s)
      (malformed : Json.read s = .error failure) : Damaged row (.notJson failure)
  | examplesNotList {value : Json} (held : Holds row.examples value) (without : Rule.itemsOf? value = none) :
      Damaged row .examplesNotList
  | exampleNotObject {value item : Json} {before after : List Json} (held : Holds row.examples value)
      (found : Rule.itemsOf? value = some (before ++ item :: after))
      (shown : ∀ other ∈ before, ∃ given, ShowsCase other given) (other : ∀ fields, item ≠ .object fields) :
      Damaged row .exampleNotObject
  | exampleIncomplete {value : Json} {before after : List Json} {fields : List (Text × Json)}
      (held : Holds row.examples value) (found : Rule.itemsOf? value = some (before ++ .object fields :: after))
      (shown : ∀ other ∈ before, ∃ given, ShowsCase other given)
      (missing : Json.field? fields (Text.of "from") = none ∨ Json.field? fields (Text.of "to") = none) :
      Damaged row .exampleIncomplete
  | namesNotText {examples : List Example} (shown : row.ShowsExamples examples)
      (other : ∀ s, row.removeParams ≠ .text s) : Damaged row .notText
  | namesNotJson {examples : List Example} {s : Text} {failure : Json.ReadError} (shown : row.ShowsExamples examples)
      (cell : row.removeParams = .text s) (malformed : Json.read s = .error failure) : Damaged row (.notJson failure)
  | rule {examples : List Example} {names : Json} {cause : RuleError} (shown : row.ShowsExamples examples)
      (held : Holds row.removeParams names) (faulty : (row.draftWith names examples).Faulty cause) :
      Damaged row (.rule cause)

theorem toRule_eq (row : Row) :
    row.toRule = (jsonOf row.examples >>= fun value => examplesOf value >>= fun examples =>
      jsonOf row.removeParams >>= fun names =>
        match (row.draftWith names examples).check with
        | .ok r => .ok r
        | .error cause => .error (.rule cause)) := rfl

theorem toRule_eq_ok : row.toRule = .ok r ↔ ∃ examples names, row.ShowsExamples examples ∧
    Holds row.removeParams names ∧ (row.draftWith names examples).check = .ok r := by
  rw [toRule_eq]
  simp only [bind_eq_ok, jsonOf_eq_ok, examplesOf_eq_ok]
  constructor
  · rintro ⟨value, held, examples, ⟨items, found, shown⟩, names, held', checked⟩
    refine ⟨examples, names, ⟨value, items, held, found, shown⟩, held', ?_⟩
    split at checked
    next check =>
      obtain rfl := Except.ok.inj checked
      exact check
    next => cases checked
  · rintro ⟨examples, names, ⟨value, items, held, found, shown⟩, held', checked⟩
    exact ⟨value, held, examples, ⟨items, found, shown⟩, names, held', by rw [checked]⟩

/-- What a row holds is a rule that is right. -/
theorem valid_of_toRule (read : row.toRule = .ok r) : r.Valid := by
  obtain ⟨examples, names, -, -, checked⟩ := toRule_eq_ok.mp read
  exact Rule.valid_of_check checked

theorem examplesOf_eq_error :
    examplesOf value = .error e ↔ (Rule.itemsOf? value = none ∧ e = .examplesNotList) ∨
      ∃ before item after, Rule.itemsOf? value = some (before ++ item :: after) ∧
        (∀ other ∈ before, ∃ given, ShowsCase other given) ∧ exampleOf item = .error e := by
  unfold examplesOf
  cases Rule.itemsOf? value with
  | none => simp [eq_comm]
  | some items => simp [mapM_eq_error, exampleOf_eq_ok]

theorem damaged_of_toRule (failed : row.toRule = .error e) : row.Damaged e := by
  rw [toRule_eq] at failed
  rcases bind_eq_error.mp failed with unread | ⟨value, held, failed⟩
  · rcases jsonOf_eq_error.mp unread with ⟨other, rfl⟩ | ⟨s, failure, cell, malformed, rfl⟩
    · exact .examplesNotText other
    · exact .examplesNotJson cell malformed
  have held := jsonOf_eq_ok.mp held
  rcases bind_eq_error.mp failed with list | ⟨examples, shown, failed⟩
  · rcases examplesOf_eq_error.mp list with ⟨without, rfl⟩ | ⟨before, item, after, found, shown, wrong⟩
    · exact .examplesNotList held without
    · rcases exampleOf_eq_error.mp wrong with ⟨other, rfl⟩ | ⟨fields, rfl, rfl, missing⟩
      · exact .exampleNotObject held found shown other
      · exact .exampleIncomplete held found shown missing
  have shown : row.ShowsExamples examples := by
    obtain ⟨items, found, shown⟩ := examplesOf_eq_ok.mp shown
    exact ⟨value, items, held, found, shown⟩
  rcases bind_eq_error.mp failed with unread | ⟨names, held, failed⟩
  · rcases jsonOf_eq_error.mp unread with ⟨other, rfl⟩ | ⟨s, failure, cell, malformed, rfl⟩
    · exact .namesNotText shown other
    · exact .namesNotJson shown cell malformed
  · split at failed
    · cases failed
    next cause refused =>
      obtain rfl := (Except.error.inj failed).symm
      exact .rule shown (jsonOf_eq_ok.mp held) (Rule.Draft.faulty_of_check refused)

theorem toRule_of_damaged (damaged : row.Damaged e) : row.toRule = .error e := by
  -- Examples that are right are passed, and so is JSON.
  have examplesFail {value : Json} (held : Holds row.examples value) (wrong : examplesOf value = .error e) :
      row.toRule = .error e :=
    bind_eq_error.mpr (.inr ⟨value, jsonOf_eq_ok.mpr held, bind_eq_error.mpr (.inl wrong)⟩)
  have passed {examples : List Example} (shown : row.ShowsExamples examples) :
      row.toRule = (jsonOf row.removeParams >>= fun names =>
        match (row.draftWith names examples).check with
        | .ok r => .ok r
        | .error cause => .error (.rule cause)) := by
    obtain ⟨value, items, held, found, shown⟩ := shown
    simp only [toRule_eq, jsonOf_eq_ok.mpr held, examplesOf_eq_ok.mpr ⟨items, found, shown⟩, bind, Except.bind]
  cases damaged with
  | examplesNotText other => exact bind_eq_error.mpr (.inl (jsonOf_eq_error.mpr (.inl ⟨other, rfl⟩)))
  | examplesNotJson cell malformed =>
    exact bind_eq_error.mpr (.inl (jsonOf_eq_error.mpr (.inr ⟨_, _, cell, malformed, rfl⟩)))
  | examplesNotList held without => exact examplesFail held (examplesOf_eq_error.mpr (.inl ⟨without, rfl⟩))
  | exampleNotObject held found shown other =>
    have wrong := exampleOf_eq_error.mpr (.inl ⟨other, rfl⟩)
    exact examplesFail held (examplesOf_eq_error.mpr (.inr ⟨_, _, _, found, shown, wrong⟩))
  | exampleIncomplete held found shown missing =>
    have wrong := exampleOf_eq_error.mpr (.inr ⟨_, rfl, rfl, missing⟩)
    exact examplesFail held (examplesOf_eq_error.mpr (.inr ⟨_, _, _, found, shown, wrong⟩))
  | namesNotText shown other =>
    rw [passed shown]
    exact bind_eq_error.mpr (.inl (jsonOf_eq_error.mpr (.inl ⟨other, rfl⟩)))
  | namesNotJson shown cell malformed =>
    rw [passed shown]
    exact bind_eq_error.mpr (.inl (jsonOf_eq_error.mpr (.inr ⟨_, _, cell, malformed, rfl⟩)))
  | rule shown held faulty =>
    simp only [passed shown, jsonOf_eq_ok.mpr held, Rule.Draft.check_of_faulty faulty, bind, Except.bind]

theorem toRule_eq_error_iff : row.toRule = .error e ↔ row.Damaged e := ⟨damaged_of_toRule, toRule_of_damaged⟩

end Row

namespace Store

variable {s : Store} {rows : List Row} {row : Row} {attempt : Attempt} {cause : RowError} {e : Error} {r : Rule}

/-! ## What is said of damage -/

/-- How the damage of a row surfaces in an attempt. -/
inductive Surfaces (attempt : Attempt) : RowError → Error → Prop
  | notJson {failure : Json.ReadError} : Surfaces attempt (.notJson failure) (.failed attempt (.notJson failure))
  | pattern {failure : Pattern.Error} :
      Surfaces attempt (.rule (.patternFailure failure)) (.failed attempt (.pattern failure))
  | escapes {cause : RowError} (json : ∀ failure, cause ≠ .notJson failure)
      (pattern : ∀ failure, cause ≠ .rule (.patternFailure failure)) : Surfaces attempt cause (.row cause)

theorem surfaces_iff : Surfaces attempt cause e ↔ ofRowError attempt cause = e := by
  constructor
  · rintro (_ | _ | ⟨json, pattern⟩)
    · rfl
    · rfl
    · unfold ofRowError
      split
      next failure => exact absurd rfl (json failure)
      next failure => exact absurd rfl (pattern failure)
      next => rfl
  · rintro rfl
    unfold ofRowError
    split
    next => exact .notJson
    next => exact .pattern
    next json pattern => exact .escapes json pattern

theorem ruleOf_eq_ok : ruleOf attempt row = .ok r ↔ row.toRule = .ok r := by
  unfold ruleOf
  cases row.toRule <;> simp

theorem ruleOf_eq_error :
    ruleOf attempt row = .error e ↔ ∃ cause, row.Damaged cause ∧ Surfaces attempt cause e := by
  simp only [ruleOf, ← Row.toRule_eq_error_iff, surfaces_iff]
  cases row.toRule <;> simp

/-- The first damaged row, after rows that hold rules. -/
def FirstDamaged (rows : List Row) (cause : RowError) : Prop :=
  ∃ before row after, rows = before ++ row :: after ∧ (∀ other ∈ before, ∃ r, other.toRule = .ok r) ∧
    row.Damaged cause

theorem rulesOf_eq_error :
    rulesOf rows = .error e ↔ ∃ cause, FirstDamaged (inOrder rows) cause ∧ Surfaces .list cause e := by
  simp only [rulesOf, mapM_eq_error, ruleOf_eq_ok, ruleOf_eq_error]
  constructor
  · rintro ⟨before, row, after, whole, each, cause, damaged, surfaces⟩
    exact ⟨cause, ⟨before, row, after, whole, each, damaged⟩, surfaces⟩
  · rintro ⟨cause, ⟨before, row, after, whole, each, damaged⟩, surfaces⟩
    exact ⟨before, row, after, whole, each, cause, damaged, surfaces⟩

theorem valid_of_rulesOf {rules : List Rule} (read : rulesOf rows = .ok rules) : ∀ r ∈ rules, r.Valid := by
  refine forall_of_forall₂ (mapM_eq_ok.mp read) fun row _ r own => ?_
  exact Row.valid_of_toRule (ruleOf_eq_ok.mp own)

/-! ## Reading -/

theorem valid_of_enabled (usable : s.Usable) {rules : List Rule} (read : (enabled.run s).1 = .ok rules) :
    ∀ r ∈ rules, r.Valid := by
  rw [run_enabled usable] at read
  cases all : rulesOf s.rows with
  | error e =>
    rw [all] at read
    cases read
  | ok rules' =>
    rw [all] at read
    obtain rfl := Except.ok.inj read
    exact fun r member => valid_of_rulesOf all r (List.mem_of_mem_filter member)

theorem enabled_eq_error (usable : s.Usable) :
    (enabled.run s).1 = .error e ↔ ∃ cause, FirstDamaged (inOrder s.rows) cause ∧ Surfaces .list cause e := by
  rw [run_enabled usable, ← rulesOf_eq_error]
  cases rulesOf s.rows <;> simp [Except.map]

theorem valid_of_find (usable : s.Usable) {id : Text} (read : ((find id).run s).1 = .ok (some r)) : r.Valid := by
  cases scalar : isScalar id with
  | false =>
    rw [run_find_unencodable usable scalar] at read
    cases read
  | true =>
    rw [run_find usable scalar] at read
    cases found : s.rows.find? (hasId id) with
    | none =>
      rw [found] at read
      cases read
    | some row =>
      rw [found] at read
      cases own : ruleOf (.retrieve id) row with
      | error e =>
        simp only [own] at read
        cases read
      | ok r' =>
        simp only [own] at read
        cases read
        exact Row.valid_of_toRule (ruleOf_eq_ok.mp own)

theorem find_eq_error (usable : s.Usable) {id : Text} :
    ((find id).run s).1 = .error e ↔
      (isScalar id = false ∧ e = .failed (.retrieve id) (.unencodable id)) ∨
        isScalar id = true ∧ ∃ row cause, s.rows.find? (hasId id) = some row ∧ row.Damaged cause ∧
          Surfaces (.retrieve id) cause e := by
  cases scalar : isScalar id with
  | false => simp [run_find_unencodable usable scalar, eq_comm]
  | true =>
    rw [run_find usable scalar]
    cases found : s.rows.find? (hasId id) with
    | none => simp
    | some row =>
      have own : (ruleOf (.retrieve id) row).map some = .error e ↔ ruleOf (.retrieve id) row = .error e := by
        cases ruleOf (.retrieve id) row <;> simp [Except.map]
      simp [own, ruleOf_eq_error]

/-- Whatever the rows hold, reading them gives rules that are right, or an error that tells of the first damaged
row. Looking up a rule tells of its own row only. -/
theorem reading_damaged (usable : s.Usable) (id : Text) :
    ((∀ rules, (list.run s).1 = .ok rules → ∀ r ∈ rules, r.Valid) ∧
        ∀ e, (list.run s).1 = .error e ↔
          ∃ cause, FirstDamaged (inOrder s.rows) cause ∧ Surfaces .list cause e) ∧
      ((∀ rules, (enabled.run s).1 = .ok rules → ∀ r ∈ rules, r.Valid) ∧
        ∀ e, (enabled.run s).1 = .error e ↔
          ∃ cause, FirstDamaged (inOrder s.rows) cause ∧ Surfaces .list cause e) ∧
      (∀ r, ((find id).run s).1 = .ok (some r) → r.Valid) ∧
        ∀ e, ((find id).run s).1 = .error e ↔
          (isScalar id = false ∧ e = .failed (.retrieve id) (.unencodable id)) ∨
            isScalar id = true ∧ ∃ row cause, s.rows.find? (hasId id) = some row ∧ row.Damaged cause ∧
              Surfaces (.retrieve id) cause e := by
  refine ⟨?_, ⟨fun _ => valid_of_enabled usable, fun _ => enabled_eq_error usable⟩,
    fun _ => valid_of_find usable, fun _ => find_eq_error usable⟩
  rw [run_list usable]
  exact ⟨fun _ => valid_of_rulesOf, fun _ => rulesOf_eq_error⟩

/-- A store whose only row has a list of a number for its examples. -/
def damagedStore : Store :=
  let row := { Row.ofRule (Rule.letterRule 0x61 0x62) (.integer 0) with examples := .text (Text.of "[1]") }
  ⟨.database, true, true, [row], [row], .usual⟩

/-- An example that is no object surfaces as it is, in the list and in looking up its rule. -/
theorem reading_damaged_number :
    damagedStore.Usable ∧ (list.run damagedStore).1 = .error (.row .exampleNotObject) ∧
      (∃ cause, FirstDamaged (inOrder damagedStore.rows) cause ∧ Surfaces .list cause (.row .exampleNotObject)) ∧
      ((find (Text.of "a")).run damagedStore).1 = .error (.row .exampleNotObject) := by
  have usable : damagedStore.Usable := ⟨rfl, rfl⟩
  have listed : (list.run damagedStore).1 = .error (.row .exampleNotObject) := by decide +kernel
  have found : ((find (Text.of "a")).run damagedStore).1 = .error (.row .exampleNotObject) := by decide +kernel
  exact ⟨usable, listed, ((reading_damaged usable (Text.of "a")).1.2 _).mp listed, found⟩

end Store
end UrlRules
