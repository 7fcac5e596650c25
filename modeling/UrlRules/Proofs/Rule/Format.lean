import Mathlib.Logic.Basic
import UrlRules.Proofs.Rule.Check
import UrlRules.Rule.Apply
import UrlRules.Rule.Wire

/-!
# What is taken as a rule

The fields of an object `Carry` a rule if each has the value of the rule under its name, or under an older name where
the object does not have it, or is left out as the format allows. A value is read as a rule exactly if it is an object
whose fields carry the rule and the rule is valid, and such a rule either strips parameters or expands a template, and
not both (`ofJson_iff_carries`).
-/
namespace UrlRules

open Text

namespace Json

variable {α : Type} {fields : List (Text × Json)} {name older : String} {value : Json}

/-- A field is absent, or its value counts as nothing. -/
def Omitted (fields : List (Text × Json)) (name : String) : Prop :=
  ∀ value, field? fields (Text.of name) = some value → value.isTruthy = false

/-- The value of a field, or of an older one where the field is absent; null where both are. A field that is null is
not absent. -/
inductive Given (fields : List (Text × Json)) (name older : String) : Json → Prop
  | own {value : Json} (found : field? fields (Text.of name) = some value) : Given fields name older value
  | older {value : Json} (absent : field? fields (Text.of name) = none)
      (found : field? fields (Text.of older) = some value) : Given fields name older value
  | absent (own : field? fields (Text.of name) = none) (other : field? fields (Text.of older) = none) :
      Given fields name older .null

/-- A field is a list whose items show some values, one by one; it may be omitted where there are none. -/
def Listed (fields : List (Text × Json)) (name : String) (Shows : Json → α → Prop) (values : List α) : Prop :=
  (Omitted fields name ∧ values = []) ∨
    ∃ items, field? fields (Text.of name) = some (.list items) ∧ List.Forall₂ Shows items values

theorem omitted_iff : Omitted fields name ↔ ((field? fields (Text.of name)).getD .null).isTruthy = false := by
  unfold Omitted
  cases field? fields (Text.of name) <;> simp [isTruthy]

end Json

namespace Rule

open Json (Omitted Given Listed)

variable {fields : List (Text × Json)} {name older : String} {value data : Json} {r : Rule}
  {source : Option Text} {id pattern : Text}

theorem fieldOr_eq_iff : fieldOr fields name older = value ↔ Given fields name older value := by
  unfold fieldOr
  constructor
  · rintro rfl
    cases own : Json.field? fields (Text.of name) with
    | some value => exact .own own
    | none =>
      cases other : Json.field? fields (Text.of older) with
      | some value => exact .older own other
      | none => exact .absent own other
  · rintro (found | ⟨absent, found⟩ | ⟨own, other⟩)
    · simp [found]
    · simp [absent, found]
    · simp [own, other]

/-! ## Names of parameters -/

/-- The names of parameters in a file, which may be absent or empty. -/
def paramsOf (fields : List (Text × Json)) : Json :=
  let params := (Json.field? fields (Text.of "removeParams")).getD .null
  if params.isTruthy then params else .list []

theorem paramsOf_eq (fields : List (Text × Json)) :
    (if ((Json.field? fields (Text.of "removeParams")).getD .null).isTruthy then
      (Json.field? fields (Text.of "removeParams")).getD .null
    else .list []) = paramsOf fields := rfl

theorem paramsOf_of_omitted (omitted : Omitted fields "removeParams") : paramsOf fields = .list [] :=
  if_neg (by simp [Json.omitted_iff.mp omitted])

theorem paramsOf_of_list {items : List Json}
    (found : Json.field? fields (Text.of "removeParams") = some (.list items)) : paramsOf fields = .list items := by
  cases items <;> simp [paramsOf, found, Json.isTruthy]

/-- A value shows a name. -/
def ShowsName (item : Json) (name : Text) : Prop := item = .text name

theorem forall₂_showsName {items : List Json} {names : List Text} :
    List.Forall₂ ShowsName items names ↔ items = names.map .text := by
  rw [← List.forall₂_eq_eq_eq, List.forall₂_map_right_iff]
  rfl

/-- The names in an object are read if they are listed and none is empty. -/
theorem listed_of_checkNames {names : List Text}
    (params : Omitted fields "removeParams" ∨
      ∃ items, Json.field? fields (Text.of "removeParams") = some (.list items))
    (checked : Draft.checkNames id (paramsOf fields) = .ok names) : Listed fields "removeParams" ShowsName names := by
  rcases params with omitted | ⟨items, found⟩
  · rw [paramsOf_of_omitted omitted, checkNames_list] at checked
    exact .inl ⟨omitted, List.map_eq_nil_iff.mp checked.1.symm⟩
  · rw [paramsOf_of_list found, checkNames_list] at checked
    exact .inr ⟨items, found, forall₂_showsName.mpr checked.1⟩

theorem paramsOf_of_listed {names : List Text} (listed : Listed fields "removeParams" ShowsName names) :
    paramsOf fields = .list (names.map .text) := by
  rcases listed with ⟨omitted, rfl⟩ | ⟨items, found, shown⟩
  · exact paramsOf_of_omitted omitted
  · rw [paramsOf_of_list found, forall₂_showsName.mp shown]

/-! ## Examples -/

/-- A value shows an example: it is an object with the two texts under `from` and `to`. -/
def ShowsExample (item : Json) (e : Example) : Prop :=
  ∃ fields input expected, item = .object fields ∧ Json.field? fields (Text.of "from") = some (.text input) ∧
    Json.field? fields (Text.of "to") = some (.text expected) ∧ e = ⟨.text input, .text expected⟩

theorem readExample?_eq_some_iff {e : Example} : readExample? value = some e ↔ ShowsExample value e := by
  constructor
  · intro read
    unfold readExample? at read
    split at read
    next fields =>
      split at read
      next input expected first second =>
        exact ⟨fields, input, expected, rfl, first, second, (Option.some.inj read).symm⟩
      next => cases read
    next => cases read
  · rintro ⟨fields, input, expected, rfl, first, second, rfl⟩
    simp [readExample?, first, second]

theorem readExamples_list {items : List Json} {examples : List Example} :
    readExamples id (.list items) = .ok examples ↔ List.Forall₂ ShowsExample items examples := by
  have each : items.mapM readExample? = some examples ↔ List.Forall₂ ShowsExample items examples := by
    simp only [mapM_eq_some, readExample?_eq_some_iff]
  rw [← each]
  cases items with
  | nil => simp [readExamples, Json.isTruthy]
  | cons item items =>
    cases read : (item :: items).mapM readExample? <;> simp [readExamples, Json.isTruthy, itemsOf?, read]

/-- Neither the names of an object nor the characters of a text are examples. -/
theorem eq_list_of_readExamples {examples : List Example} (truthy : value.isTruthy = true)
    (read : readExamples id value = .ok examples) : ∃ items, value = .list items := by
  simp only [readExamples, truthy, Bool.not_true, Bool.false_eq_true, if_false] at read
  cases value with
  | list items => exact ⟨items, rfl⟩
  | object fields =>
    cases fields with
    | nil => cases truthy
    | cons field fields => simp [itemsOf?, readExample?] at read
  | text s =>
    cases s with
    | nil => cases truthy
    | cons c s => simp [itemsOf?, readExample?] at read
  | _ => cases read

theorem readExamples_eq_ok_iff {examples : List Example} :
    readExamples id ((Json.field? fields (Text.of "test")).getD .null) = .ok examples ↔
      Listed fields "test" ShowsExample examples := by
  constructor
  · intro read
    cases truthy : ((Json.field? fields (Text.of "test")).getD .null).isTruthy with
    | false =>
      have none : examples = [] := by simpa [readExamples, truthy] using read.symm
      exact .inl ⟨Json.omitted_iff.mpr truthy, none⟩
    | true =>
      obtain ⟨items, list⟩ := eq_list_of_readExamples truthy read
      rw [list, readExamples_list] at read
      refine .inr ⟨items, ?_, read⟩
      cases found : Json.field? fields (Text.of "test") <;> simp_all
  · rintro (⟨omitted, rfl⟩ | ⟨items, found, shown⟩)
    · simp [readExamples, Json.omitted_iff.mp omitted]
    · rw [found, Option.getD_some, readExamples_list]
      exact shown

/-! ## Drafts -/

/-- The fields of an object are right as far as they are looked at before its examples. -/
structure Begins (fields : List (Text × Json)) (id pattern : Text) : Prop where
  named : Json.field? fields (Text.of "id") = some (.text id)
  id_ne_nil : id ≠ []
  filtered : Given fields "regexFilter" "from" (.text pattern)
  pattern_ne_nil : pattern ≠ []
  substituted : ∃ template, Given fields "regexSubstitution" "to" (textOrNull template)
  params : Omitted fields "removeParams" ∨
    ∃ items, Json.field? fields (Text.of "removeParams") = some (.list items)

theorem textOrNull_text (s : Option Text) :
    ¬(textOrNull s ≠ .null ∧ (textOrNull s).asText? = none) := by
  cases s <;> simp [textOrNull, Json.asText?]

/-- The draft in an object, once its examples are known. -/
def draftWith (fields : List (Text × Json)) (id : Text) (source : Option Text) (examples : List Example) : Draft where
  id := .text id
  pattern := fieldOr fields "regexFilter" "from"
  substitution := fieldOr fields "regexSubstitution" "to"
  removeParams := paramsOf fields
  enabled := (Json.field? fields (Text.of "enabled")).getD (.bool true)
  source := source
  examples := examples

theorem draftOf_of_begins (begins : Begins fields id pattern) (source : Option Text) :
    draftOf (.object fields) source =
      (readExamples id ((Json.field? fields (Text.of "test")).getD .null)).map (draftWith fields id source) := by
  obtain ⟨named, id_ne_nil, filtered, pattern_ne_nil, ⟨template, substituted⟩, params⟩ := begins
  have listed : (paramsOf fields).asList? ≠ none := by
    rcases params with omitted | ⟨items, found⟩
    · simp [paramsOf_of_omitted omitted, Json.asList?]
    · simp [paramsOf_of_list found, Json.asList?]
  unfold draftOf draftWith
  simp only [named, fieldOr_eq_iff.mpr filtered, fieldOr_eq_iff.mpr substituted, Option.getD_some,
    Json.asNonEmptyText?_text id_ne_nil, Json.asNonEmptyText?_text pattern_ne_nil, reduceCtorEq, if_false,
    if_neg (textOrNull_text template), paramsOf_eq, if_neg listed, bind, Except.bind, pure, Except.pure]
  cases readExamples id ((Json.field? fields (Text.of "test")).getD .null) <;> rfl

theorem ofJson_of_begins (begins : Begins fields id pattern) (source : Option Text) :
    ofJson (.object fields) source =
      (readExamples id ((Json.field? fields (Text.of "test")).getD .null) >>= fun examples =>
        (draftWith fields id source examples).check) := by
  rw [ofJson, draftOf_of_begins begins]
  cases readExamples id ((Json.field? fields (Text.of "test")).getD .null) <;> rfl

theorem found_of_getD {s : Text} (text : ((Json.field? fields (Text.of name)).getD .null) = .text s) :
    Json.field? fields (Text.of name) = some (.text s) := by
  cases found : Json.field? fields (Text.of name) <;> simp_all

theorem exists_textOrNull (text : ¬(value ≠ .null ∧ value.asText? = none)) :
    ∃ template, value = textOrNull template := by
  cases value with
  | null => exact ⟨none, rfl⟩
  | text s => exact ⟨some s, rfl⟩
  | _ => exact absurd ⟨by simp, rfl⟩ text

theorem params_of_asList? (listed : (paramsOf fields).asList? ≠ none) :
    Omitted fields "removeParams" ∨ ∃ items, Json.field? fields (Text.of "removeParams") = some (.list items) := by
  cases truthy : ((Json.field? fields (Text.of "removeParams")).getD .null).isTruthy with
  | false => exact .inl (Json.omitted_iff.mpr truthy)
  | true =>
    rw [paramsOf, if_pos truthy] at listed
    cases found : Json.field? fields (Text.of "removeParams") with
    | none => simp [found, Json.isTruthy] at truthy
    | some value =>
      cases value with
      | list items => exact .inr ⟨items, rfl⟩
      | _ => simp [found, Json.asList?] at listed

theorem draftOf_cases (data : Json) (source : Option Text) :
    (∃ fault, draftOf data source = .error (.invalidRecord fault)) ∨
      ∃ fields id pattern, data = .object fields ∧ Begins fields id pattern := by
  unfold draftOf
  split
  next fields =>
    cases named : ((Json.field? fields (Text.of "id")).getD .null).asNonEmptyText? with
    | none => exact .inl ⟨.missingId, by simp [named, throw, throwThe, MonadExceptOf.throw]⟩
    | some id =>
      simp only [named, bind, Except.bind, pure, Except.pure, throw, throwThe, MonadExceptOf.throw, paramsOf_eq]
      -- The pattern, the template and the parameters are looked at in this order.
      split
      · exact .inl ⟨_, rfl⟩
      next filtered =>
        split
        · exact .inl ⟨_, rfl⟩
        next substituted =>
          split
          · exact .inl ⟨_, rfl⟩
          next listed =>
            obtain ⟨pattern, text⟩ := Option.ne_none_iff_exists'.mp filtered
            obtain ⟨template, null⟩ := exists_textOrNull substituted
            exact .inr ⟨fields, id, pattern, rfl, {
              named := found_of_getD (Json.eq_text_of_asNonEmptyText? named)
              id_ne_nil := Json.ne_nil_of_asNonEmptyText? named
              filtered := fieldOr_eq_iff.mp (Json.eq_text_of_asNonEmptyText? text)
              pattern_ne_nil := Json.ne_nil_of_asNonEmptyText? text
              substituted := ⟨template, fieldOr_eq_iff.mp null⟩
              params := params_of_asList? listed }⟩
  next => exact .inl ⟨_, rfl⟩

/-! ## Rules -/

/-- The fields of an object carry a rule, wherever it came from. -/
structure Carry (fields : List (Text × Json)) (r : Rule) : Prop where
  named : Json.field? fields (Text.of "id") = some (.text r.id)
  filtered : Given fields "regexFilter" "from" (.text r.pattern)
  substituted : Given fields "regexSubstitution" "to" (textOrNull r.substitution)
  params : Listed fields "removeParams" ShowsName r.removeParams
  enabled : Json.field? fields (Text.of "enabled") = some (.bool r.enabled) ∨
    Json.field? fields (Text.of "enabled") = none ∧ r.enabled = true
  examples : Listed fields "test" ShowsExample r.examples

theorem enabled_getD_iff {b : Bool} : (Json.field? fields (Text.of "enabled")).getD (.bool true) = .bool b ↔
    Json.field? fields (Text.of "enabled") = some (.bool b) ∨
      Json.field? fields (Text.of "enabled") = none ∧ b = true := by
  cases Json.field? fields (Text.of "enabled") <;> simp [eq_comm]

theorem Carry.begins (carry : Carry fields r) (valid : r.Valid) : Begins fields r.id r.pattern where
  named := carry.named
  id_ne_nil := valid.id_ne_nil
  filtered := carry.filtered
  pattern_ne_nil := valid.pattern_ne_nil
  substituted := ⟨r.substitution, carry.substituted⟩
  params := by
    rcases carry.params with ⟨omitted, -⟩ | ⟨items, found, -⟩
    · exact .inl omitted
    · exact .inr ⟨items, found⟩

/-- Where fields carry a rule, their draft is that of the rule. -/
theorem Carry.draftWith (carry : Carry fields r) (source : Option Text) :
    Rule.draftWith fields r.id source r.examples = { r.draft with source } := by
  simp only [Rule.draftWith, draft, fieldOr_eq_iff.mpr carry.filtered, fieldOr_eq_iff.mpr carry.substituted,
    paramsOf_of_listed carry.params, enabled_getD_iff.mpr carry.enabled]

theorem Carry.ofJson (carry : Carry fields r) (valid : r.Valid) (source : Option Text) :
    Rule.ofJson (.object fields) source = .ok { r with source } := by
  rw [ofJson_of_begins (carry.begins valid), readExamples_eq_ok_iff.mpr carry.examples]
  show (Rule.draftWith fields r.id source r.examples).check = _
  rw [carry.draftWith]
  exact check_draft valid source

theorem asText?_textOrNull (template : Option Text) : (textOrNull template).asText? = template := by
  cases template <;> rfl

/-- A rule that is read has passed the check of a draft. -/
theorem check_of_ofJson (read : ofJson data source = .ok r) :
    ∃ fields id pattern examples, data = .object fields ∧ Begins fields id pattern ∧
      Listed fields "test" ShowsExample examples ∧ (draftWith fields id source examples).check = .ok r := by
  rcases draftOf_cases data source with ⟨fault, failed⟩ | ⟨fields, id, pattern, rfl, begins⟩
  · rw [ofJson, failed] at read
    cases read
  · rw [ofJson_of_begins begins] at read
    obtain ⟨examples, listed, checked⟩ := bind_eq_ok.mp read
    exact ⟨fields, id, pattern, examples, rfl, begins, readExamples_eq_ok_iff.mp listed, checked⟩

/-- Whatever is read as a rule is an object whose fields carry the rule, which is valid. -/
theorem carry_of_ofJson (read : ofJson data source = .ok r) :
    (∃ fields, data = .object fields ∧ Carry fields r) ∧ r.Valid ∧ r.source = source := by
  obtain ⟨fields, id, pattern, examples, rfl, begins, listed, checked⟩ := check_of_ofJson read
  obtain ⟨named, filtered, substituted, names, enabled, given, rfl⟩ := check_ok checked
  obtain ⟨template, own⟩ := begins.substituted
  refine ⟨⟨fields, rfl, ?_⟩, valid_of_check checked, given⟩
  exact {
    named := by
      rw [begins.named, ← named]
      rfl
    filtered := fieldOr_eq_iff.mp filtered
    substituted := by
      rw [substituted, draftWith, fieldOr_eq_iff.mpr own, asText?_textOrNull]
      exact own
    params := listed_of_checkNames begins.params names
    enabled := enabled_getD_iff.mp enabled
    examples := listed }

/-! ## What rules do -/

/-- The rule has parameters and no template: it strips the parameters of every URL in which its pattern is found. -/
def Strips (r : Rule) : Prop :=
  r.substitution = none ∧ r.removeParams ≠ [] ∧ ∀ p url, Pattern.read r.pattern = .ok p →
    r.apply url = .ok (if (p.search url).isSome then Query.remove url r.removeParams else none)

/-- What a template makes of a URL with a match: without characters, it deletes all matches. -/
def expansion (template : Text) (p : Pattern) (m : Pattern.Match) (url : Text) : Except ApplyError (Option Text) :=
  if template = [] then .ok (some (p.erase url))
  else
    match Template.expandMatch template p m with
    | .ok s => .ok (some s)
    | .error e => .error (.reference e)

/-- The rule has a template and no parameters: it expands the template for every URL in which its pattern is found. -/
def Expands (r : Rule) : Prop :=
  r.removeParams = [] ∧ ∃ template, r.substitution = some template ∧ ∀ p url, Pattern.read r.pattern = .ok p →
    r.apply url =
      match p.search url with
      | none => .ok none
      | some m => expansion template p m url

theorem strips_of_none (valid : r.Valid) (none : r.substitution = none) : r.Strips := by
  have strips : r.removeParams ≠ [] := fun empty => by
    have given := valid.one_behaviour.mpr empty
    simp [none] at given
  refine ⟨none, strips, fun p url reads => ?_⟩
  cases found : p.search url <;> simp [apply, reads, found, transform, stripsParams, strips]

theorem expands_of_some (valid : r.Valid) {template : Text} (given : r.substitution = some template) : r.Expands := by
  have keeps : r.removeParams = [] := valid.one_behaviour.mp (by simp [given])
  refine ⟨keeps, template, given, fun p url reads => ?_⟩
  cases found : p.search url with
  | none => simp [apply, reads, found]
  | some m =>
    simp only [apply, reads, found, transform, stripsParams, keeps, given, expansion]
    cases template <;> rfl

/-- A valid rule does one of the two, and not the other. -/
theorem strips_xor_expands (valid : r.Valid) : Xor r.Strips r.Expands := by
  cases given : r.substitution with
  | none =>
    have strips := strips_of_none valid given
    exact .inl ⟨strips, fun expands => strips.2.1 expands.1⟩
  | some template =>
    have expands := expands_of_some valid given
    exact .inr ⟨expands, fun strips => strips.2.1 expands.1⟩

/-- A value is read as a rule exactly if it is an object whose fields carry the rule, the rule is valid, and its source
is the one that is given. And each rule that is read does one of the two things that rules do, and not the other. -/
theorem ofJson_iff_carries (data : Json) (source : Option Text) (r : Rule) :
    (ofJson data source = .ok r ↔
      (∃ fields, data = .object fields ∧ Carry fields r) ∧ r.Valid ∧ r.source = source) ∧
    (ofJson data source = .ok r → Xor r.Strips r.Expands) := by
  constructor
  · constructor
    · exact carry_of_ofJson
    · rintro ⟨⟨fields, rfl, carry⟩, valid, rfl⟩
      exact carry.ofJson valid r.source
  · intro read
    exact strips_xor_expands (carry_of_ofJson read).2.1

/-- A field that is null hides the one of the older name, so this rule has no template. -/
theorem ofJson_iff_carries_older :
    let r : Rule := ⟨[0x61], [0x62], none, [[0x78]], true, none, []⟩
    let fields := [(Text.of "id", .text [0x61]), (Text.of "from", .text [0x62]), (Text.of "regexSubstitution", .null),
      (Text.of "to", .text [0x63]), (Text.of "removeParams", .list [.text [0x78]]), (Text.of "test", .int 0)]
    ofJson (.object fields) none = .ok r ∧ Xor r.Strips r.Expands := by
  intro r fields
  have carry : Carry fields r := {
    named := rfl
    filtered := .older rfl rfl
    substituted := .own rfl
    params := .inr ⟨_, rfl, .cons rfl .nil⟩
    enabled := .inr ⟨rfl, rfl⟩
    examples := .inl ⟨Json.omitted_iff.mpr rfl, rfl⟩ }
  have reads : ∃ p, Pattern.read r.pattern = .ok p := ⟨_, rfl⟩
  have valid : r.Valid := ⟨by simp [r], by simp [r], reads, by simp [r], by simp [r]⟩
  obtain ⟨taken, one⟩ := ofJson_iff_carries (.object fields) none r
  have read := taken.mpr ⟨⟨fields, rfl, carry⟩, valid, rfl⟩
  exact ⟨read, one read⟩

end Rule
end UrlRules
