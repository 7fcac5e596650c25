import UrlRules.Json.Basic

/-!
# Fields of an object

Writing a name that is not there yet puts it at the end, so writing distinct names one after the other
gives just what is written. What is written under a name is found there, and replaced by what is written later.
-/
namespace UrlRules.Json

variable {α : Type} {fields : List (Text × α)} {name : Text}

theorem field?_of_not_mem (new : name ∉ fields.map (·.1)) : field? fields name = none := by
  induction fields with
  | nil => rfl
  | cons field fields ih =>
    obtain ⟨other, new⟩ := List.ne_and_not_mem_of_not_mem_cons new
    simp only [field?]
    rw [if_neg (Ne.symm other)]
    exact ih new

theorem setField_of_not_mem (new : name ∉ fields.map (·.1)) (value : α) :
    setField fields name value = fields ++ [(name, value)] := by
  induction fields with
  | nil => rfl
  | cons field fields ih =>
    obtain ⟨other, new⟩ := List.ne_and_not_mem_of_not_mem_cons new
    simp only [setField, List.cons_append]
    rw [if_neg (Ne.symm other), ih new]

@[simp] theorem field?_setField (fields : List (Text × α)) (name : Text) (value : α) :
    field? (setField fields name value) name = some value := by
  induction fields with
  | nil => simp [setField, field?]
  | cons field fields ih => by_cases same : field.1 = name <;> simp [setField, field?, same, ih]

theorem field?_setField_of_ne {other : Text} (apart : other ≠ name) (fields : List (Text × α)) (value : α) :
    field? (setField fields name value) other = field? fields other := by
  induction fields with
  | nil => simp [setField, field?, Ne.symm apart]
  | cons field fields ih =>
    by_cases same : field.1 = name
    · simp [setField, field?, same, Ne.symm apart]
    · simp [setField, field?, same, ih]

@[simp] theorem setField_setField (fields : List (Text × α)) (name : Text) (value later : α) :
    setField (setField fields name value) name later = setField fields name later := by
  induction fields with
  | nil => simp [setField]
  | cons field fields ih => by_cases same : field.1 = name <;> simp [setField, same, ih]

theorem foldl_setField {writes : List (Text × α)} (distinct : ((fields ++ writes).map (·.1)).Nodup) :
    writes.foldl (fun fields (name, value) => setField fields name value) fields =
      fields ++ writes := by
  induction writes generalizing fields with
  | nil => simp
  | cons write writes ih =>
    obtain ⟨name, value⟩ := write
    have new : name ∉ fields.map (·.1) := by
      rw [List.map_append, List.nodup_append] at distinct
      intro old
      exact distinct.2.2 _ old _ (by simp) rfl
    simp only [List.foldl_cons, setField_of_not_mem new]
    rw [ih]
    · simp
    · simpa using distinct

theorem ofWrites_of_nodup {writes : List (Text × α)} (distinct : (writes.map (·.1)).Nodup) :
    ofWrites writes = writes :=
  foldl_setField (by simpa using distinct)

end UrlRules.Json
