import UrlRules.Merge.Basic

/-!
# What can be merged

Whatever is given for a source is checked when its turn comes. A rule is also checked again when it
is tagged.
-/
namespace UrlRules.Merge

open Text

/-- What is given for the rules of a source. -/
inductive RulesInput where
  | entries (items : List (Rule ⊕ Json))
  | other (value : Json)
  deriving Repr

/-- What is given for a source. -/
inductive Input where
  | source (name : Json) (rules : RulesInput)
  | other (value : Json)
  deriving Repr

inductive Error where
  | notASource (value : Json)
  | badName (name : Json)
  | rulesNotList (name : Text)
  | notARule (name : Text) (entry : Json)
  | rule (error : RuleError)
  deriving DecidableEq, Repr

def Error.message : Error → Text
  | .notASource value => Text.of "Invalid rule source: " ++ value.quoted
  | .badName name => Text.of "Rule source name must be a non-empty string, got " ++ name.quoted
  | .rulesNotList name => Text.of "Rules of source '" ++ name ++ Text.of "' must be a list"
  | .notARule name entry =>
      Text.of "Source '" ++ name ++ Text.of "' contains a non-rule entry: " ++ entry.kindName
  | .rule error => error.message

def rulesOf (name : Text) : List (Rule ⊕ Json) → Except Error (List Rule)
  | [] => .ok []
  | .inl r :: items => do return r :: (← rulesOf name items)
  | .inr value :: _ => .error (.notARule name value)

/-- The source that is given. -/
def Input.toSource : Input → Except Error RuleSource
  | .other value => .error (.notASource value)
  | .source name rules =>
      match name.asNonEmptyText? with
      | none => .error (.badName name)
      | some name =>
          match rules with
          | .other _ => .error (.rulesNotList name)
          | .entries items => do return ⟨name, ← rulesOf name items⟩

/-- Why a rule of a source cannot be tagged. -/
def tagError? (result : MergeResult) (source : RuleSource) : Option RuleError :=
  (fresh (result.rules.map (·.id)) source.rules).findSome? fun r =>
    match r.tagged source.name with
    | .ok _ => none
    | .error e => some e

/-- Merges what is given, after a result for the sources before. -/
def mergeAfter (tagged : Bool) (result : MergeResult) : List Input → Except Error MergeResult
  | [] => .ok result
  | input :: inputs => do
      let source ← input.toSource
      if tagged then
        if let some e := tagError? result source then throw (.rule e)
      mergeAfter tagged (add tagged result source) inputs

def mergeInputs (tagged : Bool) (inputs : List Input) : Except Error MergeResult :=
  mergeAfter tagged empty inputs

end UrlRules.Merge
