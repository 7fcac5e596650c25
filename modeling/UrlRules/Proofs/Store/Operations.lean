import UrlRules.Proofs.Store.RowCodec
import UrlRules.Store.Basic

/-!
# Operations on a store and on a list

An operation is performed on a store, and it has a meaning for a list of rules with distinct ids
(`Operation.onList`): what is answered, and which list is there afterwards. A refused operation leaves
the list as it was. `runAll` runs operations one after the other, on either side.
-/
namespace UrlRules.Store

open Text

/-- What is asked of a store that changes it or its connection. -/
inductive Operation where
  | insert (r : Rule) (first : Bool)
  | insertAll (rules : List Rule) (first : Bool)
  | update (r : Rule)
  | setEnabled (id : Text) (value : Bool)
  | delete (id : Text)
  | prepare
  | close
  | reopen

/-- What comes back if an operation is not refused. -/
inductive Reply where
  | done
  | deleted (found : Bool)
  deriving DecidableEq, Repr

namespace Operation

def perform : Operation → Action Reply
  | .insert r first => do
      Store.insert r first
      return .done
  | .insertAll rules first => do
      Store.insertAll rules first
      return .done
  | .update r => do
      Store.update r
      return .done
  | .setEnabled id value => do
      Store.setEnabled id value
      return .done
  | .delete id => do
      let found ← Store.delete id
      return .deleted found
  | .prepare => do
      Store.prepare
      return .done
  | .close => do
      Store.close
      return .done
  | .reopen => do
      Store.reopen
      return .done

/-- All strings of an operation are Unicode, and its rules are right. -/
def Storable : Operation → Prop
  | .insert r _ => r.Storable
  | .insertAll rules _ => ∀ r ∈ rules, r.Storable
  | .update r => r.Storable
  | .setEnabled id _ => id.IsUnicode
  | .delete id => id.IsUnicode
  | .prepare => True
  | .close => True
  | .reopen => True

/-- The ids among some that rules have already, as they are told. -/
def taken (rules : List Rule) (ids : List Text) : List Text :=
  (ids.filter fun id => id ∈ rules.map (·.id)).mergeSort fun a b => !Text.before b a

/-- Rules put before a list or after it, if no id would be there twice. -/
def addTo (rules new : List Rule) (first : Bool) : Except Error Reply × List Rule :=
  if ¬(new.map (·.id)).Nodup then (.error .repeatedIds, rules)
  else if ∃ r ∈ new, r.id ∈ rules.map (·.id) then
    (.error (.taken (taken rules (new.map (·.id)))), rules)
  else if first then (.ok .done, new.map (·.unsourced) ++ rules)
  else (.ok .done, rules ++ new.map (·.unsourced))

/-- The rule with an id edited in place, if there is one. -/
def editIn (rules : List Rule) (id : Text) (edit : Rule → Rule) : Except Error Reply × List Rule :=
  if id ∈ rules.map (·.id) then (.ok .done, rules.map fun r => if r.id = id then edit r else r)
  else (.error (.notFound id), rules)

/-- The meaning of an operation: its answer, and the list afterwards. -/
def onList : Operation → List Rule → Except Error Reply × List Rule
  | .insert r first, rules => addTo rules [r] first
  | .insertAll new first, rules => addTo rules new first
  | .update r, rules => editIn rules r.id fun _ => r.unsourced
  | .setEnabled id value, rules => editIn rules id fun r => { r with enabled := value }
  | .delete id, rules =>
      (.ok (.deleted (id ∈ rules.map (·.id))), rules.filter fun r => r.id ≠ id)
  | .prepare, rules => (.ok .done, rules)
  | .close, rules => (.ok .done, rules)
  | .reopen, rules => (.ok .done, rules)

variable {rules new : List Rule} {first : Bool} {id : Text} {e : Error}

theorem addTo_refused (refused : (addTo rules new first).1 = .error e) :
    (addTo rules new first).2 = rules := by
  unfold addTo at *
  split
  next => rfl
  next distinct =>
    rw [if_neg distinct] at refused
    split
    next => rfl
    next free =>
      rw [if_neg free] at refused
      cases first <;> cases refused

theorem addTo_added {reply : Reply} (added : (addTo rules new first).1 = .ok reply) :
    (addTo rules new first).2 =
      if first then new.map (·.unsourced) ++ rules else rules ++ new.map (·.unsourced) := by
  unfold addTo at *
  split at added
  · cases added
  next distinct =>
    rw [if_neg distinct]
    split at added
    · cases added
    next free =>
      rw [if_neg free]
      cases first <;> rfl

theorem editIn_refused {edit : Rule → Rule} (refused : (editIn rules id edit).1 = .error e) :
    (editIn rules id edit).2 = rules := by
  unfold editIn at *
  split
  next found =>
    rw [if_pos found] at refused
    cases refused
  next => rfl

/-- A refused operation leaves the list as it was. -/
theorem onList_refused {operation : Operation} (refused : (operation.onList rules).1 = .error e) :
    (operation.onList rules).2 = rules := by
  cases operation with
  | insert r first => exact addTo_refused refused
  | insertAll new first => exact addTo_refused refused
  | update r => exact editIn_refused refused
  | setEnabled id value => exact editIn_refused refused
  | delete id => cases refused
  | prepare => rfl
  | close => rfl
  | reopen => rfl

end Operation

/-! ## Runs -/

/-- Steps one after the other: what they answer, and the state after the last one. -/
def runAll {ι σ α : Type} (step : ι → σ → α × σ) : List ι → σ → List α × σ
  | [], s => ([], s)
  | input :: inputs, s =>
      let (answer, s) := step input s
      let (answers, s) := runAll step inputs s
      (answer :: answers, s)

section Runs

variable {ι σ τ α : Type} {step : ι → σ → α × σ} {other : ι → τ → α × τ} {related : σ → τ → Prop}
  {allowed : ι → Prop} {meant : α → Prop}

/-- If two kinds of steps give the same answers and keep states related, as long as only answers are given that
are meant, then so do their runs. -/
theorem runAll_related
    (one : ∀ input s t, allowed input → related s t → meant (step input s).1 →
      (step input s).1 = (other input t).1 ∧ related (step input s).2 (other input t).2)
    (inputs : List ι) (s : σ) (t : τ) (allow : ∀ input ∈ inputs, allowed input)
    (start : related s t) (all : ∀ answer ∈ (runAll step inputs s).1, meant answer) :
    (runAll step inputs s).1 = (runAll other inputs t).1 ∧
      related (runAll step inputs s).2 (runAll other inputs t).2 := by
  induction inputs generalizing s t with
  | nil => exact ⟨rfl, start⟩
  | cons input inputs ih =>
    simp only [runAll, List.forall_mem_cons] at all ⊢
    obtain ⟨same, next⟩ := one input s t (allow input (by simp)) start all.1
    obtain ⟨others, last⟩ := ih _ _ (fun i later => allow i (by simp [later])) next all.2
    exact ⟨by rw [same, others], last⟩

end Runs

end UrlRules.Store
