import UrlRules.Command.Error
import UrlRules.Document.Import
import UrlRules.Proofs.Results

/-!
# Entries of a document

An entry gives a rule, or an issue if it is refused with an error that is reported (`Refusal`), or it stops reading.
`readEntries_of_ok`, `readEntries_of_refusal` and `readEntries_of_error` say what that means for the entries from there
on. So entries give rules and no issue exactly if each of them gives a rule, and the ids of the rules are distinct where
that is asked for (`readEntries_eq_ok_iff`), and the same holds of documents (`parse_eq_ok_iff`).
-/
namespace UrlRules

open Text

namespace Document

variable {source : Option Text} {unique : Bool} {index : Nat} {seen : List Text} {entry : Json} {entries : List Json}
  {rules : List Rule} {data : Json} {r : Rule} {issue : Issue} {e : RuleError}

/-- What is reported of an entry that is refused. -/
inductive Refusal (source : Option Text) (index : Nat) (entry : Json) : Issue → Prop
  | invalid {fault : RuleFault} (refused : Rule.ofJson entry source = .error (.invalidRecord fault)) :
      Refusal source index entry ⟨index, shownId entry fault, .invalid fault⟩
  | pattern {pattern : Text} {reason : Pattern.Error} {id : Text}
      (refused : Rule.ofJson entry source = .error (.invalidPattern pattern reason id)) :
      Refusal source index entry ⟨index, id, .invalidPattern pattern reason id⟩

theorem Refusal.index_eq (refusal : Refusal source index entry issue) : issue.index = index := by
  cases refusal <;> rfl

theorem Refusal.failed (refusal : Refusal source index entry issue) :
    ∃ e, Rule.ofJson entry source = .error e ∧ e.isReported = true := by
  cases refusal with
  | invalid refused => exact ⟨_, refused, rfl⟩
  | pattern refused => exact ⟨_, refused, rfl⟩

theorem exists_refusal (refused : Rule.ofJson entry source = .error e) (reported : e.isReported = true)
    (index : Nat) : ∃ issue, Refusal source index entry issue := by
  cases e with
  | invalidRecord fault => exact ⟨_, .invalid refused⟩
  | invalidPattern pattern reason id => exact ⟨_, .pattern refused⟩
  | patternFailure => cases reported
  | notIterable => cases reported

/-! ## One entry after the other -/

theorem readEntries_of_ok (made : Rule.ofJson entry source = .ok r) :
    readEntries source unique index seen (entry :: entries) =
      (readEntries source unique (index + 1) (r.id :: seen) entries).map fun (rules, issues) =>
        (r :: rules, if unique && seen.contains r.id then ⟨index, r.id, .duplicateId r.id⟩ :: issues else issues) := by
  simp only [readEntries, readEntry, made]
  cases others : readEntries source unique (index + 1) (r.id :: seen) entries <;>
    simp only [others, bind, Except.bind, pure, Except.pure, Except.map]

theorem Refusal.readEntry (refusal : Refusal source index entry issue) :
    Document.readEntry source index entry = .ok (.error issue) := by
  cases refusal with
  | invalid refused => simp [Document.readEntry, refused]
  | pattern refused => simp [Document.readEntry, refused]

theorem readEntries_of_refusal (refusal : Refusal source index entry issue) :
    readEntries source unique index seen (entry :: entries) =
      (readEntries source unique (index + 1) seen entries).map fun (rules, issues) => (rules, issue :: issues) := by
  simp only [readEntries, refusal.readEntry]
  cases readEntries source unique (index + 1) seen entries <;>
    simp only [bind, Except.bind, pure, Except.pure, Except.map]

theorem readEntries_of_error (failed : Rule.ofJson entry source = .error e) (unreported : e.isReported = false) :
    readEntries source unique index seen (entry :: entries) = .error e := by
  cases e with
  | invalidRecord => cases unreported
  | invalidPattern => cases unreported
  | patternFailure => simp only [readEntries, readEntry, failed]; rfl
  | notIterable => simp only [readEntries, readEntry, failed]; rfl

/-- An entry does one of three things. -/
theorem entry_cases (source : Option Text) (index : Nat) (entry : Json) :
    (∃ r, Rule.ofJson entry source = .ok r) ∨ (∃ issue, Refusal source index entry issue) ∨
      ∃ e, Rule.ofJson entry source = .error e ∧ e.isReported = false := by
  cases made : Rule.ofJson entry source with
  | ok r => exact .inl ⟨r, rfl⟩
  | error e =>
    cases reported : e.isReported with
    | true => exact .inr (.inl (exists_refusal made reported index))
    | false => exact .inr (.inr ⟨e, rfl, reported⟩)

theorem Refusal.not_ok (refusal : Refusal source index entry issue) : Rule.ofJson entry source ≠ .ok r := by
  obtain ⟨e, failed, -⟩ := refusal.failed
  simp [failed]

/-- A rule is added to those of the entries after it. Its id must not have been seen if that matters. -/
theorem readEntries_cons_iff (made : Rule.ofJson entry source = .ok r) :
    readEntries source unique index seen (entry :: entries) = .ok (rules, []) ↔
      (unique → r.id ∉ seen) ∧
        ∃ rest, readEntries source unique (index + 1) (r.id :: seen) entries = .ok (rest, []) ∧ r :: rest = rules := by
  rw [readEntries_of_ok made]
  cases readEntries source unique (index + 1) (r.id :: seen) entries with
  | error e => simp [Except.map]
  | ok read =>
    obtain ⟨rest, issues⟩ := read
    simp only [Except.map, Except.ok.injEq, Prod.mk.injEq]
    cases unique <;> by_cases new : r.id ∈ seen <;> simp [new] <;> tauto

/-- Entries give rules and no issue exactly if each gives its rule, and where ids have to be distinct, those of the
rules are, and none of them has been seen. -/
theorem readEntries_eq_ok_iff :
    readEntries source unique index seen entries = .ok (rules, []) ↔
      List.Forall₂ (fun entry r => Rule.ofJson entry source = .ok r) entries rules ∧
        (unique → (rules.map (·.id)).Nodup ∧ ∀ r ∈ rules, r.id ∉ seen) := by
  induction entries generalizing index seen rules with
  | nil =>
    rw [List.forall₂_nil_left_iff]
    constructor
    · intro read
      obtain rfl : [] = rules := by simpa [readEntries] using read
      simp
    · rintro ⟨rfl, -⟩
      rfl
  | cons entry entries ih =>
    rw [List.forall₂_cons_left_iff]
    rcases entry_cases source index entry with ⟨r, made⟩ | ⟨issue, refusal⟩ | ⟨e, failed, unreported⟩
    · simp only [readEntries_cons_iff made, ih, made, Except.ok.injEq]
      constructor
      · rintro ⟨new, rest, ⟨all, distinct⟩, rfl⟩
        exact ⟨⟨r, rest, rfl, all, rfl⟩, fun asked => nodup_of_unseen_iff.mpr ⟨new asked, distinct asked⟩⟩
      · rintro ⟨⟨_, rest, rfl, all, rfl⟩, distinct⟩
        exact ⟨fun asked => (nodup_of_unseen_iff.mp (distinct asked)).1, rest,
          ⟨all, fun asked => (nodup_of_unseen_iff.mp (distinct asked)).2⟩, rfl⟩
    · rw [readEntries_of_refusal refusal]
      constructor
      · intro read
        cases others : readEntries source unique (index + 1) seen entries <;> simp [others, Except.map] at read
      · rintro ⟨⟨r, _, made, -⟩, -⟩
        exact absurd made refusal.not_ok
    · rw [readEntries_of_error failed unreported]
      simp [failed]

/-- A document gives rules exactly if each of its entries gives its rule, and the ids are distinct where that is asked
for. -/
theorem parse_eq_ok_iff (listed : entriesOf data = .ok entries) :
    parse data source unique = .ok rules ↔
      List.Forall₂ (fun entry r => Rule.ofJson entry source = .ok r) entries rules ∧
        (unique → (rules.map (·.id)).Nodup) := by
  have read : readEntries source unique 0 [] entries = .ok (rules, []) ↔
      List.Forall₂ (fun entry r => Rule.ofJson entry source = .ok r) entries rules ∧
        (unique → (rules.map (·.id)).Nodup) := by
    rw [readEntries_eq_ok_iff]
    simp only [List.not_mem_nil, not_false_eq_true, implies_true, and_true]
  rw [← read]
  simp only [parse, listed]
  rcases readEntries source unique 0 [] entries with e | ⟨rules', _ | ⟨issue, issues⟩⟩ <;> simp

end Document
end UrlRules
