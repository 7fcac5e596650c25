import UrlRules.Proofs.Document.Entries

/-!
# Issues of a document

A document is taken as a whole or refused as a whole. The issues of a refused one are those that its entries give, each
at its own place: one for every entry that is refused, and, where ids have to be distinct, one for every entry whose
rule has the id of a rule before it (`Reports`). They stand in the order of the document, so no entry has two of them
(`parse_reports`).
-/
namespace UrlRules.Document

open Text

variable {source : Option Text} {unique : Bool} {index : Nat} {seen seen' : List Text} {entry : Json}
  {entries : List Json} {data : Json} {r : Rule} {issue own : Issue} {issues : List Issue} {e : RuleError}

/-- The rules of the entries that are taken. -/
def accepted (source : Option Text) (entries : List Json) : List Rule :=
  entries.filterMap fun entry => (Rule.ofJson entry source).toOption

/-- What an entry gives instead of a rule, or beside a rule whose id is not the first of its kind. -/
inductive Reports (source : Option Text) (unique : Bool) (index : Nat) (seen : List Text) (entry : Json) :
    Issue → Prop
  | refused {issue : Issue} (refusal : Refusal source index entry issue) :
      Reports source unique index seen entry issue
  | repeated {r : Rule} (asked : unique = true) (made : Rule.ofJson entry source = .ok r) (again : r.id ∈ seen) :
      Reports source unique index seen entry ⟨index, r.id, .duplicateId r.id⟩

theorem Reports.index_eq (reports : Reports source unique index seen entry issue) : issue.index = index := by
  cases reports with
  | refused refusal => exact refusal.index_eq
  | repeated => rfl

/-- Only which ids have been seen matters. -/
theorem reports_congr (same : ∀ id, id ∈ seen ↔ id ∈ seen') :
    Reports source unique index seen entry issue ↔ Reports source unique index seen' entry issue := by
  constructor
  · rintro (refusal | ⟨asked, made, again⟩)
    · exact .refused refusal
    · exact .repeated asked made ((same _).mp again)
  · rintro (refusal | ⟨asked, made, again⟩)
    · exact .refused refusal
    · exact .repeated asked made ((same _).mpr again)

theorem reports_of_ok_iff (made : Rule.ofJson entry source = .ok r) :
    Reports source unique index seen entry issue ↔
      (unique = true ∧ r.id ∈ seen) ∧ issue = ⟨index, r.id, .duplicateId r.id⟩ := by
  constructor
  · rintro (refusal | ⟨asked, made', again⟩)
    · exact absurd made refusal.not_ok
    · obtain rfl := Except.ok.inj (made.symm.trans made')
      exact ⟨⟨asked, again⟩, rfl⟩
  · rintro ⟨⟨asked, again⟩, rfl⟩
    exact .repeated asked made again

theorem Refusal.eq_of_refusal (refusal : Refusal source index entry issue) (other : Refusal source index entry own) :
    issue = own := by
  have same := refusal.readEntry.symm.trans other.readEntry
  simpa using same

theorem reports_of_refusal_iff (refusal : Refusal source index entry own) :
    Reports source unique index seen entry issue ↔ own = issue := by
  constructor
  · rintro (other | ⟨-, made, -⟩)
    · exact refusal.eq_of_refusal other
    · exact absurd made refusal.not_ok
  · rintro rfl
    exact .refused refusal

/-! ## Entries -/

/-- The ids that have been seen after an entry. -/
def seenAfter (source : Option Text) (seen : List Text) (entry : Json) : List Text :=
  (accepted source [entry]).map (·.id) ++ seen

theorem accepted_cons (source : Option Text) (entry : Json) (entries : List Json) :
    accepted source (entry :: entries) = accepted source [entry] ++ accepted source entries :=
  List.filterMap_append (l := [entry])

/-- Issues are those of entries from an index on, and stand in the order of the entries. -/
structure Account (source : Option Text) (unique : Bool) (index : Nat) (seen : List Text) (entries : List Json)
    (issues : List Issue) : Prop where
  sorted : issues.Pairwise fun first second => first.index < second.index
  mem_iff : ∀ issue, issue ∈ issues ↔ ∃ i entry, entries[i]? = some entry ∧
    Reports source unique (index + i) ((accepted source (entries.take i)).map (·.id) ++ seen) entry issue

theorem Account.nil : Account source unique index seen [] [] := ⟨.nil, by simp⟩

theorem exists_getElem?_cons {P : Nat → Json → Prop} :
    (∃ i other, (entry :: entries)[i]? = some other ∧ P i other) ↔
      P 0 entry ∨ ∃ i other, entries[i]? = some other ∧ P (i + 1) other := by
  constructor
  · rintro ⟨i | i, other, found, holds⟩
    · obtain rfl : entry = other := by simpa using found
      exact .inl holds
    · exact .inr ⟨i, other, by simpa using found, holds⟩
  · rintro (first | ⟨i, other, found, holds⟩)
    · exact ⟨0, entry, rfl, first⟩
    · exact ⟨i + 1, other, by simpa using found, holds⟩

/-- The issue of an entry, if it has one, stands before those of the entries after it. -/
theorem Account.cons (own : Option Issue)
    (account : Account source unique (index + 1) (seenAfter source seen entry) entries issues)
    (reports : ∀ issue, Reports source unique index seen entry issue ↔ own = some issue) :
    Account source unique index seen (entry :: entries) (own.toList ++ issues) := by
  have later : ∀ issue ∈ issues, index < issue.index := by
    intro issue member
    obtain ⟨i, other, -, reported⟩ := (account.mem_iff issue).mp member
    have place := reported.index_eq
    omega
  constructor
  · rw [List.pairwise_append]
    refine ⟨by cases own <;> simp, account.sorted, fun first mine second member => ?_⟩
    have place := ((reports first).mpr (by simpa using mine)).index_eq
    exact place ▸ later second member
  · intro issue
    rw [List.mem_append, account.mem_iff, exists_getElem?_cons (P := fun i other => Reports source unique (index + i)
      ((accepted source ((entry :: entries).take i)).map (·.id) ++ seen) other issue)]
    refine or_congr (by simp [accepted, reports]) ?_
    refine exists_congr fun i => exists_congr fun other => and_congr_right fun _ => ?_
    rw [Nat.add_right_comm, ← Nat.add_assoc, List.take_succ_cons, accepted_cons]
    -- The ids before a later entry are the same, whether the first entry counts among them or had been seen.
    refine reports_congr fun id => ?_
    simp only [seenAfter, List.map_append, List.mem_append]
    tauto

/-- Entries that are taken or refused, all of them, give the rules of those that are taken and the issues of all. -/
theorem readEntries_reports
    (reported : ∀ entry ∈ entries, ∀ e, Rule.ofJson entry source = .error e → e.isReported = true) :
    ∃ issues, readEntries source unique index seen entries = .ok (accepted source entries, issues) ∧
      Account source unique index seen entries issues := by
  -- An entry moves the index on, and the ids that have been seen, for those after it.
  induction entries generalizing index seen with
  | nil => exact ⟨[], rfl, .nil⟩
  | cons entry entries ih =>
    obtain ⟨own, others⟩ := List.forall_mem_cons.mp reported
    obtain ⟨issues, read, account⟩ := @ih (index + 1) (seenAfter source seen entry) others
    rw [accepted_cons]
    rcases entry_cases source index entry with ⟨r, made⟩ | ⟨issue, refusal⟩ | ⟨e, failed, unreported⟩
    · have taken : accepted source [entry] = [r] := by simp [accepted, made, Except.toOption]
      rw [seenAfter, taken, List.map_singleton, List.singleton_append] at read
      rw [readEntries_of_ok made, read, taken]
      by_cases again : unique = true ∧ r.id ∈ seen
      · refine ⟨_, ?_, account.cons (some ⟨index, r.id, .duplicateId r.id⟩) fun issue => ?_⟩
        · simp [Except.map, again.1, again.2]
        · rw [reports_of_ok_iff made]
          simp [again, eq_comm]
      · refine ⟨_, ?_, account.cons none fun issue => ?_⟩
        · simpa [Except.map] using again
        · rw [reports_of_ok_iff made]
          simp [again]
    · have refused : accepted source [entry] = [] := by
        obtain ⟨e, failed, -⟩ := refusal.failed
        simp [accepted, failed, Except.toOption]
      rw [seenAfter, refused, List.map_nil, List.nil_append] at read
      rw [readEntries_of_refusal refusal, read, refused]
      exact ⟨_, rfl, account.cons (some issue) fun other => by rw [reports_of_refusal_iff refusal]; simp⟩
    · rw [own e failed] at unreported
      cases unreported

/-! ## Documents -/

theorem Account.mem_iff_index (account : Account source unique 0 [] entries issues) (issue : Issue) :
    issue ∈ issues ↔ ∃ entry, entries[issue.index]? = some entry ∧
      Reports source unique issue.index ((accepted source (entries.take issue.index)).map (·.id)) entry issue := by
  rw [account.mem_iff]
  simp only [Nat.zero_add, List.append_nil]
  constructor
  · rintro ⟨i, entry, found, reports⟩
    obtain rfl := reports.index_eq
    exact ⟨entry, found, reports⟩
  · rintro ⟨entry, found, reports⟩
    exact ⟨issue.index, entry, found, reports⟩

/-- A document gives its rules exactly if each entry gives one, and the ids are distinct where that is asked for; they
stand in the order of the entries. Otherwise, if no entry fails with an error that is not reported, the document is
refused with the issues of all its entries, in their order: each entry that is refused has one, at its own place. -/
theorem parse_reports (listed : entriesOf data = .ok entries) (source : Option Text) (unique : Bool) :
    (∀ rules, parse data source unique = .ok rules ↔
      List.Forall₂ (fun entry r => Rule.ofJson entry source = .ok r) entries rules ∧
        (unique = true → (rules.map (·.id)).Nodup)) ∧
    ((∀ entry ∈ entries, ∀ e, Rule.ofJson entry source = .error e → e.isReported = true) →
      (∀ rules, parse data source unique ≠ .ok rules) →
      ∃ issues, parse data source unique = .error (.rejected issues) ∧
        issues.Pairwise (fun first second => first.index < second.index) ∧
        (∀ issue, issue ∈ issues ↔ ∃ entry, entries[issue.index]? = some entry ∧
          Reports source unique issue.index ((accepted source (entries.take issue.index)).map (·.id)) entry issue) ∧
        ∀ i entry e, entries[i]? = some entry → Rule.ofJson entry source = .error e →
          ∃! issue, issue ∈ issues ∧ issue.index = i) := by
  refine ⟨fun rules => parse_eq_ok_iff listed, fun reported refused => ?_⟩
  obtain ⟨issues, read, account⟩ : ∃ issues, readEntries source unique 0 [] entries =
      .ok (accepted source entries, issues) ∧ Account source unique 0 [] entries issues := readEntries_reports reported
  refine ⟨issues, ?_, account.sorted, account.mem_iff_index, fun i entry e found failed => ?_⟩
  · cases issues with
    | nil => exact absurd (by simp [parse, listed, read]) (refused (accepted source entries))
    | cons issue issues => simp [parse, listed, read]
  · obtain ⟨own, refusal⟩ := exists_refusal failed (reported entry (List.mem_of_getElem? found) e failed) i
    have place := refusal.index_eq
    refine ⟨own, ⟨(account.mem_iff_index own).mpr ⟨entry, place ▸ found, .refused (place ▸ refusal)⟩, place⟩, ?_⟩
    rintro issue ⟨member, rfl⟩
    obtain ⟨other, again, reports⟩ := (account.mem_iff_index issue).mp member
    obtain rfl := Option.some.inj (found.symm.trans again)
    exact ((reports_of_refusal_iff refusal).mp reports).symm

/-- A rule stands between an entry whose pattern is not one and an entry that is no object, and its id again after
them. -/
theorem parse_reports_mixed :
    let entry (pattern : Text) : Json := .object [(Text.of "id", .text [0x61]), (Text.of "from", .text pattern),
      (Text.of "to", .text [])]
    let entries := [entry [0x28], entry [0x62], .null, entry [0x63]]
    let issues : List Issue := [
      ⟨0, [0x61], .invalidPattern [0x28] (.malformed .unterminatedGroup [0x28] 0) [0x61]⟩,
      ⟨2, [], .invalid .notAnObject⟩, ⟨3, [0x61], .duplicateId [0x61]⟩]
    parse (.list entries) none true = .error (.rejected issues) ∧
      issues.Pairwise (fun first second => first.index < second.index) ∧
      ∃! issue, issue ∈ issues ∧ issue.index = 2 := by
  intro entry entries issues
  have refused : parse (.list entries) none true = .error (.rejected issues) := rfl
  have reported : ∀ entry ∈ entries, ∀ e, Rule.ofJson entry none = .error e → e.isReported = true := by
    have open_group : Rule.ofJson (entry [0x28]) none =
        .error (.invalidPattern [0x28] (.malformed .unterminatedGroup [0x28] 0) [0x61]) := rfl
    have no_object : Rule.ofJson .null none = .error (.invalidRecord .notAnObject) := rfl
    have first : ∃ r, Rule.ofJson (entry [0x62]) none = .ok r := ⟨_, rfl⟩
    have second : ∃ r, Rule.ofJson (entry [0x63]) none = .ok r := ⟨_, rfl⟩
    intro other member e failed
    simp only [entries, List.mem_cons, List.not_mem_nil, or_false] at member
    rcases member with rfl | rfl | rfl | rfl
    · rw [← Except.error.inj (open_group.symm.trans failed)]
      rfl
    · obtain ⟨r, made⟩ := first
      cases made.symm.trans failed
    · rw [← Except.error.inj (no_object.symm.trans failed)]
      rfl
    · obtain ⟨r, made⟩ := second
      cases made.symm.trans failed
  have listed : entriesOf (.list entries) = .ok entries := rfl
  obtain ⟨issues', same, sorted, -, each⟩ := (parse_reports listed none true).2 reported
    (fun rules taken => by rw [refused] at taken; cases taken)
  obtain rfl : issues = issues' := by simpa [refused] using same
  exact ⟨refused, sorted, each 2 .null _ rfl rfl⟩

end UrlRules.Document
