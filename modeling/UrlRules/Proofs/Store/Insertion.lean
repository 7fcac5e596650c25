import UrlRules.Proofs.Store.Keeping

/-!
# Adding rules to a store

Rules are added one row after the other, on consecutive positions, and either all of them fit cells or
the database refuses one (`run_addRows`, `addRows_tooLarge`). If all fit, the new entries stand before
all others or after them, so a store that keeps a list keeps it with the new rules at that end
(`insertAll_of_keeps`).
-/
namespace UrlRules.Store

open Text

theorem unencodable?_of_unicode {texts : List Text} (unicode : ∀ s ∈ texts, s.IsUnicode) :
    Row.unencodable? texts = none := by
  refine List.find?_eq_none.mpr fun s member => ?_
  simp [(unicode s member).isScalar]

theorem unicode_of_recorded {r : Rule} (recorded : r.Recorded) :
    ∀ s ∈ Row.textsOf r, s.IsUnicode := by
  intro s member
  rcases List.mem_cons.mp member with rfl | template
  · exact recorded.pattern_unicode
  · exact recorded.substitution_unicode s (Option.mem_toList.mp template)

theorem encodable_of_recorded {r : Rule} (recorded : r.Recorded) :
    Row.unencodable? (Row.textsOf r) = none :=
  unencodable?_of_unicode (unicode_of_recorded recorded)

variable {s : Store} {rules new : List Rule} {first : Bool} {start : Int} {pairs : List (Nat × Rule)}

/-! ## Adding rows -/

/-- All positions of new rows fit cells. -/
def FitsAll (start : Int) (pairs : List (Nat × Rule)) : Prop :=
  ∀ pair ∈ pairs, Cell.fits (start + pair.1) = true

theorem run_addRows_cons (start : Int) {pair : Nat × Rule} (encodable : pair.2.Recorded)
    (pairs : List (Nat × Rule)) (s : Store) :
    (addRows (.integer start) (pair :: pairs)).run s =
      if Cell.fits (start + pair.1) then
        (addRows (.integer start) pairs).run
          { s with rows := s.rows ++ [(Entry.mk (start + pair.1) pair.2.unsourced).row] }
      else (.error .positionTooLarge, s) := by
  obtain ⟨offset, r⟩ := pair
  have texts := encodable_of_recorded encodable
  rw [addRows]
  cases fits : Cell.fits (start + offset) <;>
    simp [Cell.shifted?, isTooLarge, fits, texts, run_bind, run_modify, run_throw]
  rfl

theorem run_addRows (fits : FitsAll start pairs) (recorded : ∀ pair ∈ pairs, pair.2.Recorded)
    (s : Store) :
    (addRows (.integer start) pairs).run s =
      (.ok (), { s with
        rows := s.rows ++
          (pairs.map fun pair => (Entry.mk (start + pair.1) pair.2.unsourced).row) }) := by
  induction pairs generalizing s with
  | nil =>
    rw [List.map_nil, List.append_nil]
    rfl
  | cons pair pairs ih =>
    have rest := ih (fun p member => fits p (by simp [member])) fun p member =>
      recorded p (by simp [member])
    rw [run_addRows_cons start (recorded pair (by simp)) pairs s, if_pos (fits pair (by simp)), rest]
    simp

theorem addRows_tooLarge (large : ¬FitsAll start pairs) (recorded : ∀ pair ∈ pairs, pair.2.Recorded)
    (s : Store) : ((addRows (.integer start) pairs).run s).1 = .error .positionTooLarge := by
  induction pairs generalizing s with
  | nil => exact absurd (by simp [FitsAll]) large
  | cons pair pairs ih =>
    rw [run_addRows_cons start (recorded pair (by simp)) pairs s]
    by_cases fits : Cell.fits (start + pair.1) = true
    · rw [if_pos fits]
      refine ih (fun rest => large fun p member => ?_) (fun p member => recorded p (by simp [member])) _
      rcases List.mem_cons.mp member with rfl | later
      · exact fits
      · exact rest p later
    · rw [if_neg fits]

theorem rows_placed (start : Int) (rules : List Rule) :
    ((List.range rules.length).zip rules).map
      (fun pair => (Entry.mk (start + pair.1) pair.2.unsourced).row) =
      (placed start rules).map Entry.row := by
  simp [placed, Function.comp_def]

/-- Rows that were added have strings with a UTF-8 form. -/
theorem encodable_of_addRows {start : Cell} {s' : Store} (ran : (addRows start pairs).run s = (.ok (), s')) :
    ∀ pair ∈ pairs, Row.unencodable? (Row.textsOf pair.2) = none := by
  induction pairs generalizing s with
  | nil => simp
  | cons pair pairs ih =>
    obtain ⟨offset, r⟩ := pair
    rw [addRows] at ran
    split at ran
    next position _ =>
      cases large : isTooLarge position with
      | true =>
        simp only [large, if_true] at ran
        cases ran
      | false =>
        cases encodable : Row.unencodable? (Row.textsOf r) with
        | some text =>
          simp only [large, encodable] at ran
          cases ran
        | none =>
          simp only [large, encodable] at ran
          exact List.forall_mem_cons.mpr ⟨encodable, ih ran⟩
    next => cases ran

/-! ## Adding entries -/

/-- Entries put before others, or after them. -/
def joined (first : Bool) (entries added : List Entry) : List Entry :=
  if first then added ++ entries else entries ++ added

theorem perm_joined (first : Bool) (entries added : List Entry) :
    (entries ++ added).Perm (joined first entries added) := by
  cases first with
  | true => exact List.perm_append_comm
  | false => exact .refl _

/-- Entries with new ids, put where their positions belong. -/
theorem Filed.append {rows : List Row} {entries added : List Entry} (filed : Filed rows entries)
    (rising : Rising (joined first entries added)) (distinct : (added.map (·.rule.id)).Nodup)
    (free : ∀ e ∈ added, e.rule.id ∉ entries.map (·.rule.id)) (kept : ∀ e ∈ added, e.rule.Kept) :
    Filed (rows ++ added.map Entry.row) (joined first entries added) := by
  obtain ⟨stored, same, rows⟩ := filed.rows
  have all := perm_joined first entries added
  refine ⟨⟨stored ++ added, (same.append_right _).trans all, by simp [rows]⟩, rising, ?_, ?_⟩
  · rw [← (all.map _).nodup_iff, List.map_append]
    refine List.nodup_append.mpr ⟨filed.distinct, distinct, ?_⟩
    rintro id old other new rfl
    obtain ⟨e, inside, rfl⟩ := List.mem_map.mp new
    exact free e inside old
  · intro e member
    rcases List.mem_append.mp (all.mem_iff.mpr member) with old | new
    · exact filed.kept e old
    · exact kept e new

/-! ## Adding rules -/

theorem takenIds_eq {rows : List Row} {entries : List Entry} (filed : Filed rows entries) (ids : List Text) :
    takenIds rows ids = Operation.taken (entries.map (·.rule)) ids := by
  have among : (fun id => rows.any (hasId id)) =
      fun id => decide (id ∈ (entries.map (·.rule)).map (·.id)) := funext filed.any_hasId
  rw [takenIds, among, Operation.taken]

theorem taken_ne_nil_iff :
    Operation.taken rules (new.map (·.id)) ≠ [] ↔ ∃ r ∈ new, r.id ∈ rules.map (·.id) := by
  rw [Operation.taken, ← List.length_pos_iff, List.length_mergeSort, List.length_pos_iff, Ne,
    List.filter_eq_nil_iff]
  simp

/-- The positions for new rules are all below those of the others, or above them. -/
theorem exists_start {rows : List Row} {entries : List Entry} (filed : Filed rows entries) (count : Nat)
    (first : Bool) :
    ∃ start : Int, startFor rows count first = some (.integer start) ∧
      ∀ added, Rising added → (∀ e ∈ added, start ≤ e.position ∧ e.position < start + count) →
        Rising (joined first entries added) := by
  obtain ⟨stored, same, rows⟩ := filed.rows
  cases first with
  | true =>
    obtain ⟨low, found, lowest, _⟩ := startFor_first stored count
    refine ⟨low - count, by rw [rows, found], fun added rising within => ?_⟩
    refine List.pairwise_append.mpr ⟨rising, filed.rising, fun e new f old => ?_⟩
    have below := within e new
    have above := lowest f (same.mem_iff.mpr old)
    omega
  | false =>
    obtain ⟨high, found, highest, _⟩ := startFor_last stored count
    refine ⟨high + 1, by rw [rows, found], fun added rising within => ?_⟩
    refine List.pairwise_append.mpr ⟨filed.rising, rising, fun e old f new => ?_⟩
    have below := highest e (same.mem_iff.mpr old)
    have above := within f new
    omega

theorem encodable_ids (recorded : ∀ r ∈ new, r.Recorded) :
    Row.unencodable? (new.map (·.id)) = none := by
  refine unencodable?_of_unicode fun id member => ?_
  obtain ⟨r, inside, rfl⟩ := List.mem_map.mp member
  exact (recorded r inside).id_unicode

/-- Rules with new ids are added at one end, unless a position is refused. -/
theorem Represents.insertAll {entries : List Entry} (represents : Represents s entries)
    (given : new ≠ []) (recorded : ∀ r ∈ new, r.Recorded) (distinct : (new.map (·.id)).Nodup)
    (few : new.length ≤ s.capacity.value) (free : ¬∃ r ∈ new, r.id ∈ (entries.map (·.rule)).map (·.id))
    (executed : ((insertAll new first).run s).1 ≠ .error .positionTooLarge) :
    ((Store.insertAll new first).run s).1 = .ok () ∧
      Keeps ((Store.insertAll new first).run s).2
        (if first then new.map (·.unsourced) ++ entries.map (·.rule)
         else entries.map (·.rule) ++ new.map (·.unsourced)) := by
  have none : takenIds s.rows (new.map (·.id)) = [] := by
    rw [takenIds_eq represents.toFiled]
    exact not_not.mp fun some => free (taken_ne_nil_iff.mp some)
  obtain ⟨start, found, sorted⟩ := exists_start represents.toFiled new.length first
  have each : ∀ pair ∈ (List.range new.length).zip new, pair.2.Recorded :=
    fun pair member => recorded pair.2 (List.of_mem_zip member).2
  have encodable := encodable_ids recorded
  rw [run_insertAll_free represents.usable given distinct few encodable none found] at executed ⊢
  by_cases fits : FitsAll start ((List.range new.length).zip new)
  · have rising := sorted _ (rising_placed start new) fun e member => position_of_mem_placed member
    have added := represents.toFiled.append rising (by rwa [ids_placed]) (fun e member old => ?_)
      fun e member => ?_
    · rw [run_addRows fits each, rows_placed]
      refine ⟨rfl, _, ⟨added, ⟨represents.usable.medium, represents.usable.hasTable⟩, rfl⟩, ?_⟩
      cases first <;> simp [joined]
    · obtain ⟨r, inside, same⟩ := rule_of_mem_placed member
      exact free ⟨r, inside, by simpa [same, Rule.unsourced] using old⟩
    · obtain ⟨r, inside, same⟩ := rule_of_mem_placed member
      exact same ▸ (recorded r inside).kept_unsourced
  · -- Some position is refused, and that is excluded.
    have refused := addRows_tooLarge fits each s.opened
    rcases ran : (addRows (.integer start) ((List.range new.length).zip new)).run s.opened with
      ⟨answer, s'⟩
    rw [ran] at refused executed
    dsimp only at refused
    subst refused
    exact absurd rfl executed

/-- Rules that were added have strings with a UTF-8 form. -/
theorem encodable_of_insertAll (usable : s.Usable) (added : ((insertAll new first).run s).1 = .ok ()) :
    ∀ r ∈ new, isScalar r.id = true ∧ Row.unencodable? (Row.textsOf r) = none := by
  by_cases given : new = []
  · simp [given]
  obtain ⟨e, refused, -⟩ | ⟨-, -, refused⟩ | ⟨start, -, encodable, -, -, ran⟩ := insertAll_cases usable given first
  · simp [refused] at added
  · simp [refused] at added
  · rw [ran] at added
    rcases ran : (addRows start ((List.range new.length).zip new)).run s.opened with ⟨answer, s'⟩
    rw [ran] at added
    cases answer with
    | error e => cases added
    | ok _ =>
      intro r member
      have named : isScalar r.id = true := by
        simpa using List.find?_eq_none.mp encodable _ (List.mem_map_of_mem member)
      obtain ⟨offset, inside⟩ : ∃ offset, (offset, r) ∈ (List.range new.length).zip new := by
        have seconds : ((List.range new.length).zip new).map Prod.snd = new := List.map_snd_zip (by simp)
        rw [← seconds] at member
        obtain ⟨⟨offset, q⟩, inside, rfl⟩ := List.mem_map.mp member
        exact ⟨offset, inside⟩
      exact ⟨named, encodable_of_addRows ran _ inside⟩

/-- If the database executes all statements, the ids are as many as one of them takes. -/
theorem few_of_executed (keeps : Keeps s rules) (executed : Executed ((insertAll new first).run s).1)
    (distinct : (new.map (·.id)).Nodup) : new.length ≤ s.capacity.value := by
  refine Nat.le_of_not_lt fun many => executed.parameters ?_
  rw [run_insertAll_tooMany keeps.usable.medium distinct many]

theorem insertAll_of_keeps (keeps : Keeps s rules) (recorded : ∀ r ∈ new, r.Recorded)
    (few : (new.map (·.id)).Nodup → new.length ≤ s.capacity.value)
    (placed : ((insertAll new first).run s).1 ≠ .error .positionTooLarge) :
    ((insertAll new first).run s).1.map (fun _ => Reply.done) = (Operation.addTo rules new first).1 ∧
      Keeps ((insertAll new first).run s).2 (Operation.addTo rules new first).2 := by
  obtain ⟨entries, represents, rfl⟩ := id keeps
  unfold Operation.addTo
  by_cases given : new = []
  · -- Without rules there is not even a connection.
    subst given
    have ran : (insertAll [] first).run s = (.ok (), s) := rfl
    rw [if_neg (by simp), if_neg (by simp), ran]
    cases first <;> simpa [Except.map] using keeps
  by_cases distinct : (new.map (·.id)).Nodup
  · rw [if_neg (not_not_intro distinct)]
    by_cases taken : ∃ r ∈ new, r.id ∈ (entries.map (·.rule)).map (·.id)
    · have some := taken_ne_nil_iff.mpr taken
      have ids := takenIds_eq represents.toFiled (new.map (·.id))
      rw [← ids] at some
      rw [if_pos taken,
        run_insertAll_taken represents.usable given distinct (few distinct) (encodable_ids recorded) some, ids]
      exact ⟨rfl, keeps.opened⟩
    · obtain ⟨answer, added⟩ := represents.insertAll given recorded distinct (few distinct) taken placed
      rw [if_neg taken, answer]
      cases first with
      | true => exact ⟨rfl, added⟩
      | false => exact ⟨rfl, added⟩
  · rw [if_pos distinct, run_insertAll_repeated represents.usable.medium given distinct]
    exact ⟨rfl, keeps.opened⟩

/-- Rules that were added stand at one end. -/
theorem insertAll_added {s' : Store} (keeps : Keeps s rules) (recorded : ∀ r ∈ new, r.Recorded)
    (added : (insertAll new first).run s = (.ok (), s')) :
    Keeps s' (if first then new.map (·.unsourced) ++ rules else rules ++ new.map (·.unsourced)) := by
  have executed : Executed ((insertAll new first).run s).1 := by
    rw [added]
    exact .ok ()
  obtain ⟨answer, kept⟩ := insertAll_of_keeps keeps recorded (few_of_executed keeps executed) executed.position
  rw [added] at answer kept
  rwa [Operation.addTo_added answer.symm] at kept

/-- A refusal for anything else than a position leaves the list as it was. -/
theorem insertAll_refused_keeps {e : Error} (keeps : Keeps s rules) (recorded : ∀ r ∈ new, r.Recorded)
    (refused : ((insertAll new first).run s).1 = .error e) (other : e ≠ .positionTooLarge) :
    Keeps ((insertAll new first).run s).2 rules := by
  by_cases given : new = []
  · subst given
    cases refused
  obtain ⟨e', ran, -⟩ | ⟨-, -, ran⟩ | ⟨start, -, -, -, found, ran⟩ := insertAll_cases keeps.usable given first
  · rw [ran]
    exact keeps.opened
  · rw [ran]
    exact keeps.rolledBack
  · -- All rows are added, or a position is refused.
    obtain ⟨entries, represents, -⟩ := keeps
    obtain ⟨position, found', -⟩ := exists_start represents.toFiled new.length first
    obtain rfl : start = .integer position := Option.some.inj (found.symm.trans found')
    have each : ∀ pair ∈ (List.range new.length).zip new, pair.2.Recorded :=
      fun pair member => recorded pair.2 (List.of_mem_zip member).2
    rw [ran] at refused
    by_cases fits : FitsAll position ((List.range new.length).zip new)
    · rw [run_addRows fits each] at refused
      cases refused
    · have large := addRows_tooLarge fits each s.opened
      rcases adds : (addRows (.integer position) ((List.range new.length).zip new)).run s.opened with ⟨answer, s'⟩
      rw [adds] at refused large
      dsimp only at large
      subst large
      exact absurd (Except.error.inj refused).symm other

/-- Rules are added to a store without rules, as many as a statement takes. -/
theorem insertAll_of_empty (keeps : Keeps s []) (recorded : ∀ r ∈ new, r.Recorded)
    (distinct : (new.map (·.id)).Nodup) (few : new.length ≤ s.capacity.value) :
    ((insertAll new true).run s).1 = .ok () ∧ Keeps ((insertAll new true).run s).2 (new.map (·.unsourced)) := by
  by_cases given : new = []
  · subst given
    exact ⟨rfl, keeps⟩
  obtain ⟨entries, represents, none⟩ := id keeps
  obtain rfl := List.map_eq_nil_iff.mp none
  obtain ⟨stored, same, rows⟩ := represents.rows
  obtain rfl := same.eq_nil
  have empty : s.rows = [] := by simpa using rows
  have free : takenIds s.rows (new.map (·.id)) = [] := by simp [takenIds, empty]
  have found : startFor s.rows new.length true = some (.integer (-new.length)) := by
    simp [startFor, empty, firstOf, Cell.shifted?]
  have fits : FitsAll (-new.length) ((List.range new.length).zip new) := by
    intro pair member
    have inside := List.mem_range.mp (List.of_mem_zip member).1
    have bounded := s.capacity.lt
    have low : (-9223372036854775808 : Int) ≤ -new.length + pair.1 := by omega
    have high : -(new.length : Int) + pair.1 ≤ 9223372036854775807 := by omega
    simp [Cell.fits, Cell.minInteger, Cell.maxInteger, low, high]
  have each : ∀ pair ∈ (List.range new.length).zip new, pair.2.Recorded :=
    fun pair member => recorded pair.2 (List.of_mem_zip member).2
  have ok : ((insertAll new true).run s).1 = .ok () := by
    rw [run_insertAll_free represents.usable given distinct few (encodable_ids recorded) free found,
      run_addRows fits each]
  have placed : ((insertAll new true).run s).1 ≠ .error .positionTooLarge := by
    rw [ok]
    exact (Executed.ok ()).position
  obtain ⟨-, kept⟩ := insertAll_of_keeps keeps recorded (fun _ => few) placed
  refine ⟨ok, ?_⟩
  simpa [Operation.addTo, distinct] using kept

end UrlRules.Store
