import Mathlib.Data.List.Nodup
import UrlRules.Proofs.Store.RowCodec
import UrlRules.Store.Basic

/-!
# Places in the list

An `Entry` is a rule at a position that is an integer. Rows of entries are read by rising positions
(`inOrder_rows`), whatever the order in which they were added. New entries are put below the lowest
position or above the highest one (`startFor_first`, `startFor_last`), each one after the one before
(`placed`).
-/
namespace UrlRules.Store

structure Entry where
  position : Int
  rule : Rule

/-- The row of an entry. -/
def Entry.row (e : Entry) : Row := Row.ofRule e.rule (.integer e.position)

/-- Each entry has a lower position than those after it. -/
def Rising (entries : List Entry) : Prop := entries.Pairwise fun e f => e.position < f.position

@[simp] theorem hasId_row (id : Text) (e : Entry) : hasId id e.row = decide (e.rule.id = id) := by
  simp [hasId, Entry.row, Row.ofRule, Row.withRule, BEq.beq]

theorem before_integer (a b : Int) : Cell.before (.integer a) (.integer b) = decide (a < b) := by
  simp [Cell.before, Cell.rank, Cell.numberBefore, Cell.quotient?]

variable {stored entries : List Entry}

/-! ## Order -/

def Entry.notAfter (e f : Entry) : Bool := !decide (f.position < e.position)

theorem notAfter_iff {e f : Entry} : e.notAfter f = true ↔ e.position ≤ f.position := by
  simp [Entry.notAfter]

theorem notAfter_trans (e f g : Entry) (first : e.notAfter f = true) (second : f.notAfter g = true) :
    e.notAfter g = true := by
  rw [notAfter_iff] at *
  omega

theorem notAfter_total (e f : Entry) : (e.notAfter f || f.notAfter e) = true := by
  rw [Bool.or_eq_true, notAfter_iff, notAfter_iff]
  omega

theorem Rising.eq_of_position (rising : Rising entries) {e f : Entry} (member : e ∈ entries)
    (other : f ∈ entries) (same : e.position = f.position) : e = f := by
  have distinct : (entries.map (·.position)).Nodup :=
    List.pairwise_map.mpr (rising.imp fun before => Int.ne_of_lt before)
  exact List.inj_on_of_nodup_map distinct member other same

/-- Sorting brings rising entries back into their order. -/
theorem mergeSort_entries (same : stored.Perm entries) (rising : Rising entries) :
    stored.mergeSort Entry.notAfter = entries := by
  have sorted := List.pairwise_mergeSort notAfter_trans notAfter_total stored
  have sorted' : entries.Pairwise fun e f => e.notAfter f = true :=
    rising.imp fun before => notAfter_iff.mpr (Int.le_of_lt before)
  have perm := (List.mergeSort_perm stored Entry.notAfter).trans same
  refine perm.eq_of_pairwise ?_ sorted sorted'
  intro e f member other before after
  rw [notAfter_iff] at before after
  exact rising.eq_of_position (perm.mem_iff.mp member) other (by omega)

theorem inOrder_rows (same : stored.Perm entries) (rising : Rising entries) :
    inOrder (stored.map Entry.row) = entries.map Entry.row := by
  rw [← mergeSort_entries same rising]
  refine (List.map_mergeSort fun e _ f _ => ?_).symm
  exact congrArg (! ·) (before_integer f.position e.position).symm

/-! ## New positions -/

/-- The first of integers in the order of a key is one of them, and none of them has a smaller key. -/
theorem firstOf_integers (before : Cell → Cell → Bool) (key : Int → Int)
    (agrees : ∀ a b, before (.integer a) (.integer b) = decide (key a < key b)) (numbers : List Int)
    (nonempty : numbers ≠ []) :
    ∃ m ∈ numbers, firstOf before (numbers.map .integer) = some (.integer m) ∧
      ∀ n ∈ numbers, key m ≤ key n := by
  induction numbers with
  | nil => exact absurd rfl nonempty
  | cons number numbers ih =>
    by_cases last : numbers = []
    · subst last
      exact ⟨number, by simp, by simp [firstOf], by simp⟩
    · obtain ⟨m, member, first, least⟩ := ih last
      simp only [List.map_cons, firstOf, first, agrees, decide_eq_true_eq]
      by_cases smaller : key m < key number
      · refine ⟨m, .tail _ member, by rw [if_pos smaller], fun n among => ?_⟩
        rcases List.mem_cons.mp among with rfl | later
        · exact Int.le_of_lt smaller
        · exact least n later
      · refine ⟨number, .head _, by rw [if_neg smaller], fun n among => ?_⟩
        rcases List.mem_cons.mp among with rfl | later
        · exact Int.le_refl _
        · have := least n later
          omega

theorem positions_rows (stored : List Entry) :
    (stored.map Entry.row).map (·.position) = (stored.map (·.position)).map .integer := by
  simp [Entry.row, Row.ofRule, Row.withRule, Cell.inIntegers]

/-- New rules before all others end just below the lowest position, or below zero. -/
theorem startFor_first (stored : List Entry) (count : Nat) :
    ∃ low : Int, startFor (stored.map Entry.row) count true = some (.integer (low - count)) ∧
      (∀ e ∈ stored, low ≤ e.position) ∧ (low = 0 ∨ ∃ e ∈ stored, e.position = low) := by
  unfold startFor
  rw [positions_rows]
  by_cases none : stored = []
  · subst none
    exact ⟨0, by simp [firstOf, Cell.shifted?], by simp, .inl rfl⟩
  · obtain ⟨low, member, first, least⟩ := firstOf_integers Cell.before (fun n => n) before_integer
      (stored.map (·.position)) (by simpa using none)
    obtain ⟨e, inside, rfl⟩ := List.mem_map.mp member
    refine ⟨e.position, ?_, fun f other => least _ (List.mem_map_of_mem other), .inr ⟨e, inside, rfl⟩⟩
    simp only [first]
    rfl

/-- New rules after all others start just above the highest position, or at zero. -/
theorem startFor_last (stored : List Entry) (count : Nat) :
    ∃ high : Int, startFor (stored.map Entry.row) count false = some (.integer (high + 1)) ∧
      (∀ e ∈ stored, e.position ≤ high) ∧ (high = -1 ∨ ∃ e ∈ stored, e.position = high) := by
  unfold startFor
  rw [positions_rows]
  by_cases none : stored = []
  · subst none
    exact ⟨-1, by simp [firstOf, Cell.shifted?], by simp, .inl rfl⟩
  · have agrees : ∀ a b : Int, Cell.before (.integer b) (.integer a) = decide (-a < -b) := by
      intro a b
      rw [before_integer, decide_eq_decide]
      omega
    obtain ⟨high, member, first, greatest⟩ := firstOf_integers (fun a b => Cell.before b a)
      (fun n => -n) agrees (stored.map (·.position)) (by simpa using none)
    obtain ⟨e, inside, rfl⟩ := List.mem_map.mp member
    refine ⟨e.position, ?_, fun f other => ?_, .inr ⟨e, inside, rfl⟩⟩
    · simp only [first]
      rfl
    · have := greatest _ (List.mem_map_of_mem other)
      omega

/-! ## New entries -/

/-- The entries of rules on consecutive positions from one on. -/
def placed (start : Int) (rules : List Rule) : List Entry :=
  ((List.range rules.length).zip rules).map fun (offset, r) => ⟨start + offset, r.unsourced⟩

variable {start : Int} {rules : List Rule}

@[simp] theorem rules_placed (start : Int) (rules : List Rule) :
    (placed start rules).map (·.rule) = rules.map (·.unsourced) := by
  have seconds : ((List.range rules.length).zip rules).map Prod.snd = rules :=
    List.map_snd_zip (by simp)
  calc (placed start rules).map (·.rule)
      = (((List.range rules.length).zip rules).map Prod.snd).map (·.unsourced) := by
        simp [placed, Function.comp_def]
    _ = rules.map (·.unsourced) := by rw [seconds]

theorem rule_of_mem_placed {e : Entry} (member : e ∈ placed start rules) :
    ∃ r ∈ rules, e.rule = r.unsourced := by
  have among : e.rule ∈ (placed start rules).map (·.rule) := List.mem_map_of_mem member
  rw [rules_placed] at among
  obtain ⟨r, inside, same⟩ := List.mem_map.mp among
  exact ⟨r, inside, same.symm⟩

theorem ids_placed (start : Int) (rules : List Rule) :
    (placed start rules).map (·.rule.id) = rules.map (·.id) :=
  calc (placed start rules).map (·.rule.id)
      = ((placed start rules).map (·.rule)).map (·.id) := by
        rw [List.map_map]
        rfl
    _ = rules.map (·.id) := by
        rw [rules_placed, List.map_map]
        rfl

theorem positions_placed (start : Int) (rules : List Rule) :
    (placed start rules).map (·.position) =
      (List.range rules.length).map fun offset : Nat => start + offset := by
  have firsts : ((List.range rules.length).zip rules).map Prod.fst = List.range rules.length :=
    List.map_fst_zip (by simp)
  calc (placed start rules).map (·.position)
      = (((List.range rules.length).zip rules).map Prod.fst).map
          fun offset : Nat => start + offset := by
        simp [placed, Function.comp_def]
    _ = (List.range rules.length).map fun offset : Nat => start + offset := by rw [firsts]

theorem rising_placed (start : Int) (rules : List Rule) : Rising (placed start rules) := by
  have rising : ((placed start rules).map (·.position)).Pairwise (· < ·) := by
    rw [positions_placed, List.pairwise_map]
    exact List.pairwise_lt_range.imp fun before => by omega
  exact List.pairwise_map.mp rising

theorem position_of_mem_placed {e : Entry} (member : e ∈ placed start rules) :
    start ≤ e.position ∧ e.position < start + rules.length := by
  have among : e.position ∈ (placed start rules).map (·.position) := List.mem_map_of_mem member
  rw [positions_placed, List.mem_map] at among
  obtain ⟨offset, inside, same⟩ := among
  rw [List.mem_range] at inside
  omega

end UrlRules.Store
