import UrlRules.Proofs.Chain.Omission
import UrlRules.Proofs.Store.Reachable

/-!
# Disabling a rule

To disable a rule is to delete it, as far as URLs are concerned: the rules that are left on, all rules, and the rules
without the deleted one resolve every URL alike. Nothing is lost with it, since enabling the rule again gives the list
as it was (`resolve_disabled`).

Where rows of a refused batch are seen but not committed, a change commits them too. So a store is changed like the
one in which they have been committed (`Usable.change_committed`), and that one keeps a list.
-/
namespace UrlRules.Store

open Text

variable {s : Store} {rules : List Rule} {id : Text}

/-- The store with all rows that the connection sees committed. -/
def committed (s : Store) : Store := { s with saved := s.rows }

theorem Usable.committed (usable : s.Usable) : s.committed.Usable := ⟨usable.medium, usable.hasTable⟩

theorem Sound.keeps_committed (sound : Sound s) : ∃ rules, Keeps s.committed rules := by
  obtain ⟨entries, filed⟩ := sound.rows
  exact ⟨_, entries, ⟨filed, sound.usable.committed, rfl⟩, rfl⟩

theorem Usable.list_committed (usable : s.Usable) : (list.run s.committed).1 = (list.run s).1 := by
  rw [run_list usable, run_list usable.committed]
  rfl

theorem Usable.change_committed (usable : s.Usable) (attempt : Attempt) {texts : List Text}
    (encodable : Row.unencodable? (texts ++ [id]) = none) (edit : Row → Row) :
    (change attempt id texts edit).run s.committed = (change attempt id texts edit).run s := by
  rw [run_change usable attempt id encodable, run_change usable.committed attempt id encodable]
  rfl

theorem Usable.delete_committed (usable : s.Usable) (scalar : isScalar id = true) :
    (delete id).run s.committed = (delete id).run s := by
  rw [run_delete usable scalar, run_delete usable.committed scalar]
  rfl

section Stored

variable (keeps : Keeps s rules) (stored : id ∈ rules.map (·.id))
include keeps stored

theorem unicode_of_stored : id.IsUnicode := by
  obtain ⟨r, member, rfl⟩ := List.mem_map.mp stored
  exact (keeps.kept r member).recorded.id_unicode

/-- Turning a rule on or off that is there. -/
theorem setEnabled_of_keeps (value : Bool) :
    ((setEnabled id value).run s).1 = .ok () ∧
      Keeps ((setEnabled id value).run s).2 (Rule.toggled id value rules) := by
  obtain ⟨answer, kept⟩ := @setEnabled_keeps _ _ _ value keeps (unicode_of_stored keeps stored)
  simp only [Operation.onStore, Operation.perform, run_done, Operation.onList, Operation.editIn, if_pos stored]
    at answer kept
  refine ⟨?_, kept⟩
  cases done : ((setEnabled id value).run s).1 with
  | error e => simp [done, Except.map] at answer
  | ok _ => rfl

/-- Deleting a rule that is there. -/
theorem delete_of_stored :
    ((delete id).run s).1 = .ok true ∧ Keeps ((delete id).run s).2 (rules.filter fun r => r.id ≠ id) := by
  obtain ⟨answer, kept⟩ := delete_of_keeps keeps (unicode_of_stored keeps stored)
  exact ⟨by simpa [stored] using answer, kept⟩

end Stored

/-- Disabling a rule of the list of a reachable store succeeds, and so does deleting it. The rules that are enabled
then and the whole list resolve every URL as the rules without the deleted one do, with the same outcome or the same
failure. If the rule was enabled, enabling it again gives the list as it was. And a rule whose text has become no
pattern makes no difference to a list, wherever it stands. -/
theorem resolve_disabled (reachable : Reachable s) :
    (∃ rules, (list.run s).1 = .ok rules ∧ ∀ id ∈ rules.map (·.id),
      ((setEnabled id false).run s).1 = .ok () ∧ ((delete id).run s).1 = .ok true ∧
      (∃ all on without, (list.run ((setEnabled id false).run s).2).1 = .ok all ∧
        (enabled.run ((setEnabled id false).run s).2).1 = .ok on ∧
        (enabled.run ((delete id).run s).2).1 = .ok without ∧
        ∀ bound url, Rule.resolve on bound url = Rule.resolve without bound url ∧
          Rule.resolve on bound url = Rule.resolve all bound url) ∧
      ((∃ r ∈ rules, r.id = id ∧ r.enabled) →
        ((setEnabled id true).run ((setEnabled id false).run s).2).1 = .ok () ∧
        (list.run ((setEnabled id true).run ((setEnabled id false).run s).2).2).1 = .ok rules)) ∧
    ∀ (before after : List Rule) (r : Rule) (e : Pattern.Error), Pattern.read r.pattern = .error e →
      e.isInvalidPattern → ∀ bound url,
        Rule.resolve (before ++ r :: after) bound url = Rule.resolve (before ++ after) bound url := by
  refine ⟨?_, fun before after r e failed invalid =>
    Rule.resolve_without_unreadable failed invalid before after⟩
  have usable := reachable.sound.usable
  obtain ⟨rules, keeps⟩ := reachable.sound.keeps_committed
  refine ⟨rules, by rw [← usable.list_committed, list_of_keeps keeps], fun id stored => ?_⟩
  have unicode := unicode_of_stored keeps stored
  obtain ⟨disabled, off⟩ := setEnabled_of_keeps keeps stored false
  obtain ⟨deleted, left⟩ := delete_of_stored keeps stored
  have encodable : Row.unencodable? ([] ++ [id]) = none := by simp [Row.unencodable?, unicode.isScalar]
  rw [setEnabled, usable.change_committed _ encodable, ← setEnabled] at disabled off
  rw [usable.delete_committed unicode.isScalar] at deleted left
  refine ⟨disabled, deleted, ⟨_, _, _, list_of_keeps off, enabled_of_keeps off, enabled_of_keeps left,
    fun bound url => ⟨?_, Rule.resolve_enabledOnly _ bound url⟩⟩, ?_⟩
  · calc Rule.resolve (Rule.enabledOnly (Rule.toggled id false rules)) bound url
        = Rule.resolve (Rule.toggled id false rules) bound url := Rule.resolve_enabledOnly _ bound url
      _ = Rule.resolve (rules.filter fun r => r.id ≠ id) bound url := Rule.resolve_turnedOff id rules bound url
      _ = Rule.resolve (Rule.enabledOnly (rules.filter fun r => r.id ≠ id)) bound url :=
        (Rule.resolve_enabledOnly _ bound url).symm
  · rintro ⟨r, member, rfl, on⟩
    have stored' : r.id ∈ (Rule.toggled r.id false rules).map (·.id) := by
      rwa [Rule.ids_toggled]
    obtain ⟨enabled, again⟩ := setEnabled_of_keeps off stored' true
    refine ⟨enabled, ?_⟩
    rw [list_of_keeps again, Rule.toggled_toggled]
    intro q inside same
    exact List.inj_on_of_nodup_map keeps.distinct inside member same ▸ on

/-- The list of `a` to `b` and `b` to `c`, where the first rule is disabled, and a rule of an open parenthesis. -/
theorem resolve_disabled_letters :
    let letters := [Rule.letterRule 0x61 0x62, Rule.letterRule 0x62 0x63]
    let s := ((Operation.insertAll letters true).onStore (prepare.run (ofFiles ⟨[]⟩ ⟨[], [[0x61]]⟩)).2).2
    Reachable s ∧ (list.run s).1 = .ok letters ∧
      (∃ all on without, (list.run ((setEnabled [0x61] false).run s).2).1 = .ok all ∧
        (enabled.run ((setEnabled [0x61] false).run s).2).1 = .ok on ∧
        (enabled.run ((delete [0x61]).run s).2).1 = .ok without ∧
        ∀ bound url, Rule.resolve on bound url = Rule.resolve without bound url ∧
          Rule.resolve on bound url = Rule.resolve all bound url) ∧
      (list.run ((setEnabled [0x61] true).run ((setEnabled [0x61] false).run s).2).2).1 = .ok letters ∧
      ∀ bound url, Rule.resolve ([] ++ Rule.letterRule 0x28 0x62 :: letters) bound url =
        Rule.resolve ([] ++ letters) bound url := by
  intro letters s
  have initialized : (prepare.run (ofFiles ⟨[]⟩ ⟨[], [[0x61]]⟩)).1 = .ok () := by cbv
  have a : ∃ p, Pattern.read [0x61] = .ok p := ⟨_, by cbv⟩
  have b : ∃ p, Pattern.read [0x62] = .ok p := ⟨_, by cbv⟩
  have written : (Operation.insertAll letters true).Written := by
    simp only [Operation.Written, letters, List.forall_mem_cons]
    exact ⟨(Rule.storable_letterRule a (by decide) (by decide)).recorded.written,
      (Rule.storable_letterRule b (by decide) (by decide)).recorded.written, by simp⟩
  have reachable : Reachable s := .operate (.start initialized) written
  have listed : (list.run s).1 = .ok letters := by
    dsimp only [s, letters]
    cbv
  have opening : Pattern.read [0x28] = .error (.malformed .unterminatedGroup [0x28] 0) := by cbv
  obtain ⟨⟨rules, same, toggling⟩, unreadable⟩ := resolve_disabled reachable
  obtain rfl : letters = rules := Except.ok.inj (listed.symm.trans same)
  obtain ⟨-, -, alike, again⟩ := toggling [0x61] (by decide)
  exact ⟨reachable, listed, alike, (again ⟨_, List.mem_cons_self .., rfl, rfl⟩).2,
    unreadable [] letters (Rule.letterRule 0x28 0x62) _ opening rfl⟩

end UrlRules.Store
