import Mathlib.Data.List.Forall2
import Mathlib.Data.Prod.Basic

/-!
# Results of steps that can fail

Steps after each other succeed if each succeeds with what the one before it gave (`bind_eq_ok`), and fail with an
error of one of them (`error_of_bind`). A step for every item succeeds if it does for every item (`mapM_eq_ok`,
`mapM_eq_some`), and otherwise fails with the error of the first that fails (`mapM_eq_error`); items and results
are then related one by one (`exists_of_forall₂`). Steps that also change a state are run one after the other
(`run_bind`).
-/
namespace UrlRules

variable {ε σ α β : Type}

theorem bind_eq_ok {x : Except ε α} {f : α → Except ε β} {b : β} :
    (x >>= f) = .ok b ↔ ∃ a, x = .ok a ∧ f a = .ok b := by
  cases x <;> simp [bind, Except.bind]

theorem bind_eq_error {x : Except ε α} {f : α → Except ε β} {e : ε} :
    (x >>= f) = .error e ↔ x = .error e ∨ ∃ a, x = .ok a ∧ f a = .error e := by
  cases x <;> simp [bind, Except.bind]

/-- What holds of every error of two steps holds of every error of one after the other. -/
theorem error_of_bind {holds : ε → Prop} {x : Except ε α} {f : α → Except ε β}
    (first : ∀ e, x = .error e → holds e) (rest : ∀ a, x = .ok a → ∀ e, f a = .error e → holds e) :
    ∀ e, (x >>= f) = .error e → holds e := by
  intro e failed
  rcases bind_eq_error.mp failed with own | ⟨a, gave, failed⟩
  · exact first e own
  · exact rest a gave e failed

theorem mapM_eq_ok {f : α → Except ε β} {items : List α} {values : List β} :
    items.mapM f = .ok values ↔ List.Forall₂ (fun item value => f item = .ok value) items values := by
  induction items generalizing values with
  | nil => cases values <;> simp [pure, Except.pure]
  | cons item items ih =>
    rw [List.mapM_cons]
    simp only [bind_eq_ok, ih, pure, Except.pure, Except.ok.injEq, List.forall₂_cons_left_iff]
    constructor
    · rintro ⟨value, one, others, rest, rfl⟩
      exact ⟨value, others, one, rest, rfl⟩
    · rintro ⟨value, others, one, rest, rfl⟩
      exact ⟨value, one, others, rest, rfl⟩

/-- The error is that of the first item that fails. -/
theorem mapM_eq_error {f : α → Except ε β} {items : List α} {e : ε} :
    items.mapM f = .error e ↔ ∃ before item after, items = before ++ item :: after ∧
      (∀ other ∈ before, ∃ value, f other = .ok value) ∧ f item = .error e := by
  induction items with
  | nil =>
    constructor
    · intro failed
      cases failed
    · rintro ⟨before, item, after, whole, -⟩
      simp at whole
  | cons item items ih =>
    rw [List.mapM_cons]
    simp only [bind_eq_error, ih, pure, Except.pure, reduceCtorEq, and_false, exists_false, or_false]
    constructor
    · rintro (own | ⟨value, one, before, other, after, rfl, each, failed⟩)
      · exact ⟨[], item, items, rfl, by simp, own⟩
      · exact ⟨item :: before, other, after, rfl, List.forall_mem_cons.mpr ⟨⟨value, one⟩, each⟩, failed⟩
    · rintro ⟨before, other, after, whole, each, failed⟩
      cases before with
      | nil =>
        obtain ⟨rfl, rfl⟩ := List.cons.inj whole
        exact .inl failed
      | cons first before =>
        obtain ⟨rfl, rfl⟩ := List.cons.inj whole
        obtain ⟨⟨value, one⟩, each⟩ := List.forall_mem_cons.mp each
        exact .inr ⟨value, one, before, other, after, rfl, each, failed⟩

/-- The error is that of an item. -/
theorem exists_of_mapM_error {f : α → Except ε β} {items : List α} {e : ε} (failed : items.mapM f = .error e) :
    ∃ item ∈ items, f item = .error e := by
  obtain ⟨before, item, after, rfl, -, failed⟩ := mapM_eq_error.mp failed
  exact ⟨item, by simp, failed⟩

theorem mapM_eq_some {f : α → Option β} {items : List α} {values : List β} :
    items.mapM f = some values ↔ List.Forall₂ (fun item value => f item = some value) items values := by
  induction items generalizing values with
  | nil => cases values <;> simp
  | cons item items ih =>
    rw [List.mapM_cons, List.forall₂_cons_left_iff]
    simp only [Option.bind_eq_bind, Option.bind_eq_some_iff, ih]
    constructor
    · rintro ⟨value, one, rest, others, whole⟩
      exact ⟨value, rest, one, others, (Option.some.inj whole).symm⟩
    · rintro ⟨value, rest, one, others, rfl⟩
      exact ⟨value, one, rest, others, rfl⟩

theorem mapM_eq_none {f : α → Option β} {items : List α} :
    items.mapM f = none ↔ ∃ item ∈ items, f item = none := by
  induction items with
  | nil => simp
  | cons item items ih =>
    rw [List.mapM_cons, List.exists_mem_cons_iff, ← ih]
    cases f item <;> cases items.mapM f <;> simp

/-! ## Lists that are related item by item -/

/-- Each value is that of an item. -/
theorem exists_of_forall₂ {related : α → β → Prop} {items : List α} {values : List β}
    (all : List.Forall₂ related items values) {value : β} (member : value ∈ values) :
    ∃ item ∈ items, related item value := by
  induction all with
  | nil => cases member
  | cons first _ ih =>
    rcases List.mem_cons.mp member with rfl | later
    · exact ⟨_, List.mem_cons_self .., first⟩
    · obtain ⟨item, inside, own⟩ := ih later
      exact ⟨item, List.mem_cons_of_mem _ inside, own⟩

theorem forall_of_forall₂ {related : α → β → Prop} {holds : β → Prop} {items : List α} {values : List β}
    (all : List.Forall₂ related items values) (each : ∀ item ∈ items, ∀ value, related item value → holds value) :
    ∀ value ∈ values, holds value := by
  intro value member
  obtain ⟨item, inside, own⟩ := exists_of_forall₂ all member
  exact each item inside value own

/-! ## Lists whose items have names of their own -/

/-- Names are distinct and new exactly if they are new one after the other. -/
theorem nodup_of_unseen_iff {name : α → β} {first : α} {rest : List α} {seen : List β} :
    ((first :: rest).map name).Nodup ∧ (∀ x ∈ first :: rest, name x ∉ seen) ↔
      name first ∉ seen ∧ (rest.map name).Nodup ∧ ∀ x ∈ rest, name x ∉ name first :: seen := by
  constructor
  · rintro ⟨distinct, unseen⟩
    obtain ⟨apart, distinct⟩ := List.nodup_cons.mp distinct
    refine ⟨unseen first (List.mem_cons_self ..), distinct, fun x member again => ?_⟩
    rcases List.mem_cons.mp again with same | before
    · exact apart (same ▸ List.mem_map_of_mem member)
    · exact unseen x (List.mem_cons_of_mem _ member) before
  · rintro ⟨new, distinct, unseen⟩
    refine ⟨List.nodup_cons.mpr ⟨fun again => ?_, distinct⟩, List.forall_mem_cons.mpr ⟨new, fun x later before => ?_⟩⟩
    · obtain ⟨x, member, same⟩ := List.mem_map.mp again
      exact unseen x member (by simp [same])
    · exact unseen x later (List.mem_cons_of_mem _ before)

/-! ## Steps that change a state -/

theorem run_pure (a : α) (s : σ) : (pure a : ExceptT ε (StateM σ) α).run s = (.ok a, s) := rfl

theorem run_bind (x : ExceptT ε (StateM σ) α) (f : α → ExceptT ε (StateM σ) β) (s : σ) :
    (x >>= f).run s =
      match x.run s with
      | (.ok a, s') => (f a).run s'
      | (.error e, s') => (.error e, s') := by
  show ExceptT.bindCont f (x.run s).1 (x.run s).2 = _
  rcases x.run s with ⟨result, s'⟩
  cases result <;> rfl

theorem run_throw (e : ε) (s : σ) : (throw e : ExceptT ε (StateM σ) α).run s = (.error e, s) := rfl

theorem run_get (s : σ) : (get : ExceptT ε (StateM σ) σ).run s = (.ok s, s) := rfl

theorem run_set (s' s : σ) : (set s' : ExceptT ε (StateM σ) PUnit).run s = (.ok ⟨⟩, s') := rfl

theorem run_modify (f : σ → σ) (s : σ) :
    (modify f : ExceptT ε (StateM σ) PUnit).run s = (.ok ⟨⟩, f s) := rfl

variable {x : ExceptT ε (StateM σ) α} {f : α → ExceptT ε (StateM σ) β} {s s' : σ}

theorem run_bind_of_ok {a : α} (first : (x.run s).1 = .ok a) (f : α → ExceptT ε (StateM σ) β) :
    (x >>= f).run s = (f a).run (x.run s).2 := by
  rw [run_bind, Prod.fst_eq_iff.mp first]

theorem run_bind_of_error {e : ε} (first : (x.run s).1 = .error e) (f : α → ExceptT ε (StateM σ) β) :
    (x >>= f).run s = (.error e, (x.run s).2) := by
  rw [run_bind, Prod.fst_eq_iff.mp first]

/-- Steps that succeed do so one by one. -/
theorem ok_of_bind {b : β} (ran : (x >>= f).run s = (.ok b, s')) :
    ∃ a between, x.run s = (.ok a, between) ∧ (f a).run between = (.ok b, s') := by
  rw [run_bind] at ran
  split at ran
  next a between first => exact ⟨a, between, first, ran⟩
  next => cases ran

/-- The first step fails, or the second one is made after it. -/
theorem cases_of_bind {result : Except ε β} (ran : (x >>= f).run s = (result, s')) :
    (∃ e, x.run s = (.error e, s') ∧ result = .error e) ∨
      ∃ a between, x.run s = (.ok a, between) ∧ (f a).run between = (result, s') := by
  rw [run_bind] at ran
  rcases first : x.run s with ⟨answer, between⟩
  rw [first] at ran
  cases answer with
  | error e =>
    cases ran
    exact .inl ⟨e, rfl, rfl⟩
  | ok a => exact .inr ⟨a, between, rfl, ran⟩

theorem eq_of_get {now : σ} (ran : (get : ExceptT ε (StateM σ) σ).run s = (.ok now, s')) :
    now = s ∧ s' = s := by
  cases ran
  exact ⟨rfl, rfl⟩

end UrlRules
