import Mathlib.Data.Nat.Basic
import UrlRules.Text.Utf8

/-!
# Octets written and read

The octets of a Unicode scalar value are read as that value (`parts_encodeOne`), so a text of such values is
read back (`decode?_encode`, `decodeLossy_encode`), and no other values are ever read (`unicode_of_decode?`).
The octets of a larger number hold a malformed part, so whatever the octets of a text are read as is the text
(`eq_of_decode?_encode`).
-/
namespace UrlRules.Text

variable {s : Text}

/-- A code point that is a Unicode scalar value. -/
def IsScalarValue (c : CodePoint) : Prop := c ≤ maxCodePoint ∧ isSurrogate c = false

instance (c : CodePoint) : Decidable (IsScalarValue c) := inferInstanceAs (Decidable (_ ∧ _))

/-- A text of Unicode scalar values. -/
def IsUnicode (s : Text) : Prop := ∀ c ∈ s, IsScalarValue c

instance (s : Text) : Decidable s.IsUnicode :=
  inferInstanceAs (Decidable (∀ c ∈ s, IsScalarValue c))

/-- A text of code points, lone surrogates among them. -/
def Bounded (s : Text) : Prop := ∀ c ∈ s, c ≤ maxCodePoint

instance (s : Text) : Decidable s.Bounded := inferInstanceAs (Decidable (∀ c ∈ s, c ≤ maxCodePoint))

theorem IsUnicode.bounded (unicode : s.IsUnicode) : s.Bounded := fun c member => (unicode c member).1

theorem Bounded.unicode (bounded : s.Bounded) (scalar : isScalar s = true) : s.IsUnicode :=
  fun c member => ⟨bounded c member, by simpa using List.all_eq_true.mp scalar c member⟩

theorem IsUnicode.snoc {c : Nat} (unicode : s.IsUnicode) (own : IsScalarValue c) : IsUnicode (s ++ [c]) := by
  intro d member
  rcases List.mem_append.mp member with inside | last
  · exact unicode d inside
  · exact List.mem_singleton.mp last ▸ own

theorem IsUnicode.isScalar (unicode : s.IsUnicode) : isScalar s = true := by
  unfold Text.isScalar
  rw [List.all_eq_true]
  intro c member
  simp [(unicode c member).2]

theorem isSurrogate_iff {c : Nat} : isSurrogate c = true ↔ 0xD800 ≤ c ∧ c ≤ 0xDFFF := by
  simp only [isSurrogate, Bool.and_eq_true, decide_eq_true_eq]

theorem isScalarValue_of_apart {c : Nat} (apart : c < 0xD800 ∨ 0xDFFF < c ∧ c ≤ 0x10FFFF) :
    IsScalarValue c := by
  refine ⟨show c ≤ 0x10FFFF by omega, ?_⟩
  rw [← Bool.not_eq_true, isSurrogate_iff]
  omega

namespace Utf8

variable {b c bits due low high x y z : Nat} {p : Pending} {rest : List Octet}

/-! ## One octet -/

theorem parts_ascii (ascii : b < 0x80) (rest : List Octet) :
    parts none (b :: rest) = some b :: parts none rest := by
  simp [parts, step, start, ascii]

theorem parts_lead (large : 0x80 ≤ b) (lead : lead? b = some p) (rest : List Octet) :
    parts none (b :: rest) = parts (some p) rest := by
  have ascii : ¬b < 0x80 := Nat.not_lt.mpr large
  simp [parts, step, start, ascii, lead]

theorem parts_refused (large : 0x80 ≤ b) (lead : lead? b = none) (rest : List Octet) :
    none ∈ parts none (b :: rest) := by
  have ascii : ¬b < 0x80 := Nat.not_lt.mpr large
  simp [parts, step, start, ascii, lead]

theorem parts_outside (outside : ¬(low ≤ b ∧ b ≤ high)) (rest : List Octet) :
    none ∈ parts (some ⟨due, low, high, bits⟩) (b :: rest) := by
  simp [parts, step, outside]

/-- The last octet of a character. -/
theorem parts_last (inside : low ≤ b ∧ b ≤ high) (rest : List Octet) :
    parts (some ⟨1, low, high, bits⟩) (b :: rest) = some (bits * 0x40 + (b - 0x80)) :: parts none rest := by
  simp [parts, step, inside]

/-- An octet inside a character. -/
theorem parts_more (inside : low ≤ b ∧ b ≤ high) (rest : List Octet) :
    parts (some ⟨due + 2, low, high, bits⟩) (b :: rest) =
      parts (some ⟨due + 1, 0x80, 0xBF, bits * 0x40 + (b - 0x80)⟩) rest := by
  simp [parts, step, inside]

/-! ## One character -/

theorem parts_two (inside : low ≤ 0x80 + x ∧ 0x80 + x ≤ high) (rest : List Octet) :
    parts (some ⟨1, low, high, bits⟩) ((0x80 + x) :: rest) = some (bits * 0x40 + x) :: parts none rest := by
  rw [parts_last inside, Nat.add_sub_cancel_left]

theorem parts_three (inside : low ≤ 0x80 + x ∧ 0x80 + x ≤ high) (small : y < 0x40)
    (rest : List Octet) :
    parts (some ⟨2, low, high, bits⟩) ((0x80 + x) :: (0x80 + y) :: rest) =
      some ((bits * 0x40 + x) * 0x40 + y) :: parts none rest := by
  rw [parts_more inside, Nat.add_sub_cancel_left, parts_two (by omega)]

theorem parts_four (inside : low ≤ 0x80 + x ∧ 0x80 + x ≤ high) (small : y < 0x40) (small' : z < 0x40)
    (rest : List Octet) :
    parts (some ⟨3, low, high, bits⟩) ((0x80 + x) :: (0x80 + y) :: (0x80 + z) :: rest) =
      some (((bits * 0x40 + x) * 0x40 + y) * 0x40 + z) :: parts none rest := by
  rw [parts_more inside, Nat.add_sub_cancel_left, parts_three (by omega) small']

/-- What each lead octet announces. -/
theorem lead?_eq (b : Nat) :
    lead? b =
      if 0xC2 ≤ b ∧ b ≤ 0xDF then some ⟨1, 0x80, 0xBF, b - 0xC0⟩
      else if b = 0xE0 then some ⟨2, 0xA0, 0xBF, 0⟩
      else if b = 0xED then some ⟨2, 0x80, 0x9F, 0xD⟩
      else if 0xE1 ≤ b ∧ b ≤ 0xEF then some ⟨2, 0x80, 0xBF, b - 0xE0⟩
      else if b = 0xF0 then some ⟨3, 0x90, 0xBF, 0⟩
      else if 0xF1 ≤ b ∧ b ≤ 0xF3 then some ⟨3, 0x80, 0xBF, b - 0xF0⟩
      else if b = 0xF4 then some ⟨3, 0x80, 0x8F, 4⟩
      else none := rfl

theorem parts_encodeTwo (large : 0x80 ≤ c) (small : c < 0x800) (rest : List Octet) :
    parts none ((0xC0 + c / 0x40) :: (0x80 + c % 0x40) :: rest) = some c :: parts none rest := by
  have lead : lead? (0xC0 + c / 0x40) = some ⟨1, 0x80, 0xBF, 0xC0 + c / 0x40 - 0xC0⟩ := by
    rw [lead?_eq, if_pos (by omega)]
  rw [parts_lead (by omega) lead, parts_two (by omega)]
  have whole : (0xC0 + c / 0x40 - 0xC0) * 0x40 + c % 0x40 = c := by omega
  rw [whole]

theorem parts_encodeThree (large : 0x800 ≤ c) (small : c < 0x10000)
    (scalar : ¬(0xD800 ≤ c ∧ c ≤ 0xDFFF)) (rest : List Octet) :
    parts none ((0xE0 + c / 0x1000) :: (0x80 + c / 0x40 % 0x40) :: (0x80 + c % 0x40) :: rest) =
      some c :: parts none rest := by
  have last : c % 0x40 < 0x40 := Nat.mod_lt _ (by decide)
  have large' : 0x80 ≤ 0xE0 + c / 0x1000 := by omega
  have whole : ((c / 0x1000) * 0x40 + c / 0x40 % 0x40) * 0x40 + c % 0x40 = c := by omega
  -- The second octet is restricted after the first and the last but two of the lead octets.
  by_cases first : c / 0x1000 = 0
  · rw [first] at whole large' ⊢
    rw [parts_lead large' (p := ⟨2, 0xA0, 0xBF, 0⟩) rfl, parts_three (by omega) last, whole]
  by_cases surrogates : c / 0x1000 = 0xD
  · rw [surrogates] at whole large' ⊢
    rw [parts_lead large' (p := ⟨2, 0x80, 0x9F, 0xD⟩) rfl, parts_three (by omega) last,
      whole]
  · have lead : lead? (0xE0 + c / 0x1000) = some ⟨2, 0x80, 0xBF, 0xE0 + c / 0x1000 - 0xE0⟩ := by
      rw [lead?_eq, if_neg (by omega), if_neg (by omega), if_neg (by omega), if_pos (by omega)]
    rw [parts_lead large' lead, parts_three (by omega) last, Nat.add_sub_cancel_left, whole]

theorem parts_encodeFour (large : 0x10000 ≤ c) (bounded : c ≤ 0x10FFFF) (rest : List Octet) :
    parts none ((0xF0 + c / 0x40000) :: (0x80 + c / 0x1000 % 0x40) :: (0x80 + c / 0x40 % 0x40) ::
      (0x80 + c % 0x40) :: rest) = some c :: parts none rest := by
  have last : c % 0x40 < 0x40 := Nat.mod_lt _ (by decide)
  have third : c / 0x40 % 0x40 < 0x40 := Nat.mod_lt _ (by decide)
  have large' : 0x80 ≤ 0xF0 + c / 0x40000 := by omega
  have whole : (((c / 0x40000) * 0x40 + c / 0x1000 % 0x40) * 0x40 + c / 0x40 % 0x40) * 0x40 +
      c % 0x40 = c := by omega
  by_cases first : c / 0x40000 = 0
  · rw [first] at whole large' ⊢
    rw [parts_lead large' (p := ⟨3, 0x90, 0xBF, 0⟩) rfl,
      parts_four (by omega) third last, whole]
  by_cases highest : c / 0x40000 = 4
  · rw [highest] at whole large' ⊢
    rw [parts_lead large' (p := ⟨3, 0x80, 0x8F, 4⟩) rfl,
      parts_four (by omega) third last, whole]
  · have lead : lead? (0xF0 + c / 0x40000) = some ⟨3, 0x80, 0xBF, 0xF0 + c / 0x40000 - 0xF0⟩ := by
      rw [lead?_eq, if_neg (by omega), if_neg (by omega), if_neg (by omega), if_neg (by omega),
        if_neg (by omega), if_pos (by omega)]
    rw [parts_lead large' lead, parts_four (by omega) third last,
      Nat.add_sub_cancel_left, whole]

theorem parts_encodeOne (bounded : c ≤ maxCodePoint) (scalar : isSurrogate c = false)
    (rest : List Octet) : parts none (encodeOne c ++ rest) = some c :: parts none rest := by
  have scalar : ¬(0xD800 ≤ c ∧ c ≤ 0xDFFF) := by
    rintro ⟨lower, upper⟩
    simp [isSurrogate, lower, upper] at scalar
  unfold encodeOne
  split
  next ascii => exact parts_ascii ascii rest
  next large =>
    split
    next small => exact parts_encodeTwo (Nat.le_of_not_lt large) small rest
    next large =>
      split
      next small => exact parts_encodeThree (Nat.le_of_not_lt large) small scalar rest
      next large => exact parts_encodeFour (Nat.le_of_not_lt large) bounded rest

/-- A number beyond the code points has no octets that are read. -/
theorem parts_beyond (beyond : 0x110000 ≤ c) (rest : List Octet) :
    none ∈ parts none (encodeOne c ++ rest) := by
  have encoded : encodeOne c = [0xF0 + c / 0x40000, 0x80 + c / 0x1000 % 0x40,
      0x80 + c / 0x40 % 0x40, 0x80 + c % 0x40] := by
    have ascii : ¬c < 0x80 := by omega
    have two : ¬c < 0x800 := by omega
    have three : ¬c < 0x10000 := by omega
    unfold encodeOne
    rw [if_neg ascii, if_neg two, if_neg three]
  have large : 0x80 ≤ 0xF0 + c / 0x40000 := by omega
  rw [encoded]
  by_cases highest : c / 0x40000 = 4
  · rw [highest] at large ⊢
    rw [List.cons_append, parts_lead large (p := ⟨3, 0x80, 0x8F, 4⟩) rfl]
    exact parts_outside (by omega) _
  · refine parts_refused large ?_ _
    rw [lead?_eq, if_neg (by omega), if_neg (by omega), if_neg (by omega), if_neg (by omega),
        if_neg (by omega), if_neg (by omega), if_neg (by omega)]

/-! ## Texts -/

theorem encode_snoc (s : Text) (c : CodePoint) : encode (s ++ [c]) = encode s ++ encodeOne c := by
  simp [encode]

/-- The octets of a text are read as its characters, and nothing is malformed. -/
theorem parts_encode (unicode : s.IsUnicode) : parts none (encode s) = s.map some := by
  induction s with
  | nil => rfl
  | cons c s ih =>
    have own := unicode c (by simp)
    have others := ih fun d member => unicode d (by simp [member])
    unfold encode at others ⊢
    rw [List.flatMap_cons, parts_encodeOne own.1 own.2, others, List.map_cons]

/-- Unicode is read back from its octets. -/
theorem decode?_encode (unicode : s.IsUnicode) : decode? (encode s) = some s := by
  have whole (t : Text) : (t.map some).mapM id = some t := by
    induction t with
    | nil => rfl
    | cons c t ih => simp [List.mapM_cons, ih]
  rw [decode?, parts_encode unicode, whole]

/-- So it is where malformed parts would be replaced. -/
theorem decodeLossy_encode (unicode : s.IsUnicode) : decodeLossy (encode s) = s := by
  rw [decodeLossy, parts_encode unicode, List.map_map]
  exact List.map_id s

theorem not_mem_of_mapM {items : List (Option CodePoint)} {s : Text} (all : items.mapM id = some s) :
    none ∉ items := by
  induction items generalizing s with
  | nil => simp
  | cons item items ih =>
    cases item with
    | none => simp [List.mapM_cons] at all
    | some c =>
      simp only [List.mapM_cons, id_eq, bind, pure, Option.bind_eq_some_iff, Option.some.injEq] at all
      obtain ⟨_, _, others, all, _⟩ := all
      simp [ih all]

/-- What the octets of a text are read as is the text. -/
theorem eq_of_decode?_encode {s t : Text} (scalar : isScalar s = true)
    (read : decode? (encode s) = some t) : t = s := by
  induction s generalizing t with
  | nil =>
    obtain rfl : [] = t := by simpa [decode?, encode, parts] using read
    rfl
  | cons c s ih =>
    rw [isScalar, List.all_cons, Bool.and_eq_true] at scalar
    have own : isSurrogate c = false := by simpa using scalar.1
    unfold decode? encode at read
    rw [List.flatMap_cons] at read
    by_cases bounded : c ≤ maxCodePoint
    · rw [parts_encodeOne bounded own] at read
      simp only [List.mapM_cons, id_eq, bind, pure, Option.bind_eq_some_iff, Option.some.injEq] at read
      obtain ⟨_, rfl, others, read, rfl⟩ := read
      rw [ih scalar.2 read]
    · have beyond : 0x110000 ≤ c := Nat.succ_le_of_lt (Nat.lt_of_not_le bounded)
      exact absurd (parts_beyond beyond _) (not_mem_of_mapM read)

/-! ## What is read -/

/-- Whatever completes what is pending completes a scalar value. The number is that of the octets due after the
next one. -/
def Leads : Nat → (low high bits : Nat) → Prop
  | 0, low, high, bits => ∀ b, low ≤ b ∧ b ≤ high → IsScalarValue (bits * 0x40 + (b - 0x80))
  | due + 1, low, high, bits =>
      ∀ b, low ≤ b ∧ b ≤ high → Leads due 0x80 0xBF (bits * 0x40 + (b - 0x80))

theorem leads_lead? (lead : lead? b = some p) : Leads (p.due - 1) p.low p.high p.bits := by
  rw [lead?_eq] at lead
  repeat' split at lead
  all_goals cases lead
  all_goals dsimp only [Leads, Nat.reduceSub]
  · exact fun x _ => isScalarValue_of_apart (by omega)
  · exact fun x _ y _ => isScalarValue_of_apart (by omega)
  · exact fun x _ y _ => isScalarValue_of_apart (by omega)
  · exact fun x _ y _ => isScalarValue_of_apart (by omega)
  · exact fun x _ y _ z _ => isScalarValue_of_apart (by omega)
  · exact fun x _ y _ z _ => isScalarValue_of_apart (by omega)
  · exact fun x _ y _ z _ => isScalarValue_of_apart (by omega)

theorem scalar_of_mem_start (member : some c ∈ (start b).1) : IsScalarValue c := by
  unfold start at member
  split at member
  next ascii =>
    obtain rfl : c = b := by simpa using member
    have ascii : c < 0x80 := ascii
    exact isScalarValue_of_apart (by omega)
  next => split at member <;> simp at member

theorem leads_start (pending : (start b).2 = some p) : Leads (p.due - 1) p.low p.high p.bits := by
  unfold start at pending
  split at pending
  · cases pending
  · split at pending
    next lead =>
      obtain rfl := Option.some.inj pending
      exact leads_lead? lead
    next => cases pending

/-- One octet completes scalar values only, and leaves nothing pending that could lead to another value. -/
theorem step_leads {pending : Option Pending}
    (leads : ∀ p ∈ pending, Leads (p.due - 1) p.low p.high p.bits) (b : Octet) :
    (∀ c, some c ∈ (step pending b).1 → IsScalarValue c) ∧
      ∀ p ∈ (step pending b).2, Leads (p.due - 1) p.low p.high p.bits := by
  cases pending with
  | none => exact ⟨fun c => scalar_of_mem_start, fun p => leads_start⟩
  | some q =>
    have own := leads q rfl
    simp only [step]
    by_cases inside : q.low ≤ b ∧ b ≤ q.high
    · rw [if_pos inside]
      by_cases last : q.due ≤ 1
      · rw [if_pos last]
        rw [Nat.sub_eq_zero_of_le last] at own
        exact ⟨by simpa using own b inside, by simp⟩
      · rw [if_neg last]
        obtain ⟨more, due⟩ := Nat.exists_eq_add_of_le' (Nat.lt_of_not_le last)
        rw [due] at own ⊢
        exact ⟨by simp, by simpa using own b inside⟩
    · rw [if_neg inside]
      exact ⟨fun c member => scalar_of_mem_start (by simpa using member), fun p => leads_start⟩

theorem scalar_of_mem_parts {pending : Option Pending} {octets : List Octet}
    (leads : ∀ p ∈ pending, Leads (p.due - 1) p.low p.high p.bits) :
    ∀ c, some c ∈ parts pending octets → IsScalarValue c := by
  induction octets generalizing pending with
  | nil => cases pending <;> simp [parts]
  | cons b octets ih =>
    obtain ⟨now, later⟩ := step_leads leads b
    intro c member
    rw [parts] at member
    rcases List.mem_append.mp member with first | others
    · exact now c first
    · exact ih later c others

theorem mem_of_mapM_id {items : List (Option CodePoint)} {s : Text} (all : items.mapM id = some s) :
    ∀ c ∈ s, some c ∈ items := by
  induction items generalizing s with
  | nil =>
    obtain rfl : [] = s := by simpa using all
    simp
  | cons item items ih =>
    simp only [List.mapM_cons, id_eq, bind, pure, Option.bind_eq_some_iff, Option.some.injEq] at all
    obtain ⟨c, rfl, others, all, rfl⟩ := all
    intro d member
    rcases List.mem_cons.mp member with rfl | later
    · simp
    · exact List.mem_cons_of_mem _ (ih all d later)

/-- Only Unicode is read. -/
theorem unicode_of_decode? {octets : List Octet} (read : decode? octets = some s) : s.IsUnicode :=
  fun c member => scalar_of_mem_parts (by simp) c (mem_of_mapM_id read c member)

end Utf8
end UrlRules.Text
