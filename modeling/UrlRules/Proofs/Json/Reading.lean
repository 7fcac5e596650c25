import UrlRules.Proofs.Json.Characters

/-!
# What the reader takes for a value

`Denotes t v` says that `t` is a way to write the value `v`: with any gaps between its parts, and with
every character spelled in any way. Numbers are left out. The reader takes all of them (`Denotes.taken`), as it
takes whatever is made of texts and scalars that it reads one by one, with any gaps (`readValue_taken`). So a text
that denotes a value is read as that value (`read_of_denotes`).
-/
namespace UrlRules.Json

open Text

/-- Only blanks and line breaks. -/
def Gap (g : Text) : Prop := ∀ c ∈ g, isGap c = true

/-- The characters of a text, each spelled in some way. A first half of a surrogate pair may stand on its
own where no second half follows. -/
inductive SpellsText : Text → Text → Prop
  | nil : SpellsText [] []
  | cons {e body s : Text} {c : CodePoint} (first : Spells e c) (others : SpellsText body s) :
      SpellsText (e ++ body) (c :: s)
  | lone {body s : Text} {n : Nat} (small : n < 0x10000)
      (alone : isHighSurrogate n = true → ∀ rest, secondHalf? (body ++ 0x22 :: rest) = .ok none)
      (others : SpellsText body s) : SpellsText (0x5C :: 0x75 :: hexPadded 4 n ++ body) (n :: s)

mutual

/-- The ways to write a value. -/
inductive Denotes : Text → Json → Prop
  | null : Denotes [0x6E, 0x75, 0x6C, 0x6C] .null
  | true : Denotes [0x74, 0x72, 0x75, 0x65] (.bool true)
  | false : Denotes [0x66, 0x61, 0x6C, 0x73, 0x65] (.bool false)
  | text {body s : Text} (spelled : SpellsText body s) : Denotes (0x22 :: body ++ [0x22]) (.text s)
  | emptyList {g : Text} (gap : Gap g) : Denotes (0x5B :: g ++ [0x5D]) (.list [])
  | list {g t : Text} {items : List Json} (gap : Gap g) (inside : DenotesItems t items) :
      Denotes (0x5B :: g ++ t) (.list items)
  | emptyObject {g : Text} (gap : Gap g) : Denotes (0x7B :: g ++ [0x7D]) (.object [])
  | object {g t : Text} {writes : List (Text × Json)} (gap : Gap g)
      (inside : DenotesFields t writes) : Denotes (0x7B :: g ++ t) (.object (ofWrites writes))

/-- The items of a list, with the end of the list. -/
inductive DenotesItems : Text → List Json → Prop
  | last {t g : Text} {item : Json} (value : Denotes t item) (gap : Gap g) :
      DenotesItems (t ++ (g ++ [0x5D])) [item]
  | more {t g₁ g₂ others : Text} {item : Json} {items : List Json} (value : Denotes t item)
      (before : Gap g₁) (after : Gap g₂) (rest : DenotesItems others items) :
      DenotesItems (t ++ (g₁ ++ 0x2C :: (g₂ ++ others))) (item :: items)

/-- The fields of an object, with the end of the object. -/
inductive DenotesFields : Text → List (Text × Json) → Prop
  | last {body name g₁ g₂ t g₃ : Text} {item : Json} (spelled : SpellsText body name)
      (colon : Gap g₁) (blank : Gap g₂) (value : Denotes t item) (gap : Gap g₃) :
      DenotesFields (0x22 :: (body ++ 0x22 :: (g₁ ++ 0x3A :: (g₂ ++ (t ++ (g₃ ++ [0x7D]))))))
        [(name, item)]
  | more {body name g₁ g₂ t g₃ g₄ others : Text} {item : Json} {writes : List (Text × Json)}
      (spelled : SpellsText body name) (colon : Gap g₁) (blank : Gap g₂) (value : Denotes t item)
      (before : Gap g₃) (after : Gap g₄) (rest : DenotesFields others writes) :
      DenotesFields
        (0x22 :: (body ++ 0x22 :: (g₁ ++ 0x3A :: (g₂ ++ (t ++ (g₃ ++ 0x2C :: (g₄ ++ others)))))))
        ((name, item) :: writes)

end

variable {t g body s rest : Text} {c : CodePoint} {v : Json}

/-! ## Texts -/

theorem readCharacters_spelled (opened : Nat) (spelled : SpellsText body s) (fuel : Nat)
    (read rest : Text) (enough : body.length < fuel) :
    readCharacters opened fuel read (body ++ 0x22 :: rest) = .ok (read.reverse ++ s, rest) := by
  induction spelled generalizing fuel read with
  | nil =>
    obtain ⟨fuel, rfl⟩ := Nat.exists_eq_add_of_lt enough
    simp [readCharacters]
  | @cons e body s c first others ih =>
    have some : 0 < e.length := List.length_pos_iff.mpr first.1
    rw [List.length_append] at enough
    cases fuel with
    | zero => omega
    | succ fuel =>
      rw [List.append_assoc, first.2 _ _ _ _ (by simp), ih fuel (c :: read) (by omega)]
      simp
  | @lone body s n small alone others ih =>
    simp only [List.cons_append, List.length_cons, List.length_append, length_hexPadded] at enough
    cases fuel with
    | zero => omega
    | succ fuel =>
      have four : fourHex? (hexPadded 4 n) = some n := fourHex?_hexPadded small
      simp only [List.cons_append, List.append_assoc]
      rw [readCharacters_single four (by simp) fun high => alone high rest, ih fuel (n :: read) (by omega)]
      simp

theorem readText_spelled (spelled : SpellsText body s) (rest : Text) :
    readText (body ++ 0x22 :: rest) = .ok (s, rest) := by
  unfold readText
  rw [readCharacters_spelled _ spelled]
  · simp
  · simp only [List.length_append, List.length_cons]
    omega

/-! ## Gaps -/

theorem skipGaps_append (gap : Gap g) (rest : Text) : skipGaps (g ++ rest) = skipGaps rest := by
  unfold skipGaps
  rw [List.dropWhile_append_of_pos gap]

theorem skipGaps_cons (visible : isGap c = false) (rest : Text) : skipGaps (c :: rest) = c :: rest := by
  simp [skipGaps, visible]

/-- A mark after a gap. -/
theorem skipGaps_mark (gap : Gap g) (isMark : c ∈ [0x2C, 0x5D, 0x7D, 0x3A, 0x22]) (rest : Text) :
    skipGaps (g ++ c :: rest) = c :: rest := by
  have visible : ∀ c ∈ [0x2C, 0x5D, 0x7D, 0x3A, 0x22], isGap c = false := by decide
  rw [skipGaps_append gap, skipGaps_cons (visible c isMark)]

/-- What may follow a value: a gap, a comma, a closing mark or nothing. -/
def Ends (rest : Text) : Prop := ∀ c ∈ rest.head?, isGap c = true ∨ c ∈ [0x2C, 0x5D, 0x7D]

theorem ends_nil : Ends [] := fun _ first => by cases first

theorem ends_mark (isMark : c ∈ [0x2C, 0x5D, 0x7D]) (rest : Text) : Ends (c :: rest) := by
  intro d first
  obtain rfl := Option.some.inj first
  exact .inr isMark

theorem Gap.ends (gap : Gap g) (ends : Ends s) : Ends (g ++ s) := by
  cases g with
  | nil => exact ends
  | cons c g =>
    intro d first
    obtain rfl := Option.some.inj first
    exact .inl (gap _ (List.mem_cons_self ..))

/-! ## What is taken for a value -/

/-- The characters with which a value starts: a letter of a word, a quotation mark, an opening mark, a minus sign or a
digit. -/
def opening : List CodePoint :=
  [0x6E, 0x74, 0x66, 0x22, 0x5B, 0x7B, 0x2D, 0x30, 0x31, 0x32, 0x33, 0x34, 0x35, 0x36, 0x37, 0x38, 0x39]

theorem isGap_of_opening : ∀ c ∈ opening, isGap c = false ∧ c ∉ [0x5D, 0x7D, 0xFEFF] := by decide

/-- What is taken for a text, up to its quotation mark. -/
def TakenText (s body : Text) : Prop := ∀ rest, readText (body ++ 0x22 :: rest) = .ok (s, rest)

/-- A text that is taken for a value without parts, whatever ends it. -/
structure TakenScalar (v : Json) (t : Text) : Prop where
  start : ∃ c ∈ opening, ∃ others, t = c :: others
  read : ∀ fuel rest, Ends rest → readValue (fuel + 1) (t ++ rest) = .ok (v, rest)

mutual

/-- Texts that are taken for values: scalars and names of any kind in lists and objects, with any gaps. -/
inductive Taken : Json → Text → Prop
  | scalar {v : Json} {t : Text} (scalar : TakenScalar v t) : Taken v t
  | noItems {g : Text} (gap : Gap g) : Taken (.list []) (0x5B :: (g ++ [0x5D]))
  | list {items : List Json} {t : Text} (inside : TakenItems items t) : Taken (.list items) (0x5B :: t)
  | noFields {g : Text} (gap : Gap g) : Taken (.object []) (0x7B :: (g ++ [0x7D]))
  | object {fields : List (Text × Json)} {t : Text} (inside : TakenFields fields t) :
      Taken (.object (ofWrites fields)) (0x7B :: t)

/-- The items of a list, with the end of the list. -/
inductive TakenItems : List Json → Text → Prop
  | last {v : Json} {g t g' : Text} (before : Gap g) (item : Taken v t) (after : Gap g') :
      TakenItems [v] (g ++ (t ++ (g' ++ [0x5D])))
  | more {v : Json} {items : List Json} {g t g' others : Text} (before : Gap g) (item : Taken v t) (after : Gap g')
      (rest : TakenItems items others) : TakenItems (v :: items) (g ++ (t ++ (g' ++ 0x2C :: others)))

/-- The fields of an object, with the end of the object. -/
inductive TakenFields : List (Text × Json) → Text → Prop
  | last {name : Text} {v : Json} {g body g₁ g₂ t g' : Text} (before : Gap g) (key : TakenText name body)
      (colon : Gap g₁) (blank : Gap g₂) (item : Taken v t) (after : Gap g') :
      TakenFields [(name, v)] (g ++ 0x22 :: (body ++ 0x22 :: (g₁ ++ 0x3A :: (g₂ ++ (t ++ (g' ++ [0x7D]))))))
  | more {name : Text} {v : Json} {fields : List (Text × Json)} {g body g₁ g₂ t g' others : Text} (before : Gap g)
      (key : TakenText name body) (colon : Gap g₁) (blank : Gap g₂) (item : Taken v t) (after : Gap g')
      (rest : TakenFields fields others) :
      TakenFields ((name, v) :: fields)
        (g ++ 0x22 :: (body ++ 0x22 :: (g₁ ++ 0x3A :: (g₂ ++ (t ++ (g' ++ 0x2C :: others))))))

end

theorem Taken.start (taken : Taken v t) : ∃ c ∈ opening, ∃ others, t = c :: others := by
  cases taken with
  | scalar scalar => exact scalar.start
  | _ => exact ⟨_, by decide, _, rfl⟩

theorem skipGaps_taken (gap : Gap g) (taken : Taken v t) (rest : Text) : skipGaps (g ++ (t ++ rest)) = t ++ rest := by
  obtain ⟨c, start, others, rfl⟩ := taken.start
  rw [skipGaps_append gap, List.cons_append, skipGaps_cons (isGap_of_opening c start).1]

theorem TakenItems.head {items : List Json} (taken : TakenItems items t) (rest : Text) :
    (skipGaps (t ++ rest)).head? ≠ some 0x5D := by
  have head {v : Json} {g t : Text} (before : Gap g) (item : Taken v t) (rest : Text) :
      (skipGaps (g ++ (t ++ rest))).head? ≠ some 0x5D := by
    obtain ⟨c, start, others, rfl⟩ := item.start
    rw [skipGaps_taken before item]
    rintro same
    obtain rfl := Option.some.inj same
    exact absurd start (by decide)
  cases taken with
  | last before item =>
    simp only [List.append_assoc]
    exact head before item _
  | more before item =>
    simp only [List.append_assoc]
    exact head before item _

theorem TakenFields.head {fields : List (Text × Json)} (taken : TakenFields fields t) (rest : Text) :
    (skipGaps (t ++ rest)).head? ≠ some 0x7D := by
  cases taken with
  | last before =>
    rw [List.append_assoc, List.cons_append, skipGaps_mark before (by decide)]
    simp
  | more before =>
    rw [List.append_assoc, List.cons_append, skipGaps_mark before (by decide)]
    simp

/-! ## Reading it -/

theorem readValue_bracket (open' : (skipGaps s).head? ≠ some 0x5D) (fuel : Nat) :
    readValue (fuel + 1) (0x5B :: s) = readItems fuel [] (skipGaps s) := by
  have quote : ¬(0x5B : CodePoint) = 0x22 := by decide
  have brace : ¬(0x5B : CodePoint) = 0x7B := by decide
  simp only [readValue, if_neg quote, if_neg brace, if_true]
  split
  next rest closed => simp [closed] at open'
  next => rfl

theorem readValue_brace (open' : (skipGaps s).head? ≠ some 0x7D) (fuel : Nat) :
    readValue (fuel + 1) (0x7B :: s) = readFields fuel [] (skipGaps s) := by
  have quote : ¬(0x7B : CodePoint) = 0x22 := by decide
  simp only [readValue, if_neg quote, if_true]
  split
  next rest closed => simp [closed] at open'
  next => rfl

/-- What is done after an item: the list is closed, or the next item is read. -/
def afterItem (fuel : Nat) (read : List Json) : Text → Except ReadFailure (Json × Text)
  | 0x5D :: rest => .ok (.list read.reverse, rest)
  | 0x2C :: rest => readItems fuel read (skipGaps rest)
  | rest => failAt .expectedComma rest

theorem readItems_item {fuel : Nat} (read : List Json) (first : readValue fuel s = .ok (v, rest)) :
    readItems (fuel + 1) read s = afterItem fuel (v :: read) (skipGaps rest) := by
  simp only [readItems, first, bind, Except.bind]
  rfl

/-- What is done after a field: the object is closed, or the next field is read. -/
def afterField (fuel : Nat) (read : List (Text × Json)) : Text → Except ReadFailure (Json × Text)
  | 0x7D :: rest => .ok (.object (ofWrites read.reverse), rest)
  | 0x2C :: rest => readFields fuel read (skipGaps rest)
  | rest => failAt .expectedComma rest

theorem readFields_field {g₁ g₂ name : Text} (key : TakenText name body) (colon : Gap g₁) (blank : Gap g₂)
    (item : Taken v t) {fuel : Nat} (read : List (Text × Json)) (first : readValue fuel (t ++ rest) = .ok (v, rest)) :
    readFields (fuel + 1) read (0x22 :: (body ++ 0x22 :: (g₁ ++ 0x3A :: (g₂ ++ (t ++ rest))))) =
      afterField fuel ((name, v) :: read) (skipGaps rest) := by
  have named := key (g₁ ++ 0x3A :: (g₂ ++ (t ++ rest)))
  have middle := skipGaps_mark colon (c := 0x3A) (by decide) (g₂ ++ (t ++ rest))
  simp only [readFields, named, middle, skipGaps_taken blank item rest, first, bind, Except.bind]
  rfl

mutual

/-- Whatever is taken for a value is read as that value. The fuel is used up character by character. -/
theorem readValue_taken {v : Json} {t : Text} (taken : Taken v t) (fuel : Nat) (rest : Text) (ends : Ends rest)
    (enough : t.length ≤ fuel) : readValue fuel (t ++ rest) = .ok (v, rest) := by
  cases fuel with
  | zero =>
    obtain ⟨c, _, others, rfl⟩ := taken.start
    cases enough
  | succ fuel =>
    cases taken with
    | scalar scalar => exact scalar.read fuel rest ends
    | noItems gap => simp [readValue, skipGaps_mark gap (c := 0x5D) (by decide)]
    | @list items t inside =>
      simp only [List.length_cons] at enough
      rw [List.cons_append, readValue_bracket (inside.head rest), readItems_taken inside fuel [] rest (by omega)]
      rfl
    | noFields gap => simp [readValue, skipGaps_mark gap (c := 0x7D) (by decide)]
    | @object fields t inside =>
      simp only [List.length_cons] at enough
      rw [List.cons_append, readValue_brace (inside.head rest), readFields_taken inside fuel [] rest (by omega)]
      rfl
termination_by fuel

theorem readItems_taken {items : List Json} {t : Text} (taken : TakenItems items t) (fuel : Nat) (read : List Json)
    (rest : Text) (enough : t.length ≤ fuel) :
    readItems fuel read (skipGaps (t ++ rest)) = .ok (.list (read.reverse ++ items), rest) := by
  cases fuel with
  | zero => cases taken <;> simp at enough
  | succ fuel =>
    cases taken with
    | @last v g t g' before item after =>
      simp only [List.length_append, List.length_cons] at enough
      have ends := after.ends (ends_mark (c := 0x5D) (by decide) rest)
      have first := readValue_taken item fuel _ ends (by omega)
      simp only [List.append_assoc, List.singleton_append]
      rw [skipGaps_taken before item, readItems_item read first, skipGaps_mark after (by decide)]
      simp [afterItem]
    | @more v items g t g' others before item after more =>
      simp only [List.length_append, List.length_cons] at enough
      have ends := after.ends (ends_mark (c := 0x2C) (by decide) (others ++ rest))
      have first := readValue_taken item fuel _ ends (by omega)
      have later := readItems_taken more fuel (v :: read) rest (by omega)
      simp only [List.append_assoc, List.cons_append]
      rw [skipGaps_taken before item, readItems_item read first, skipGaps_mark after (by decide)]
      simp [afterItem, later]
termination_by fuel

theorem readFields_taken {fields : List (Text × Json)} {t : Text} (taken : TakenFields fields t) (fuel : Nat)
    (read : List (Text × Json)) (rest : Text) (enough : t.length ≤ fuel) :
    readFields fuel read (skipGaps (t ++ rest)) = .ok (.object (ofWrites (read.reverse ++ fields)), rest) := by
  cases fuel with
  | zero => cases taken <;> simp at enough
  | succ fuel =>
    cases taken with
    | @last name v g body g₁ g₂ t g' before key colon blank item after =>
      simp only [List.length_append, List.length_cons] at enough
      have ends := after.ends (ends_mark (c := 0x7D) (by decide) rest)
      have first := readValue_taken item fuel _ ends (by omega)
      simp only [List.append_assoc, List.cons_append, List.nil_append]
      rw [skipGaps_mark before (by decide), readFields_field key colon blank item read first,
        skipGaps_mark after (by decide)]
      simp [afterField]
    | @more name v fields g body g₁ g₂ t g' others before key colon blank item after more =>
      simp only [List.length_append, List.length_cons] at enough
      have ends := after.ends (ends_mark (c := 0x2C) (by decide) (others ++ rest))
      have first := readValue_taken item fuel _ ends (by omega)
      have later := readFields_taken more fuel ((name, v) :: read) rest (by omega)
      simp only [List.append_assoc, List.cons_append]
      rw [skipGaps_mark before (by decide), readFields_field key colon blank item read first,
        skipGaps_mark after (by decide)]
      simp [afterField, later]
termination_by fuel

end

/-- What is taken for a value, between gaps, is read as that value. -/
theorem read_of_taken {g₁ g₂ : Text} (before : Gap g₁) (taken : Taken v t) (after : Gap g₂) :
    read (g₁ ++ (t ++ g₂)) = .ok v := by
  have ends : Ends g₂ := by simpa using after.ends ends_nil
  have value := readValue_taken taken (2 * (g₁ ++ (t ++ g₂)).length + 1) g₂ ends (by
    simp only [List.length_append]
    omega)
  have opened := skipGaps_taken before taken g₂
  have closed : skipGaps g₂ = [] := by simpa [skipGaps] using skipGaps_append after []
  have unmarked : (g₁ ++ (t ++ g₂)).head? ≠ some 0xFEFF := by
    intro marked
    cases g₁ with
    | cons d g₁ =>
      obtain rfl : d = 0xFEFF := by simpa using marked
      exact absurd (before 0xFEFF (by simp)) (by decide)
    | nil =>
      obtain ⟨c, start, others, rfl⟩ := taken.start
      obtain rfl : c = 0xFEFF := by simpa using marked
      exact absurd start (by decide)
  have document : readDocument (g₁ ++ (t ++ g₂)) = .ok v := by
    unfold readDocument
    rw [if_neg unmarked, opened, value]
    simp only [bind, Except.bind]
    rw [closed]
  rw [read, document]

/-! ## Values -/

theorem takenScalar_null : TakenScalar .null [0x6E, 0x75, 0x6C, 0x6C] :=
  ⟨⟨_, by decide, _, rfl⟩, fun _ _ _ => rfl⟩

theorem takenScalar_true : TakenScalar (.bool true) [0x74, 0x72, 0x75, 0x65] :=
  ⟨⟨_, by decide, _, rfl⟩, fun _ _ _ => rfl⟩

theorem takenScalar_false : TakenScalar (.bool false) [0x66, 0x61, 0x6C, 0x73, 0x65] :=
  ⟨⟨_, by decide, _, rfl⟩, fun _ _ _ => rfl⟩

theorem TakenText.scalar (taken : TakenText s body) : TakenScalar (.text s) (0x22 :: (body ++ [0x22])) := by
  refine ⟨⟨_, by decide, _, rfl⟩, fun fuel rest _ => ?_⟩
  simp [readValue, taken rest, bind, Except.bind]

mutual

/-- Whatever denotes a value is taken for it. -/
theorem Denotes.taken : ∀ {t : Text} {v : Json}, Denotes t v → Taken v t
  | _, _, .null => .scalar takenScalar_null
  | _, _, .true => .scalar takenScalar_true
  | _, _, .false => .scalar takenScalar_false
  | _, _, .text spelled => .scalar (TakenText.scalar (readText_spelled spelled))
  | _, _, .emptyList gap => .noItems gap
  | _, _, .list gap inside => .list (inside.taken gap)
  | _, _, .emptyObject gap => .noFields gap
  | _, _, .object gap inside => .object (inside.taken gap)

theorem DenotesItems.taken : ∀ {t : Text} {items : List Json}, DenotesItems t items → ∀ {g : Text}, Gap g →
    TakenItems items (g ++ t)
  | _, _, .last value gap, _, before => .last before value.taken gap
  | _, _, .more value gap after rest, _, before => .more before value.taken gap (rest.taken after)

theorem DenotesFields.taken : ∀ {t : Text} {writes : List (Text × Json)}, DenotesFields t writes → ∀ {g : Text}, Gap g →
    TakenFields writes (g ++ t)
  | _, _, .last spelled colon blank value gap, _, before =>
    .last before (readText_spelled spelled) colon blank value.taken gap
  | _, _, .more spelled colon blank value gap after rest, _, before =>
    .more before (readText_spelled spelled) colon blank value.taken gap (rest.taken after)

end

/-- A text that denotes a value, between gaps, is read as that value. -/
theorem read_of_denotes {g₁ g₂ : Text} (before : Gap g₁) (denotes : Denotes t v) (after : Gap g₂) :
    read (g₁ ++ (t ++ g₂)) = .ok v := read_of_taken before denotes.taken after

end UrlRules.Json
