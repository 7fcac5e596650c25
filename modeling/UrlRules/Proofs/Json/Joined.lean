import UrlRules.Proofs.Json.Texts
import UrlRules.Proofs.Results
import UrlRules.Proofs.Text.Digits

/-!
# The texts that are read

Two escapes that form a surrogate pair are read as one character, so the texts in a value that was read from
Unicode are joined (`joined_of_read`). Any text is written in ASCII just like the one with its pairs joined
(`flatMap_joinPairs`).
-/
namespace UrlRules

open Text

namespace Text

variable {s t : Text}

theorem IsUnicode.subset (unicode : s.IsUnicode) (subset : t ⊆ s) : t.IsUnicode :=
  fun c member => unicode c (subset member)

end Text

namespace Json

variable {c : Nat} {s t rest : Text} {v : Json}

/-! ## Escapes -/

theorem lt_of_fourHex? {n : Nat} (read : fourHex? s = some n) : n < 0x10000 := by
  unfold fourHex? at read
  split at read
  next four =>
    obtain ⟨values, all, value⟩ := Option.map_eq_some_iff.mp read
    have digits : Digits hexValue? 16 s n := ⟨fun empty => by simp [empty] at four, values, all, value⟩
    simpa [four] using digits.lt
  next => cases read

theorem secondHalf?_ok {low : Nat} (found : secondHalf? s = .ok (some low)) :
    isLowSurrogate low = true ∧ fourHex? ((s.drop 2).take 4) = some low := by
  unfold secondHalf? at found
  split at found
  · cases found
  · split at found
    next n digits =>
      split at found
      next isLow =>
        cases found
        exact ⟨isLow, digits⟩
      next => cases found
    next => cases found

/-- A joined pair is beyond the surrogates. -/
theorem joinSurrogates_apart {high low : Nat} (isHigh : isHighSurrogate high = true)
    (isLow : isLowSurrogate low = true) : IsScalarValue (joinSurrogates high low) := by
  rw [isHighSurrogate_iff] at isHigh
  rw [isLowSurrogate_iff] at isLow
  have beyond : 0xDFFF < 0x10000 + (high - 0xD800) * 0x400 + (low - 0xDC00) ∧
      0x10000 + (high - 0xD800) * 0x400 + (low - 0xDC00) ≤ 0x10FFFF := by omega
  exact isScalarValue_of_apart (.inr beyond)

/-- What an escape gives. It is a first half only if no second half follows, and a second half only if it would
be read as one after a first. -/
theorem readUnicodeEscape_ok (read : readUnicodeEscape s = .ok (c, rest)) :
    c ≤ maxCodePoint ∧ rest ⊆ s ∧ (isHighSurrogate c = true → secondHalf? rest = .ok none) ∧
      (secondHalf? (0x5C :: 0x75 :: s) = .ok none → isLowSurrogate c = false) := by
  unfold readUnicodeEscape at read
  split at read
  · cases read
  next long =>
    split at read
    · cases read
    next n digits =>
      have small := lt_of_fourHex? digits
      have bounded : n ≤ maxCodePoint := show n ≤ 0x10FFFF by omega
      have second : secondHalf? (0x5C :: 0x75 :: s) = .ok (if isLowSurrogate n then some n else none) := by
        have long : ¬((0x5C :: 0x75 :: s).length ≤ 6 ∨ (0x5C :: 0x75 :: s).take 2 ≠ [0x5C, 0x75]) := by
          simp only [List.length_cons]
          rintro (short | other)
          · omega
          · exact other rfl
        unfold secondHalf?
        rw [if_neg long]
        simp [digits]
      have apart (alone : secondHalf? (0x5C :: 0x75 :: s) = .ok none) : isLowSurrogate n = false := by
        rw [second] at alone
        cases isLow : isLowSurrogate n with
        | false => rfl
        | true => simp [isLow] at alone
      cases high : isHighSurrogate n with
      | false =>
        obtain ⟨rfl, rfl⟩ : n = c ∧ s.drop 4 = rest := by simpa [high] using read
        exact ⟨bounded, List.drop_subset 4 s, by simp [high], apart⟩
      | true =>
        simp only [high, if_true] at read
        obtain ⟨half, found, read⟩ := bind_eq_ok.mp read
        cases half with
        | none =>
          obtain ⟨rfl, rfl⟩ : n = c ∧ s.drop 4 = rest := by simpa using read
          exact ⟨bounded, List.drop_subset 4 s, fun _ => found, apart⟩
        | some low =>
          obtain ⟨rfl, rfl⟩ := Prod.mk.inj (Except.ok.inj read)
          have scalar := joinSurrogates_apart high (secondHalf?_ok found).1
          refine ⟨scalar.1, List.Subset.trans (List.drop_subset 6 _) (List.drop_subset 4 s), fun isHigh => ?_, fun _ =>
            scalar.not_half.2⟩
          simp [scalar.not_half.1] at isHigh

/-! ## Characters -/

/-- The characters that are read form a joined text, which starts with a second half only if that would be read as
one after a first. -/
theorem readCharacters_ok {opened fuel : Nat} {read : Text}
    (done : readCharacters opened fuel read s = .ok (t, rest)) (unicode : s.IsUnicode) :
    ∃ own, t = read.reverse ++ own ∧ own.Joined ∧ rest ⊆ s ∧
      (secondHalf? s = .ok none → ∀ d ∈ own.head?, isLowSurrogate d = false) := by
  induction fuel generalizing read s with
  | zero => cases done
  | succ fuel ih =>
    -- One more character in front of what is read after it.
    have more {d : Nat} {left : Text} (later : readCharacters opened fuel (d :: read) left = .ok (t, rest))
        (bounded : d ≤ maxCodePoint) (subset : left ⊆ s)
        (first : isHighSurrogate d = true → secondHalf? left = .ok none)
        (second : secondHalf? s = .ok none → isLowSurrogate d = false) :
        ∃ own, t = read.reverse ++ own ∧ own.Joined ∧ rest ⊆ s ∧
          (secondHalf? s = .ok none → ∀ d ∈ own.head?, isLowSurrogate d = false) := by
      obtain ⟨own, rfl, joined, inside, apart⟩ := ih later (unicode.subset subset)
      exact ⟨d :: own, by simp, ⟨bounded, fun high => apart (first high), joined⟩, List.Subset.trans inside subset,
        fun none => by simpa using second none⟩
    have single {d : Nat} {left : Text} (later : readCharacters opened fuel (d :: read) left = .ok (t, rest))
        (scalar : IsScalarValue d) (subset : left ⊆ s) := more later scalar.1 subset
      (by simp [scalar.not_half.1]) fun _ => scalar.not_half.2
    cases s with
    | nil => cases done
    | cons d left =>
      have tail : left ⊆ d :: left := List.subset_cons_self d left
      simp only [readCharacters] at done
      split at done
      next =>
        cases done
        exact ⟨[], by simp, trivial, tail, by simp⟩
      split at done
      next => cases done
      split at done
      next backslash =>
        subst backslash
        split at done
        · cases done
        next e left =>
          split at done
          next mark =>
            subst mark
            obtain ⟨⟨d, after⟩, escape, later⟩ := bind_eq_ok.mp done
            obtain ⟨bounded, subset, first, second⟩ := readUnicodeEscape_ok escape
            exact more later bounded (List.Subset.trans subset fun _ member => by simp [member]) first second
          next =>
            split at done
            next d short =>
              have small := lt_of_shortEscape? short
              exact single done (isScalarValue_of_apart (by omega)) fun _ member => by simp [member]
            next => cases done
      next => exact single done (unicode d (by simp)) tail

theorem readText_ok (done : readText s = .ok (t, rest)) (unicode : s.IsUnicode) :
    t.Joined ∧ rest ⊆ s := by
  obtain ⟨own, rfl, joined, subset, -⟩ := readCharacters_ok done unicode
  exact ⟨joined, subset⟩

/-! ## Numbers and words -/

theorem subset_fraction? {digits : Text} (found : fraction? s = some (digits, rest)) : rest ⊆ s := by
  unfold fraction? at found
  split at found
  next after =>
    dsimp only at found
    split at found
    · cases found
    · cases found
      exact fun _ member => List.mem_cons_of_mem _ (List.drop_subset _ _ member)
  next => cases found

theorem subset_exponent? {parts : Bool × Text} (found : exponent? s = some (parts, rest)) : rest ⊆ s := by
  unfold exponent? at found
  split at found
  next e after =>
    split at found
    next =>
      -- Without its sign the exponent is a part of what follows the letter.
      split at found
      next negative digits split' =>
        have inside : digits ⊆ after := by
          split at split'
          all_goals
            obtain ⟨rfl, rfl⟩ := Prod.mk.inj split'
            simp
        dsimp only at found
        split at found
        · cases found
        · cases found
          exact fun _ member => List.mem_cons_of_mem _ (inside (List.drop_subset _ _ member))
    next => cases found
  next => cases found

theorem texts_numberOf {negative : Bool} {whole : Text} {fraction : Option Text}
    {exponent : Option (Bool × Text)} (made : numberOf negative whole fraction exponent = .ok v) :
    v.texts = [] := by
  unfold numberOf at made
  split at made
  · split at made
    · cases made
    · cases made
      rfl
  · cases made
    rfl

theorem readNumber_ok (done : readNumber s = .ok (v, rest)) : v.texts = [] ∧ rest ⊆ s := by
  unfold readNumber at done
  split at done
  next negative body split' =>
    have signed : body ⊆ s := by
      split at split'
      all_goals
        obtain ⟨rfl, rfl⟩ := Prod.mk.inj split'
        simp
    dsimp only at done
    split at done
    · cases done
    · split at done
      next value made =>
        obtain ⟨rfl, rfl⟩ := Prod.mk.inj (Except.ok.inj done)
        refine ⟨texts_numberOf made, ?_⟩
        have whole : body.drop (wholeDigits body).length ⊆ s := List.Subset.trans (List.drop_subset _ _) signed
        -- The fraction and the exponent may be there or not.
        split
        next found =>
          refine List.Subset.trans (subset_exponent? found) ?_
          split
          next found => exact List.Subset.trans (subset_fraction? found) whole
          next => exact whole
        next =>
          split
          next found => exact List.Subset.trans (subset_fraction? found) whole
          next => exact whole
      next => cases done

theorem subset_dropLead? {lead : Text} (found : dropLead? lead s = some rest) : rest ⊆ s := by
  induction lead generalizing s with
  | nil =>
    obtain rfl := Option.some.inj found
    exact List.Subset.refl _
  | cons a lead ih =>
    cases s with
    | nil => cases found
    | cons c s =>
      simp only [dropLead?] at found
      split at found
      · exact List.Subset.trans (ih found) (List.subset_cons_self c s)
      · cases found

theorem word?_ok (found : word? s = some (v, rest)) : v.texts = [] ∧ rest ⊆ s := by
  have plain : ∀ word ∈ words, word.2.texts = [] := by
    simp only [words, List.forall_mem_cons]
    exact ⟨rfl, rfl, rfl, rfl, rfl, rfl, by simp⟩
  obtain ⟨⟨word, value⟩, member, dropped⟩ := List.exists_of_findSome?_eq_some found
  obtain ⟨left, lead, same⟩ := Option.map_eq_some_iff.mp dropped
  cases same
  exact ⟨plain _ member, subset_dropLead? lead⟩

/-! ## Values -/

/-- All of some texts are joined. -/
def AllJoined (texts : List Text) : Prop := ∀ t ∈ texts, t.Joined

theorem AllJoined.subset {some all : List Text} (joined : AllJoined all) (subset : some ⊆ all) : AllJoined some :=
  fun t member => joined t (subset member)

theorem AllJoined.append {some others : List Text} (first : AllJoined some) (second : AllJoined others) :
    AllJoined (some ++ others) :=
  fun t member => (List.mem_append.mp member).elim (first t) (second t)

theorem mem_setField {fields : List (Text × Json)} {name : Text} {value : Json} {field : Text × Json}
    (member : field ∈ setField fields name value) : field ∈ fields ∨ field = (name, value) := by
  induction fields with
  | nil => exact .inr (List.mem_singleton.mp member)
  | cons first fields ih =>
    simp only [setField] at member
    split at member
    next same =>
      rcases List.mem_cons.mp member with rfl | later
      · exact .inr (by rw [same])
      · exact .inl (List.mem_cons_of_mem _ later)
    next =>
      rcases List.mem_cons.mp member with rfl | later
      · exact .inl (List.mem_cons_self ..)
      · exact (ih later).imp_left (List.mem_cons_of_mem _)

/-- An object holds nothing but what was written. -/
theorem mem_ofWrites {writes : List (Text × Json)} {field : Text × Json} (member : field ∈ ofWrites writes) :
    field ∈ writes := by
  induction writes using List.reverseRecOn with
  | nil => cases member
  | append_singleton writes write ih =>
    rw [ofWrites, List.foldl_append] at member
    rcases mem_setField member with old | rfl
    · exact List.mem_append_left _ (ih old)
    · exact List.mem_append_right _ (List.mem_singleton_self _)

theorem texts_ofWrites (writes : List (Text × Json)) : textsOfFields (ofWrites writes) ⊆ textsOfFields writes := by
  intro t member
  obtain ⟨field, inside, own⟩ := mem_textsOfFields.mp member
  exact mem_textsOfFields.mpr ⟨field, mem_ofWrites inside, own⟩

theorem texts_reverseItems (items : List Json) : textsOfItems items.reverse ⊆ textsOfItems items := by
  intro t member
  obtain ⟨item, inside, own⟩ := mem_textsOfItems.mp member
  exact mem_textsOfItems.mpr ⟨item, List.mem_reverse.mp inside, own⟩

theorem texts_reverseFields (fields : List (Text × Json)) :
    textsOfFields fields.reverse ⊆ textsOfFields fields := by
  intro t member
  obtain ⟨field, inside, own⟩ := mem_textsOfFields.mp member
  exact mem_textsOfFields.mpr ⟨field, List.mem_reverse.mp inside, own⟩

theorem subset_skipGaps (s : Text) : skipGaps s ⊆ s := List.dropWhile_subset _

theorem subset_of_skipGaps (skipped : skipGaps s = c :: rest) : rest ⊆ s :=
  fun _ member => subset_skipGaps s (skipped ▸ List.mem_cons_of_mem c member)

mutual

theorem readValue_ok (fuel : Nat) {s rest : Text} {v : Json} (done : readValue fuel s = .ok (v, rest))
    (unicode : s.IsUnicode) : AllJoined v.texts ∧ rest ⊆ s := by
  cases fuel with
  | zero => cases done
  | succ fuel =>
    cases s with
    | nil => cases done
    | cons c after =>
      have tail : after ⊆ c :: after := List.subset_cons_self c after
      have gone : skipGaps after ⊆ c :: after := List.Subset.trans (subset_skipGaps after) tail
      simp only [readValue] at done
      split at done
      next =>
        obtain ⟨⟨t, left⟩, text, done⟩ := bind_eq_ok.mp done
        cases done
        obtain ⟨joined, subset⟩ := readText_ok text (unicode.subset tail)
        exact ⟨by simpa [AllJoined, texts] using joined, List.Subset.trans subset tail⟩
      split at done
      next =>
        split at done
        next skipped =>
          cases done
          exact ⟨by simp [AllJoined, texts, textsOfFields], List.Subset.trans (subset_of_skipGaps skipped) tail⟩
        next =>
          obtain ⟨joined, subset⟩ := readFields_ok fuel done (unicode.subset gone) (by simp [AllJoined, textsOfFields])
          exact ⟨joined, List.Subset.trans subset gone⟩
      split at done
      next =>
        split at done
        next skipped =>
          cases done
          exact ⟨by simp [AllJoined, texts, textsOfItems], List.Subset.trans (subset_of_skipGaps skipped) tail⟩
        next =>
          obtain ⟨joined, subset⟩ := readItems_ok fuel done (unicode.subset gone) (by simp [AllJoined, textsOfItems])
          exact ⟨joined, List.Subset.trans subset gone⟩
      split at done
      next found =>
        cases done
        obtain ⟨none, subset⟩ := word?_ok found
        exact ⟨by simp [AllJoined, none], subset⟩
      next =>
        obtain ⟨none, subset⟩ := readNumber_ok done
        exact ⟨by simp [AllJoined, none], subset⟩

theorem readItems_ok (fuel : Nat) {read : List Json} {s rest : Text} {v : Json}
    (done : readItems fuel read s = .ok (v, rest)) (unicode : s.IsUnicode)
    (joined : AllJoined (textsOfItems read)) : AllJoined v.texts ∧ rest ⊆ s := by
  cases fuel with
  | zero => cases done
  | succ fuel =>
    simp only [readItems] at done
    obtain ⟨⟨item, left⟩, value, done⟩ := bind_eq_ok.mp done
    obtain ⟨own, subset⟩ := readValue_ok fuel value unicode
    have all : AllJoined (textsOfItems (item :: read)) := own.append joined
    split at done
    next skipped =>
      cases done
      exact ⟨all.subset (texts_reverseItems (item :: read)), List.Subset.trans (subset_of_skipGaps skipped) subset⟩
    next after skipped =>
      have later := List.Subset.trans (subset_skipGaps after) (List.Subset.trans (subset_of_skipGaps skipped) subset)
      obtain ⟨joined, subset⟩ := readItems_ok fuel done (unicode.subset later) all
      exact ⟨joined, List.Subset.trans subset later⟩
    next => cases done

theorem readFields_ok (fuel : Nat) {read : List (Text × Json)} {s rest : Text} {v : Json}
    (done : readFields fuel read s = .ok (v, rest)) (unicode : s.IsUnicode)
    (joined : AllJoined (textsOfFields read)) : AllJoined v.texts ∧ rest ⊆ s := by
  cases fuel with
  | zero => cases done
  | succ fuel =>
    simp only [readFields] at done
    split at done
    next first =>
      obtain ⟨⟨name, left⟩, text, done⟩ := bind_eq_ok.mp done
      have tail : first ⊆ 0x22 :: first := List.subset_cons_self _ first
      obtain ⟨named, subset⟩ := readText_ok text (unicode.subset tail)
      split at done
      next after skipped =>
        obtain ⟨⟨value, left'⟩, found, done⟩ := bind_eq_ok.mp done
        have colon : skipGaps after ⊆ 0x22 :: first :=
          List.Subset.trans (subset_skipGaps after)
            (List.Subset.trans (subset_of_skipGaps skipped) (List.Subset.trans subset tail))
        obtain ⟨own, subset'⟩ := readValue_ok fuel found (unicode.subset colon)
        have field : AllJoined (name :: value.texts) := List.forall_mem_cons.mpr ⟨named, own⟩
        have all : AllJoined (textsOfFields ((name, value) :: read)) := field.append joined
        split at done
        next skipped' =>
          cases done
          refine ⟨all.subset (List.Subset.trans (texts_ofWrites _) (texts_reverseFields ((name, value) :: read))), ?_⟩
          exact List.Subset.trans (subset_of_skipGaps skipped') (List.Subset.trans subset' colon)
        next after' skipped' =>
          have later := List.Subset.trans (subset_skipGaps after')
            (List.Subset.trans (subset_of_skipGaps skipped') (List.Subset.trans subset' colon))
          obtain ⟨joined, subset⟩ := readFields_ok fuel done (unicode.subset later) all
          exact ⟨joined, List.Subset.trans subset later⟩
        next => cases done
      next => cases done
    next => cases done

end

/-- The texts in a value that is read from Unicode are joined. -/
theorem joined_of_read (done : read s = .ok v) (unicode : s.IsUnicode) : AllJoined v.texts := by
  unfold read at done
  split at done
  next value document =>
    obtain rfl := Except.ok.inj done
    unfold readDocument at document
    split at document
    · cases document
    · obtain ⟨⟨value, left⟩, found, document⟩ := bind_eq_ok.mp document
      have joined := (readValue_ok _ found (unicode.subset (subset_skipGaps s))).1
      dsimp only at document
      split at document
      · obtain rfl := Except.ok.inj document
        exact joined
      · cases document
  next => cases done
  next => cases done

/-! ## Writing in ASCII -/

theorem asciiCharacter_large {c : Nat} (large : 0x10000 ≤ c) :
    asciiCharacter c = 0x5C :: 0x75 :: hexPadded 4 (0xD800 + (c - 0x10000) / 0x400) ++
      0x5C :: 0x75 :: hexPadded 4 (0xDC00 + (c - 0x10000) % 0x400) := by
  have control := controlEscape?_large (show 0x80 ≤ c by omega)
  have printable : ¬c < 0x7F := by omega
  have beyond : ¬c < 0x10000 := by omega
  unfold asciiCharacter
  simp only [control]
  rw [if_neg printable, if_neg beyond]

/-- Two surrogates in a row are written like the character that they form. -/
theorem asciiCharacter_joinSurrogates {high low : Nat} (isHigh : isHighSurrogate high = true)
    (isLow : isLowSurrogate low = true) :
    asciiCharacter (joinSurrogates high low) = asciiCharacter high ++ asciiCharacter low := by
  rw [isHighSurrogate_iff] at isHigh
  rw [isLowSurrogate_iff] at isLow
  have large : 0x10000 ≤ 0x10000 + (high - 0xD800) * 0x400 + (low - 0xDC00) := by omega
  have first : 0xD800 + (0x10000 + (high - 0xD800) * 0x400 + (low - 0xDC00) - 0x10000) / 0x400 = high := by omega
  have second : 0xDC00 + (0x10000 + (high - 0xD800) * 0x400 + (low - 0xDC00) - 0x10000) % 0x400 = low := by omega
  have joined := asciiCharacter_large large
  rw [first, second] at joined
  rw [asciiCharacter_surrogate (isSurrogate_iff.mpr (by omega : 0xD800 ≤ high ∧ high ≤ 0xDFFF)),
    asciiCharacter_surrogate (isSurrogate_iff.mpr (by omega : 0xD800 ≤ low ∧ low ≤ 0xDFFF))]
  exact joined

end Json

/-! ## Joining pairs -/

namespace Text

variable {c : CodePoint} {s : Text}

/-- The text with each surrogate pair as the character that it forms. -/
def joinPairs : Text → Text
  | [] => []
  | c :: s =>
      match joinPairs s with
      | [] => [c]
      | d :: t =>
          if Json.isHighSurrogate c ∧ Json.isLowSurrogate d then Json.joinSurrogates c d :: t else c :: d :: t

/-- A character is joined with the one after it, or stands alone. -/
theorem joinPairs_cons (c : CodePoint) (s : Text) :
    (∃ d t, s.joinPairs = d :: t ∧ Json.isHighSurrogate c = true ∧ Json.isLowSurrogate d = true ∧
        joinPairs (c :: s) = Json.joinSurrogates c d :: t) ∨
      (Json.isHighSurrogate c = true → ∀ d ∈ s.joinPairs.head?, Json.isLowSurrogate d = false) ∧
        joinPairs (c :: s) = c :: s.joinPairs := by
  rw [joinPairs]
  cases joined : s.joinPairs with
  | nil => exact .inr ⟨by simp, rfl⟩
  | cons d t =>
    by_cases pair : Json.isHighSurrogate c ∧ Json.isLowSurrogate d
    · exact .inl ⟨d, t, rfl, pair.1, pair.2, if_pos pair⟩
    · exact .inr ⟨by simpa using pair, if_neg pair⟩

theorem joined_joinPairs (bounded : s.Bounded) : s.joinPairs.Joined := by
  induction s with
  | nil => trivial
  | cons c s ih =>
    obtain ⟨own, others⟩ : c ≤ maxCodePoint ∧ Bounded s := List.forall_mem_cons.mp bounded
    have joined := ih others
    obtain ⟨d, t, same, high, low, pair⟩ | ⟨apart, single⟩ := joinPairs_cons c s
    · have scalar := Json.joinSurrogates_apart high low
      rw [same] at joined
      rw [pair]
      exact ⟨scalar.1, by simp [scalar.not_half.1], joined.2.2⟩
    · rw [single]
      exact ⟨own, apart, joined⟩

theorem Joined.joinPairs (joined : s.Joined) : s.joinPairs = s := by
  induction s with
  | nil => rfl
  | cons c s ih =>
    obtain ⟨d, t, same, high, low, -⟩ | ⟨-, single⟩ := joinPairs_cons c s
    · rw [ih joined.2.2] at same
      simp [joined.2.1 high d (by simp [same])] at low
    · rw [single, ih joined.2.2]

theorem joinPairs_eq_nil_iff : s.joinPairs = [] ↔ s = [] := by
  cases s with
  | nil => exact Iff.rfl
  | cons c s => obtain ⟨d, t, -, -, -, pair⟩ | ⟨-, single⟩ := joinPairs_cons c s <;> simp [*]

/-- Any text is written in ASCII like the joined one. -/
theorem flatMap_joinPairs (s : Text) : s.joinPairs.flatMap Json.asciiCharacter = s.flatMap Json.asciiCharacter := by
  induction s with
  | nil => rfl
  | cons c s ih =>
    obtain ⟨d, t, same, high, low, pair⟩ | ⟨-, single⟩ := joinPairs_cons c s
    · rw [same, List.flatMap_cons] at ih
      rw [pair, List.flatMap_cons, List.flatMap_cons, Json.asciiCharacter_joinSurrogates high low, ← ih,
        List.append_assoc]
    · rw [single, List.flatMap_cons, List.flatMap_cons, ih]

end Text
end UrlRules
