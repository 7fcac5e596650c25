import UrlRules.Proofs.Script.Declaration

/-!
# Reading by position

The readers of literals take what is left of a text. Here the same reading is told by positions in the whole text. A
loop takes turns (`takeTurns`): each goes on from a position, is the last one, or raises an error. An escape that the
end of the text cuts off leads to a position beyond it.

That the reading comes to an end is no part of its definition. A loop is given as many turns as characters are left
and one more, and values a number of values inside each other; what has not ended by then is `unfinished`, which is
no error.
-/
namespace UrlRules.Script

open Text

/-! ## Turns -/

/-- What reading comes to: a result or an error, or neither within the turns that it is given. -/
inductive Outcome (α : Type) where
  | returned (result : α)
  | raised (error : Error)
  | unfinished
  deriving DecidableEq, Repr

namespace Outcome

variable {α β : Type} {x : Outcome α} {f : α → Outcome β}

def bind (x : Outcome α) (f : α → Outcome β) : Outcome β :=
  match x with
  | returned a => f a
  | raised e => raised e
  | unfinished => unfinished

instance : Monad Outcome where
  pure := returned
  bind := bind

instance : LawfulMonad Outcome :=
  .mk' Outcome (fun x => by cases x <;> rfl) (fun _ _ => rfl) fun x _ _ => by cases x <;> rfl

@[simp] theorem returned_bind (a : α) (f : α → Outcome β) : (returned a >>= f) = f a := rfl

@[simp] theorem raised_bind (e : Error) (f : α → Outcome β) : (raised e >>= f) = raised e := rfl

@[simp] theorem unfinished_bind (f : α → Outcome β) : (unfinished >>= f) = unfinished := rfl

@[simp] theorem pure_eq (a : α) : (pure a : Outcome α) = returned a := rfl

theorem bind_eq_returned {b : β} : (x >>= f) = returned b ↔ ∃ a, x = returned a ∧ f a = returned b := by
  cases x <;> simp

/-- Two steps end if each of them does. -/
theorem bind_ends (first : x ≠ unfinished) (rest : ∀ a, x = returned a → f a ≠ unfinished) :
    (x >>= f) ≠ unfinished := by
  cases x with
  | returned a => exact rest a rfl
  | raised e => simp
  | unfinished => exact absurd rfl first

/-- What a step with failures comes to. It tells places by what is left of `total` characters. -/
def ofExcept (total : Nat) : Except Failure α → Outcome α
  | .ok a => returned a
  | .error failure => raised (failure.toError total)

def ofResult : Except Error α → Outcome α
  | .ok a => returned a
  | .error e => raised e

theorem ofExcept_ends (total : Nat) (given : Except Failure α) : ofExcept total given ≠ unfinished := by
  cases given <;> simp [ofExcept]

end Outcome

/-- A fault at a position. -/
def raise {α : Type} (fault : Fault) (position : Nat) : Outcome α := .raised (.malformed fault position)

/-- What a turn of a loop comes to: it goes on from a position with what has been gathered, or is the last. -/
inductive Turn (σ α : Type) where
  | again (gathered : σ) (position : Nat)
  | last (result : α) (position : Nat)

/-- The loop after a turn. -/
def Turn.follow {σ α : Type} (others : σ → Nat → Outcome (α × Nat)) : Turn σ α → Outcome (α × Nat)
  | .again gathered position => others gathered position
  | .last result position => .returned (result, position)

/-- Takes turns up to the last, unless that takes more than `count` of them. -/
def takeTurns {σ α : Type} (turn : σ → Nat → Outcome (Turn σ α)) : Nat → σ → Nat → Outcome (α × Nat)
  | 0, _, _ => .unfinished
  | count + 1, gathered, position => turn gathered position >>= Turn.follow (takeTurns turn count)

section

variable (text : Text)

/-- Takes turns, as many as characters are left and one more. -/
def repeatTurns {σ α : Type} (turn : σ → Nat → Outcome (Turn σ α)) (gathered : σ) (position : Nat) :
    Outcome (α × Nat) :=
  takeTurns turn (text.length - position + 1) gathered position

/-- How many characters stand before a mark; none if it does not stand in the text. -/
def offset? (mark s : Text) : Option Nat := s.tails.findIdx? fun rest => startsWith rest mark

/-- The first position from another on at which a mark stands. -/
def find? (mark : Text) (position : Nat) : Option Nat :=
  (offset? mark (text.drop position)).map (position + ·)

theorem offset?_nil {mark : Text} (some : mark ≠ []) : offset? mark [] = none := by
  obtain ⟨c, mark, rfl⟩ := List.exists_cons_of_ne_nil some
  rfl

theorem offset?_cons (mark : Text) (c : CodePoint) (s : Text) :
    offset? mark (c :: s) = if startsWith (c :: s) mark then some 0 else (offset? mark s).map (· + 1) := by
  unfold offset?
  rw [List.tails_cons, List.findIdx?_cons]

/-- A mark that is found stands in the text. -/
theorem bound_of_offset? {mark s : Text} {count : Nat} (nonempty : mark ≠ [])
    (found : offset? mark s = some count) :
    count + mark.length ≤ s.length := by
  induction s generalizing count with
  | nil =>
    rw [offset?_nil nonempty] at found
    cases found
  | cons c s ih =>
    rw [offset?_cons] at found
    split at found
    next starts =>
      obtain ⟨rest, dropped⟩ := Option.isSome_iff_exists.mp starts
      rw [eq_append_of_dropLead? dropped, List.length_append, ← Option.some.inj found]
      omega
    next =>
      obtain ⟨before, later, rfl⟩ := Option.map_eq_some_iff.mp found
      have bound := ih later
      simp only [List.length_cons]
      omega

theorem bound_of_find? {text mark : Text} {position ending : Nat} (nonempty : mark ≠ [])
    (found : find? text mark position = some ending) :
    position ≤ ending ∧ ending + mark.length ≤ text.length := by
  obtain ⟨count, later, rfl⟩ := Option.map_eq_some_iff.mp found
  have bound := bound_of_offset? nonempty later
  have size := List.length_pos_iff.mpr nonempty
  rw [List.length_drop] at bound
  omega

/-! ## Blanks and comments -/

def blankTurn (_ : Unit) (position : Nat) : Outcome (Turn Unit Unit) :=
  match text[position]? with
  | none => return .last () position
  | some c =>
      if isBlank c then return .again () (position + 1)
      else if startsWith (text.drop position) (Text.of "//") then
        match find? text [lineFeed] position with
        | none => return .again () text.length
        | some ending => return .again () (ending + 1)
      else if startsWith (text.drop position) (Text.of "/*") then
        match find? text endMark (position + 2) with
        | none => raise .unterminatedComment position
        | some ending => return .again () (ending + 2)
      else return .last () position

/-- Skips blanks and comments. -/
def skipFrom (position : Nat) : Outcome Nat := do
  let (_, position) ← repeatTurns text (blankTurn text) () position
  return position

/-- Takes a character after blanks. -/
def expectFrom (c : CodePoint) (position : Nat) : Outcome Nat := do
  let position ← skipFrom text position
  if text[position]? = some c then return position + 1
  else raise (.expected c text[position]?) position

/-- What turns give after an opening mark. -/
def enclosedFrom {σ α : Type} (opening : CodePoint) (turn : σ → Nat → Outcome (Turn σ α)) (gathered : σ)
    (position : Nat) : Outcome (α × Nat) := do
  let position ← expectFrom text opening position
  repeatTurns text turn gathered position

/-! ## Texts and regex literals -/

/-- The character with a number in base sixteen, after whose digits `position` stands. -/
def characterAt (digits : Text) (position : Nat) : Outcome CodePoint :=
  .ofExcept 0 (characterOf digits 0 position)

/-- An escape of a fixed number of digits. The position after it counts them all, also those that the end of the
text cuts off. -/
def fixedFrom (count position : Nat) : Outcome (Text × Nat) := do
  let c ← characterAt ((text.drop position).take count) (position + count)
  return ([c], position + count)

/-- An escape by a number in braces, from the opening one on. -/
def bracesFrom (position : Nat) : Outcome (Text × Nat) :=
  match find? text [0x7D] position with
  | none => raise .unterminatedCodePoint position
  | some ending => do
      let c ← characterAt ((text.drop (position + 1)).take (ending - (position + 1))) (ending + 1)
      return ([c], ending + 1)

/-- An escape, from its backslash on. -/
def escapeFrom (position : Nat) : Outcome (Text × Nat) :=
  match text[position + 1]? with
  | none => raise .unterminatedEscape (position + 1)
  | some c =>
      match shortEscape? c with
      | some d => return ([d], position + 2)
      | none =>
          if c = lineFeed then return ([], position + 2)
          else if c = 0x78 then fixedFrom text 2 (position + 2)
          else if c = 0x75 then
            if text[position + 2]? = some 0x7B then bracesFrom text (position + 2)
            else fixedFrom text 4 (position + 2)
          else return ([c], position + 2)

/-- A text that was opened at `start` goes on with a character or an escape, or ends. -/
def characterTurn (quote : CodePoint) (start : Nat) (read : Text) (position : Nat) :
    Outcome (Turn Text Text) :=
  match text[position]? with
  | none => raise .unterminatedText start
  | some c =>
      if c = quote then return .last read.reverse (position + 1)
      else if c = backslash then do
        let (characters, position) ← escapeFrom text position
        return .again (characters ++ read) position
      else if quote = backtick ∧ startsWith (text.drop position) [0x24, 0x7B] then
        raise .templateSubstitution position
      else if c = lineFeed ∧ quote ≠ backtick then raise .unterminatedText start
      else return .again (c :: read) (position + 1)

/-- A text up to the character that it starts with. -/
def textFrom (position : Nat) : Outcome (Text × Nat) :=
  match text[position]? with
  | none => raise .unterminatedText position
  | some quote => repeatTurns text (characterTurn text quote position) [] (position + 1)

/-- A regex literal that was opened at `start`, inside brackets or outside of them. -/
def regexTurn (start : Nat) (inClass : Bool) (position : Nat) : Outcome (Turn Bool Text) :=
  match text[position]? with
  | none => raise .unterminatedRegex start
  | some c =>
      if c = backslash then return .again inClass (position + 2)
      else if c = lineFeed then raise .unterminatedRegex start
      else if c = 0x5B then return .again true (position + 1)
      else if c = 0x5D then return .again false (position + 1)
      else if c = 0x2F && !inClass then
        let ending := position + 1 + ((text.drop (position + 1)).takeWhile isAsciiLower).length
        return .last ((text.drop start).take (ending - start)) ending
      else return .again inClass (position + 1)

def regexFrom (position : Nat) : Outcome (Text × Nat) :=
  repeatTurns text (regexTurn text position) false (position + 1)

/-! ## Values -/

/-- A value that is no list and no object. -/
def scalarFrom (position : Nat) : Outcome (Json × Nat) :=
  match text[position]? with
  | none => raise .endOfInput position
  | some c =>
      if c = apostrophe ∨ c = quotationMark ∨ c = backtick then do
        let (t, position) ← textFrom text position
        return (.text t, position)
      else if c = 0x2F then do
        let (t, position) ← regexFrom text position
        return (.text t, position)
      else
        let s := text.drop position
        let number := numberLength s
        if number ≠ 0 then do return (← .ofExcept 0 (numberOf (s.take number)), position + number)
        else
          let name := identifier s
          match word? name with
          | some value => return (value, position + name.length)
          | none => raise .unsupportedExpression position

/-- The key of a field: a text, an identifier or a number. -/
def keyFrom (position : Nat) : Outcome (Text × Nat) :=
  match text[position]? with
  | none => raise .unsupportedKey position
  | some c =>
      if c = apostrophe ∨ c = quotationMark then textFrom text position
      else
        let s := text.drop position
        let name := identifier s
        let size := if name.isEmpty then numberLength s else name.length
        if size = 0 then raise .unsupportedKey position else return (s.take size, position + size)

/-- What follows an item: a comma, or the closing mark, which is left to the next turn. -/
def separatorFrom {σ α : Type} (closing : CodePoint) (fault : Fault) (gathered : σ) (position : Nat) :
    Outcome (Turn σ α) := do
  let position ← skipFrom text position
  if text[position]? = some 0x2C then return .again gathered (position + 1)
  else if text[position]? = some closing then return .again gathered position
  else raise fault position

section

variable (value : Nat → Outcome (Json × Nat))

/-- A field of an object, or its end. -/
def fieldTurn (read : List (Text × Json)) (position : Nat) : Outcome (Turn (List (Text × Json)) Json) := do
  let position ← skipFrom text position
  if text[position]? = some 0x7D then return .last (.object (Json.ofWrites read.reverse)) (position + 1)
  else
    let (name, position) ← keyFrom text position
    let position ← expectFrom text 0x3A position
    let (item, position) ← value position
    separatorFrom text 0x7D .expectedInObject ((name, item) :: read) position

def objectFrom : Nat → Outcome (Json × Nat) := enclosedFrom text 0x7B (fieldTurn text value) []

/-- An item of an array, or its end. -/
def itemTurn (read : List Json) (position : Nat) : Outcome (Turn (List Json) Json) := do
  let position ← skipFrom text position
  if text[position]? = some 0x5D then return .last (.list read.reverse) (position + 1)
  else if text[position]? = some 0x2C then raise .arrayHole position
  else
    let (item, position) ← value position
    separatorFrom text 0x5D .expectedInArray (item :: read) position

def arrayFrom : Nat → Outcome (Json × Nat) := enclosedFrom text 0x5B (itemTurn text value) []

end

/-- A value after blanks, with fewer than `depth` values around each other inside it. -/
def valueWithin : Nat → Nat → Outcome (Json × Nat)
  | 0, _ => .unfinished
  | depth + 1, position => do
      let position ← skipFrom text position
      match text[position]? with
      | some 0x7B => objectFrom text (valueWithin depth) position
      | some 0x5B => arrayFrom text (valueWithin depth) position
      | _ => scalarFrom text position

/-- A value up to the end of its statement: a semicolon, a line end or the end of the text. -/
def initializerFrom (position : Nat) : Outcome Json := do
  let (value, ending) ← valueWithin text (text.length - position + 1) position
  let position ← skipFrom text ending
  match text[position]? with
  | none => return value
  | some c =>
      if c = 0x3B ∨ ((text.drop ending).take (position - ending)).contains lineFeed then return value
      else raise .trailingContent position

/-- The literal that is declared under a name. -/
def declaredFrom (name : Text) : Outcome Json :=
  match findDeclaration? name false text with
  | none => .raised (.notDeclared name)
  | some rest => initializerFrom text (text.length - rest.length)

end

end UrlRules.Script
