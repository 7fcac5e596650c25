import UrlRules.Number.Reader
import UrlRules.Text.Case
import UrlRules.Yaml.Base64
import UrlRules.Yaml.Node

/-!
# From nodes to values

The text of a scalar is read as its tag tells. A mapping takes over the entries of the mappings under
its merge keys; its own entries win, and of two entries under one key the later.

Collections are filled level by level from the root, so of several faults the one of the outermost
collection is reported, and the first of those in one level.
-/
namespace UrlRules.Yaml

open Text

/-! ## Scalars -/

def isLowLine (c : CodePoint) : Bool := c == lowLine

/-- The value of digits in a base. -/
def integerIn (base : Nat) (literal : Text) : Except ScalarFault Int :=
  match readInteger base literal with
  | .ok n => .ok n
  | .error .malformed => .error (.notAnInteger base literal)
  | .error (.tooManyDigits count) => .error (.tooManyDigits count)

/-- The value of places in base sixty, most significant first. -/
def sixties (places : List Int) : Int := places.foldl (fun n d => n * 60 + d) 0

/-- Whether a text has a minus sign, and the text without a sign. -/
def splitSign (s : Text) : Bool × Text :=
  match s with
  | 0x2D :: rest => (true, rest)
  | 0x2B :: rest => (false, rest)
  | s => (false, s)

def unsignedInteger (s : Text) : Except ScalarFault Int :=
  match s with
  | [] => .error .noNumber
  | [0x30] => .ok 0
  | 0x30 :: 0x62 :: digits => integerIn 2 digits
  | 0x30 :: 0x78 :: digits => integerIn 16 digits
  | 0x30 :: _ => integerIn 8 s
  | _ =>
      if s.contains 0x3A then do return sixties (← (splitOn 0x3A s).mapM (integerIn 10))
      else integerIn 10 s

/-- An integer. Low lines count nothing. -/
def integerOf (s : Text) : Except ScalarFault Int := do
  let s := s.filter fun c => !isLowLine c
  if s.isEmpty then throw .noNumber
  let (negative, body) := splitSign s
  let n ← unsignedInteger body
  return if negative then -n else n

def numberIn (literal : Text) : Except ScalarFault Binary64 :=
  match Binary64.ofText? literal with
  | some x => .ok x
  | none => .error (.notANumber literal)

/-- The value of places in base sixty, least significant first. The first counts `base`. -/
def sixtiesOf (base : Nat) : (sum : Binary64) → List Binary64 → Binary64
  | sum, [] => sum
  | sum, d :: places => sixtiesOf (base * 60) (sum.add (d.mul (Binary64.ofInt base))) places

def unsignedNumber (s : Text) : Except ScalarFault Binary64 :=
  if s = Text.of ".inf" then .ok (.infinite false)
  else if s = Text.of ".nan" then .ok .notANumber
  else if s.contains 0x3A then do
    return sixtiesOf 1 .zero (← (splitOn 0x3A s).mapM numberIn).reverse
  else numberIn s

/-- A floating-point number. Low lines count nothing. -/
def numberOf (s : Text) : Except ScalarFault Binary64 := do
  let s := lower (s.filter fun c => !isLowLine c)
  if s.isEmpty then throw .noNumber
  let (negative, body) := splitSign s
  let x ← unsignedNumber body
  return if negative then x.negate else x

def truthOf (s : Text) : Except ScalarFault Bool :=
  let word := lower s
  if ["yes", "true", "on"].any fun w => Text.of w == word then .ok true
  else if ["no", "false", "off"].any fun w => Text.of w == word then .ok false
  else .error (.notATruthValue word)

def timestampOf (s : Text) : Except ScalarFault Value :=
  match WrittenDate.read? s with
  | none => .error .notADate
  | some d =>
      match d.toValue with
      | .ok v => .ok v
      | .error fault => .error (.outOfRange fault)

def octetsOf (s : Text) (start : Mark) : Except Error Value :=
  match s.find? (0x80 ≤ ·) with
  | some c => .error (.malformed none (.notAscii c (s.takeWhile (· < 0x80)).length) start)
  | none =>
      match Base64.decode s with
      | .ok octets => .ok (.octets octets)
      | .error fault => .error (.malformed none (.base64 fault) start)

/-- The text of a scalar. A mapping gives the one under its value key. -/
def textOf : Node → Except Error Text
  | .scalar _ text _ => .ok text
  | .sequence _ _ start => .error (.malformed none (.wrongKind .scalar .sequence) start)
  | .mapping _ entries start =>
      (textOfValueKey? entries).getD (.error (.malformed none (.wrongKind .scalar .mapping) start))
where
  textOfValueKey? : List (Node × Node) → Option (Except Error Text)
    | [] => none
    | (key, value) :: entries =>
        if key.tag = .value then some (textOf value) else textOfValueKey? entries

/-- The value of a node whose tag is not that of a collection. -/
def scalarValue (n : Node) : Except Error Value := do
  let scalar {α : Type} (read : Text → Except ScalarFault α) (make : α → Value) :
      Except Error Value := do
    match read (← textOf n) with
    | .ok a => return make a
    | .error fault => throw (.scalar fault)
  match n.tag with
  | .null => do
      let _ ← textOf n
      return .null
  | .bool => scalar truthOf .bool
  | .int => scalar integerOf .int
  | .float => scalar numberOf .float
  | .timestamp => scalar timestampOf id
  | .binary => do octetsOf (← textOf n) n.start
  | .text => do return .text (← textOf n)
  | tag => throw (.malformed none (.unknownTag tag.name) n.start)

/-! ## Merge keys -/

/-- What a mapping takes over, and its own entries. -/
abbrev Merged := List (Node × Node) × List (Node × Node)

/-- A value key without a merge stands for its text. -/
def plainKey (key : Node) : Node :=
  match key with
  | .scalar .value text start => .scalar .text text start
  | key => key

mutual

/-- The entries of a mapping, those it takes over first. -/
def flatten (start : Mark) (entries : List (Node × Node)) : Except Error (List (Node × Node)) :=
  match flattenEntries start entries with
  | .ok (taken, own) => .ok (taken ++ own)
  | .error e => .error e

def flattenEntries (start : Mark) : List (Node × Node) → Except Error Merged
  | [] => .ok ([], [])
  | (key, value) :: entries => do
      if key.tag = .merge then
        let first ← flattenMerged start value
        let (taken, own) ← flattenEntries start entries
        return (first ++ taken, own)
      else
        let (taken, own) ← flattenEntries start entries
        return (taken, (plainKey key, value) :: own)

/-- The entries under a merge key: of one mapping, or of a sequence of them, the last first. -/
def flattenMerged (start : Mark) : Node → Except Error (List (Node × Node))
  | .mapping _ entries inner => flatten inner entries
  | .sequence _ items _ => do return (← flattenItems start items).reverse.flatten
  | .scalar _ _ place =>
      .error (.malformed (some (.mapping, some start)) (.wrongKind .mergedOrList .scalar) place)

def flattenItems (start : Mark) : List Node → Except Error (List (List (Node × Node)))
  | [] => .ok []
  | .mapping _ entries inner :: items => do
      let first ← flatten inner entries
      return first :: (← flattenItems start items)
  | item :: _ =>
      .error (.malformed (some (.mapping, some start)) (.wrongKind .merged item.kind) item.start)

end

/-! ## Collections -/

/-- A value, or a fault with the level of the collection it belongs to. -/
abbrev Ranked (α : Type) := Except (Nat × Error) α

/-- Both values, or the fault of the outer level; of two in one level the first. -/
def both {α β : Type} : Ranked α → Ranked β → Ranked (α × β)
  | .ok a, .ok b => .ok (a, b)
  | .ok _, .error f => .error f
  | .error e, .ok _ => .error e
  | .error e, .error f => .error (if f.1 < e.1 then f else e)

def all {α : Type} : List (Ranked α) → Ranked (List α)
  | [] => .ok []
  | r :: rs => (both r (all rs)).map fun (a, as) => a :: as

def ranked {α : Type} (level : Nat) : Except Error α → Ranked α
  | .ok a => .ok a
  | .error e => .error (level, e)

mutual

def Node.height : Node → Nat
  | .scalar .. => 0
  | .sequence _ items _ => itemsHeight items + 1
  | .mapping _ entries _ => entriesHeight entries + 1

def itemsHeight : List Node → Nat
  | [] => 0
  | item :: items => max item.height (itemsHeight items)

def entriesHeight : List (Node × Node) → Nat
  | [] => 0
  | (key, value) :: entries => max (max key.height value.height) (entriesHeight entries)

end

/-- The entries of a mapping at a level, given how its children are read. A collection is no key. -/
def buildEntries (child : Node → Ranked Value) (level : Nat) (start : Mark)
    (entries : List (Node × Node)) : Ranked (List (Value × Value)) := do
  let entries ← ranked level (flatten start entries)
  let values ← all <| entries.map fun (key, value) =>
    let checked : Ranked Unit :=
      if key.tag.isCollection then
        .error (level, .malformed (some (.mapping, some start)) .notAKey key.start)
      else .ok ()
    (both (both (child key) checked) (child value)).map fun ((k, _), v) => (k, v)
  return values.foldl (fun read (k, v) => Value.setEntry read k v) []

/-- The pair of a mapping of one entry. -/
def buildPair (child : Node → Ranked Value) (level : Nat) (context : Context) (start : Mark)
    (item : Node) : Ranked Value :=
  let refuse (cause : Cause) (place : Mark) : Ranked Value :=
    .error (level, .malformed (some (context, some start)) cause place)
  match item with
  | .mapping _ [(key, value)] _ => (both (child key) (child value)).map fun (k, v) => .pair k v
  | .mapping _ entries place => refuse (.itemCount entries.length) place
  | item => refuse (.wrongKind .single item.kind) item.start

/-- The value of a node in a collection of some level. -/
def build : (height : Nat) → (level : Nat) → Node → Ranked Value
  | height, level, n =>
      if !n.tag.isCollection then ranked level (scalarValue n)
      else
        let level := level + 1
        let child : Node → Ranked Value :=
          match height with
          | 0 => fun n => .error (level, .malformed none .recursiveNode n.start)
          | height + 1 => build height level
        let refuse {α : Type} (context : Option (Context × Option Mark)) (wanted : WantedNode) :
            Ranked α :=
          .error (level, .malformed context (.wrongKind wanted n.kind) n.start)
        let pairs (context : Context) : Ranked Value :=
          match n with
          | .sequence _ items start =>
              (all (items.map (buildPair child level context start))).map .list
          | _ => refuse (some (context, some n.start)) .items
        match n.tag, n with
        | .sequence, .sequence _ items _ => (all (items.map child)).map .list
        | .sequence, _ => refuse none .sequence
        | .set, .mapping _ entries start =>
            (buildEntries child level start entries).map fun es => .set (es.map (·.1))
        | .orderedMap, _ => pairs .orderedMap
        | .pairs, _ => pairs .pairs
        | _, .mapping _ entries start => (buildEntries child level start entries).map .mapping
        | _, _ => refuse none .mapping

def Node.toValue (n : Node) : Except Error Value :=
  match build n.height 0 n with
  | .ok v => .ok v
  | .error (_, e) => .error e

/-- The value that a text writes; without a document it is null. -/
def read (s : Text) : Except Error Value := do
  match ← Node.read s with
  | none => return .null
  | some n => n.toValue

end UrlRules.Yaml
