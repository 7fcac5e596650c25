import UrlRules.Store.Error

/-!
# The rule store

The store keeps a list of rules in a table of a database. Each rule has a position, and the list is
read by rising positions; rules at one position keep the order in which they were added.

Changes are made in a transaction: `rows` is what the open connection sees and `saved` what is
committed. A change that the database refuses is rolled back. One that stops for another cause leaves
the rows it has written; they are lost when the connection is closed and kept by the next commit.
-/
namespace UrlRules

open Text

namespace Store

/-- What stands where the database is to be. -/
inductive Medium where
  | database
  /-- A file that is no database. -/
  | foreign
  /-- A directory. -/
  | unopenable
  /-- Its directory is not there and cannot be made. -/
  | blocked (error : FileError)
  deriving DecidableEq, Repr

/-- How many parameters a database takes in one statement: enough for the columns of a row, and so few that
they are counted in 32 bits. -/
structure Capacity where
  value : Nat
  row_le : 7 ≤ value
  lt : value < 2147483648
  deriving DecidableEq, Repr

/-- What databases take unless they are built otherwise. -/
def Capacity.usual : Capacity := ⟨32766, by decide, by decide⟩

end Store

structure Store where
  medium : Store.Medium
  connected : Bool
  /-- Whether there is a table of rules. -/
  hasTable : Bool
  rows : List Row
  saved : List Row
  /-- How many parameters a statement may have. -/
  capacity : Store.Capacity
  deriving DecidableEq, Repr

namespace Store

/-- The octets that stand for those of a database: the first ones, and one that is in no text. What is in
the table is kept apart. -/
def header : List Utf8.Octet :=
  Utf8.encode "SQLite format 3" ++ [0x00, 0x10, 0x00, 0x01, 0x01, 0x00, 0x40, 0x20, 0x20, 0x83]

/-- What there is for a database where something is found. An empty file is a database without a table. -/
def mediumOf : Except FileError FileEntry → Medium
  | .ok .directory => .unopenable
  | .ok (.file octets) => if octets = [] ∨ octets = header then .database else .foreign
  | .error _ => .database

/-- What stands at a path. -/
def mediumAt (files : Files) (path : Path) : Medium :=
  match files.makeParent path with
  | .error e => .blocked e
  | .ok files => mediumOf (files.find path)

/-- The store at a path before anything is kept in it. -/
def emptyAt (capacity : Capacity) (files : Files) (path : Path) : Store :=
  ⟨mediumAt files path, false, false, [], [], capacity⟩

/-- The same with the usual capacity. -/
def ofFiles (files : Files) (path : Path) : Store := emptyAt .usual files path

/-- A change of the store that may stop with an error; what it has changed by then stays. -/
abbrev Action (α : Type) := ExceptT Error (StateM Store) α

/-- Makes a connection if there is none. One to a file that is no database is kept but of no use. -/
def connect (refusal : Reason → Error) : Action Unit := do
  let s ← get
  if s.connected then return
  match s.medium with
  | .blocked e => throw (.blocked e)
  | .unopenable => throw (refusal .cannotOpen)
  | .foreign =>
      set { s with connected := true }
      throw (refusal .notDatabase)
  | .database => set { s with connected := true }

/-- Why the table cannot be used. -/
def unusable? (s : Store) : Option Reason :=
  match s.medium with
  | .foreign => some .notDatabase
  | _ => if s.hasTable then none else some .noTable

def rollback : Action Unit := modify fun s => { s with rows := s.saved }

def commit : Action Unit := modify fun s => { s with saved := s.rows }

/-- Goes on if the table can be used. -/
def useTable (attempt : Attempt) : Action Unit := do
  match unusable? (← get) with
  | none => return
  | some reason =>
      rollback
      throw (.failed attempt reason)

/-- Goes on if a statement may have so many parameters. That is found out before the table is looked for. -/
def useParameters (attempt : Attempt) (count : Nat) : Action Unit := do
  if (← get).capacity.value < count then
    rollback
    throw (.failed attempt .tooManyParameters)

/-- Makes the table of rules if it is not there. -/
def prepare : Action Unit := do
  connect (.failed .prepare)
  let s ← get
  if s.medium = .foreign then throw (.failed .prepare .notDatabase)
  set { s with hasTable := true }

/-- Closes the connection. What is not committed is lost. -/
def close : Action Unit := modify fun s => { s with connected := false, rows := s.saved }

/-- Closes the connection and makes a new one to an initialized store. -/
def reopen : Action Unit := do
  close
  prepare

/-! ## Reading -/

/-- The rows by rising positions; those at one position in the order in which they were added. -/
def inOrder (rows : List Row) : List Row :=
  rows.mergeSort fun a b => !b.position.before a.position

/-- The error that a row which is no rule makes of an attempt. -/
def ofRowError (attempt : Attempt) : RowError → Error
  | .notJson e => .failed attempt (.notJson e)
  | .rule (.patternFailure e) => .failed attempt (.pattern e)
  | e => .row e

def ruleOf (attempt : Attempt) (row : Row) : Except Error Rule :=
  match row.toRule with
  | .ok rule => .ok rule
  | .error e => .error (ofRowError attempt e)

/-- The rules in rows, in their order. -/
def rulesOf (rows : List Row) : Except Error (List Rule) := (inOrder rows).mapM (ruleOf .list)

/-- All rules in the order of the list. -/
def list : Action (List Rule) := do
  connect (.failed .list)
  useTable .list
  liftExcept (rulesOf (← get).rows)
where
  liftExcept {α : Type} : Except Error α → Action α
    | .ok a => return a
    | .error e => throw e

/-- The enabled rules in the order of the list. -/
def enabled : Action (List Rule) := do return (← list).filter (·.enabled)

def hasId (id : Text) (row : Row) : Bool := row.id == .text id

/-- The rule with an id. -/
def find (id : Text) : Action (Option Rule) := do
  connect (.failed (.retrieve id))
  useTable (.retrieve id)
  if !isScalar id then throw (.failed (.retrieve id) (.unencodable id))
  match (← get).rows.find? (hasId id) with
  | none => return none
  | some row =>
      match ruleOf (.retrieve id) row with
      | .ok rule => return some rule
      | .error e => throw e

/-! ## Changing -/

/-- The first of cells in an order. -/
def firstOf (before : Cell → Cell → Bool) : List Cell → Option Cell
  | [] => none
  | c :: cells =>
      match firstOf before cells with
      | none => some c
      | some d => some (if before d c then d else c)

/-- The position of the first of `count` new rules: before all others, or after them. -/
def startFor (rows : List Row) (count : Nat) (first : Bool) : Option Cell :=
  let positions := rows.map (·.position)
  if first then
    ((firstOf Cell.before positions).getD (.integer 0)).shifted? (-count)
  else
    ((firstOf (fun a b => Cell.before b a) positions).getD (.integer (-1))).shifted? 1

/-- Whether a position fits a cell. -/
def isTooLarge : Cell → Bool
  | .integer n => !Cell.fits n
  | _ => false

/-- Adds rules on consecutive positions from one on. -/
def addRows (start : Cell) : List (Nat × Rule) → Action Unit
  | [] => return
  | (offset, rule) :: rest => do
      let some position := start.shifted? offset | throw .positionNotNumber
      if isTooLarge position then throw .positionTooLarge
      if let some text := Row.unencodable? (Row.textsOf rule) then throw (.unencodable text)
      modify fun s => { s with rows := s.rows ++ [Row.ofRule rule position] }
      addRows start rest

/-- The ids of rules that are there already, in the order of their octets. -/
def takenIds (rows : List Row) (ids : List Text) : List Text :=
  (ids.filter fun id => rows.any (hasId id)).mergeSort fun a b => !Text.before b a

/-- Adds rules before all others, or after them, in their order. All of their ids are asked for in one
statement. -/
def insertAll (rules : List Rule) (first : Bool) : Action Unit := do
  if rules.isEmpty then return
  connect .unreachable
  let ids := rules.map (·.id)
  if !ids.Nodup then throw .repeatedIds
  useParameters .insert ids.length
  useTable .insert
  if let some text := Row.unencodable? ids then throw (.unencodable text)
  let rows := (← get).rows
  let taken := takenIds rows ids
  if !taken.isEmpty then throw (.taken taken)
  let some start := startFor rows rules.length first | throw .positionNotNumber
  addRows start ((List.range rules.length).zip rules)
  commit

/-- Adds a rule before all others, or after them. -/
def insert (rule : Rule) (first : Bool) : Action Unit := insertAll [rule] first

/-- Changes the row with an id, which has to be there. -/
def change (attempt : Attempt) (id : Text) (texts : List Text) (edit : Row → Row) : Action Unit := do
  connect .unreachable
  useTable attempt
  if let some text := Row.unencodable? (texts ++ [id]) then throw (.unencodable text)
  let rows := (← get).rows
  modify fun s => { s with rows := s.rows.map fun row => if hasId id row then edit row else row }
  commit
  if !rows.any (hasId id) then throw (.notFound id)

/-- Replaces the rule with the same id. It keeps its place. -/
def update (rule : Rule) : Action Unit :=
  change (.update rule.id) rule.id (Row.textsOf rule) (·.withRule rule)

def setEnabled (id : Text) (value : Bool) : Action Unit :=
  change (.toggle id) id [] fun row => { row with enabled := .integer (if value then 1 else 0) }

/-- Deletes the rule with an id, and tells whether there was one. -/
def delete (id : Text) : Action Bool := do
  connect .unreachable
  useTable (.delete id)
  if !isScalar id then throw (.unencodable id)
  let rows := (← get).rows
  modify fun s => { s with rows := s.rows.filter fun row => !hasId id row }
  commit
  return rows.any (hasId id)

/-- Overwrites a cell of the row with an id, whether the row is a rule afterwards or not. -/
def overwrite (id : Text) (column : Row.Column) (value : Cell) : Action Unit := do
  connect .unreachable
  match unusable? (← get) with
  | some reason => throw (.unreachable reason)
  | none =>
      let kept := column.kept value
      let rows := (← get).rows
      if rows.any (hasId id) then
        if kept = .empty ∧ !column.mayBeEmpty then throw .constraint
        if column = .id ∧ kept ≠ .text id ∧ kept ≠ .empty ∧ rows.any (fun row => row.id == kept) then
          throw .constraint
      modify fun s =>
        { s with rows := rows.map fun row => if hasId id row then row.set column kept else row }
      commit

end Store
end UrlRules
