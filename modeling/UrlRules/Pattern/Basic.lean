import UrlRules.Pattern.Flags
import UrlRules.Text.Basic

/-!
# Patterns

A pattern is an expression over characters, with the flags it is matched under and the number of
its groups. `Node.width` bounds the number of characters that an expression matches.
-/
namespace UrlRules.Pattern

inductive Category where
  | digit
  | blank
  | word
  deriving DecidableEq, Repr

inductive SetItem where
  | single (c : CodePoint)
  | range (first last : CodePoint)
  | category (positive : Bool) (kind : Category)
  deriving DecidableEq, Repr

structure CharSet where
  negated : Bool
  items : List SetItem
  deriving DecidableEq, Repr

inductive Anchor where
  | lineStart
  | lineEnd
  | textStart
  | textEnd
  | wordBoundary
  | noWordBoundary
  deriving DecidableEq, Repr

/-- How a repeat chooses the number of its rounds. -/
inductive Greed where
  /-- As many as possible, fewer if the rest does not match. -/
  | greedy
  /-- As few as possible, more if the rest does not match. -/
  | lazy
  /-- As many as possible, and no other number. -/
  | possessive
  deriving DecidableEq, Repr

inductive Node where
  | empty
  | char (c : CodePoint)
  | notChar (c : CodePoint)
  | any
  | set (s : CharSet)
  | anchor (a : Anchor)
  | backref (group : Nat)
  | seq (first second : Node)
  | alt (first second : Node)
  /-- A group that captures under an index, or only changes flags. -/
  | group (index : Option Nat) (on off : Flags) (body : Node)
  | atomic (body : Node)
  | look (behind negated : Bool) (body : Node)
  /-- Goes on with one of two expressions, depending on whether a group has matched. -/
  | choice (group : Nat) (present absent : Node)
  | loop (greed : Greed) (least : Nat) (most : Option Nat) (body : Node)
  deriving DecidableEq, Repr, Inhabited

namespace Node

/-- Expressions one after the other. -/
def ofList : List Node → Node
  | [] => .empty
  | [node] => node
  | node :: next :: nodes => .seq node (ofList (next :: nodes))

/-- Whether an expression has no expression inside it. -/
def isLeaf : Node → Bool
  | .char _ | .notChar _ | .any | .set _ | .anchor _ | .backref _ => true
  | _ => false

/-- Whether an expression stands for exactly one character. -/
def isUnit : Node → Bool
  | .char _ | .notChar _ | .any | .set _ => true
  | _ => false

end Node

/-- Bounds on a number of characters. -/
structure Width where
  least : Nat
  most : Nat
  deriving DecidableEq, Repr, Inhabited

namespace Width

/-- Stands for an unbounded number. -/
def unbounded : Nat := Nat.pow 2 64

def cap (w : Width) : Width := ⟨min w.least unbounded, min w.most unbounded⟩

def add (v w : Width) : Width := cap ⟨v.least + w.least, v.most + w.most⟩

def join (v w : Width) : Width := ⟨min v.least w.least, max v.most w.most⟩

def rounds (w : Width) (least : Nat) (most : Option Nat) : Width :=
  cap ⟨w.least * least,
    match most with
    | some n => w.most * n
    | none => if w.most = 0 then 0 else unbounded⟩

end Width

/-- The width of an expression, given the widths of the groups by index. -/
def Node.width (groups : Nat → Width) : Node → Width
  | .empty => ⟨0, 0⟩
  | .char _ => ⟨1, 1⟩
  | .notChar _ => ⟨1, 1⟩
  | .any => ⟨1, 1⟩
  | .set _ => ⟨1, 1⟩
  | .anchor _ => ⟨0, 0⟩
  | .backref n => groups n
  | .seq p q => (p.width groups).add (q.width groups)
  | .alt p q => (p.width groups).join (q.width groups)
  | .group _ _ _ body => body.width groups
  | .atomic body => body.width groups
  | .look _ _ _ => ⟨0, 0⟩
  | .choice _ present absent => (present.width groups).join (absent.width groups)
  | .loop _ least most body => (body.width groups).rounds least most

end UrlRules.Pattern

namespace UrlRules

/-- A pattern that can be matched. -/
structure Pattern where
  root : Pattern.Node
  flags : Pattern.Flags
  /-- The number of capturing groups. -/
  groups : Nat
  /-- The widths of the groups, from group 1. -/
  widths : List Pattern.Width
  deriving DecidableEq, Repr, Inhabited

end UrlRules
