/-!
# Pattern flags

Flags change how a pattern is read and matched. They are set for a whole pattern or for one group.
-/
namespace UrlRules.Pattern

structure Flags where
  /-- Classes and case know ASCII only. -/
  ascii : Bool := false
  /-- Letters match in either case. -/
  ignoreCase : Bool := false
  /-- The line anchors hold at every line. -/
  multiLine : Bool := false
  /-- The dot matches a line feed too. -/
  dotAll : Bool := false
  /-- Blanks and comments in the pattern are skipped. -/
  verbose : Bool := false
  /-- Classes and case know every script; the default. -/
  unicode : Bool := false
  /-- Repeats are refused. -/
  template : Bool := false
  deriving DecidableEq, Repr, Inhabited

namespace Flags

def union (a b : Flags) : Flags where
  ascii := a.ascii || b.ascii
  ignoreCase := a.ignoreCase || b.ignoreCase
  multiLine := a.multiLine || b.multiLine
  dotAll := a.dotAll || b.dotAll
  verbose := a.verbose || b.verbose
  unicode := a.unicode || b.unicode
  template := a.template || b.template

def inter (a b : Flags) : Flags where
  ascii := a.ascii && b.ascii
  ignoreCase := a.ignoreCase && b.ignoreCase
  multiLine := a.multiLine && b.multiLine
  dotAll := a.dotAll && b.dotAll
  verbose := a.verbose && b.verbose
  unicode := a.unicode && b.unicode
  template := a.template && b.template

def diff (a b : Flags) : Flags where
  ascii := a.ascii && !b.ascii
  ignoreCase := a.ignoreCase && !b.ignoreCase
  multiLine := a.multiLine && !b.multiLine
  dotAll := a.dotAll && !b.dotAll
  verbose := a.verbose && !b.verbose
  unicode := a.unicode && !b.unicode
  template := a.template && !b.template

def isEmpty (f : Flags) : Bool := f == {}

/-- Whether a flag chooses between ASCII and every script. -/
def setsScript (f : Flags) : Bool := f.ascii || f.unicode

/-- The flags inside a group that turns some on and some off. A choice of script replaces the one
outside. -/
def within (f on off : Flags) : Flags :=
  let base := if on.setsScript then { f with ascii := false, unicode := false } else f
  (base.union on).diff off

end Flags
end UrlRules.Pattern
