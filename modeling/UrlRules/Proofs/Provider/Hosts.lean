import Mathlib
import UrlRules.Proofs.Chain.Confluence
import UrlRules.Proofs.Pattern.Passing
import UrlRules.Proofs.Pattern.Reading
import UrlRules.Proofs.Pattern.Search
import UrlRules.Provider.Name

/-!
# Hosts of a domain

The pattern of a domain is read as a start anchor, the scheme, a lazy repeat of labels, the characters of the domain
and a look at what follows (`read_domainPattern`): escaping leaves no character of the domain with a meaning of its
own (`spells_escapePattern`). Up to the look each part passes a language, so the pattern is found exactly in the URLs
of the hosts of the domain (`search_domainPattern`), whatever the order in which numbers of labels are tried.
-/
namespace UrlRules.Pattern

open Text Provider
open scoped Computability

variable {f : Flags} {node : Node} {nodes others : List Node} {L M : Language CodePoint} {d u rest : Text}
  {subject : Text} {widths : Nat → Width} {goal : Goal} {point : Point} {p : Pattern}

/-! ## The hosts -/

/-- The characters of a label of a host. -/
def isLabelCharacter (c : CodePoint) : Bool := isAsciiLower c || isAsciiDigit c || c == 0x2D

/-- What may follow a host: nothing, a last line break, or what starts a port, a path, a query or a fragment. -/
def FollowsHost (after : Text) : Prop :=
  after = [] ∨ after = [lineFeed] ∨ ∃ c ∈ Text.of ":/?#", ∃ rest, after = c :: rest

/-- A URL of a host of a domain, which is the domain itself or a domain below it. -/
def HostUrl (d u : Text) : Prop :=
  ∃ scheme ∈ [Text.of "http://", Text.of "https://"], ∃ labels : List Text, ∃ after,
    u = scheme ++ labels.flatMap (· ++ [0x2E]) ++ d ++ after ∧
      (∀ label ∈ labels, label ≠ [] ∧ ∀ c ∈ label, isLabelCharacter c) ∧ FollowsHost after

/-! ## The expression of a domain -/

/-- The expression for a text as it is. -/
def literal (s : Text) : List Node := s.map .char

def schemeNodes : List Node :=
  literal (Text.of "http") ++ (.loop .greedy 0 (some 1) (.char 0x73) :: literal (Text.of "://"))

def labelSet : CharSet := ⟨false, [.range 0x61 0x7A, .range 0x30 0x39, .single 0x2D]⟩

def labelNodes : List Node := [.loop .greedy 1 none (.set labelSet), .char 0x2E]

def hostEnd : Node := .alt (.set ⟨false, [.single 0x3A, .single 0x2F, .single 0x3F, .single 0x23]⟩) (.anchor .lineEnd)

/-- What the pattern of a domain has between its start and the look at what follows. -/
def hostNodes (d : Text) : List Node :=
  schemeNodes ++ (.loop .lazy 0 none (Node.ofList labelNodes) :: literal d)

def domainRoot (d : Text) : Node :=
  Node.ofList (.anchor .lineStart :: (hostNodes d ++ [.look false false hostEnd]))

/-- What the pattern of a domain compiles to. -/
def compiled (d : Text) : Pattern := ⟨domainRoot d, {}, 0, []⟩

/-! ## Reading it -/

section Reading

open Reader

variable {s : Reader.State} {fuel : Nat}

/-- Every character with a meaning is escaped. -/
theorem spells_escapePattern (s : Text) : Spells (escapePattern s) s := by
  have escapable : ∀ c ∈ patternCharacters, isEscapable c := by decide
  have inside : ∀ c ∈ signs, c ∈ patternCharacters := by decide
  induction s with
  | nil => exact .nil
  | cons c s ih =>
    simp only [escapePattern, List.flatMap_cons] at ih ⊢
    split
    next special => exact .escape (escapable c (by simpa using special)) ih
    next ordinary => exact .plain (fun sign => ordinary (by simpa using inside c sign)) ih

/-- The start of the pattern up to its lazy repeat. -/
def patternStart : Text := Text.of "^https?:\\/\\/(?:[a-z0-9-]+\\.)"

def patternEnd : Text := Text.of "(?=[:/?#]|$)"

/-- What is read of the start, latest part first. -/
def startItems : List Item := .plain labelNodes :: (.anchor .lineStart :: schemeNodes).reverse.map .single

theorem readSequence_patternStart :
    (readSequence (fuel + 20) true false []).run (s.at (patternStart ++ 0x2A :: 0x3F :: rest)) =
      (readSequence (fuel + 9) true false startItems).run (s.at (0x2A :: 0x3F :: rest)) := by
  cbv

theorem readSequence_patternEnd (items : List Item) :
    (readSequence (fuel + 12) true false items).run (s.at patternEnd) =
      .ok ((.single (.look false false hostEnd) :: items).reverse.flatMap Item.nodes, s.at []) := by
  cbv

theorem domainPattern_eq {domain : Text} (nonempty : bareDomain domain ≠ []) :
    domainPattern domain = patternStart ++ 0x2A :: 0x3F :: (escapePattern (bareDomain domain) ++ patternEnd) := by
  have start : Text.of "^https?:\\/\\/(?:[a-z0-9-]+\\.)*?" = patternStart ++ [0x2A, 0x3F] := by decide
  unfold domainPattern
  dsimp only
  rw [if_neg (by simpa using nonempty), start]
  simp [patternEnd]

theorem flatMap_single (nodes : List Node) : (nodes.map Item.single).flatMap Item.nodes = nodes := by
  rw [List.flatMap_map]
  exact List.flatMap_singleton' nodes

/-- The whole pattern, read with a step for each part and each character of the domain. -/
theorem readSequence_domain (d : Text) :
    (readSequence (fuel + d.length + 24) true false []).run
        (s.at (patternStart ++ 0x2A :: 0x3F :: (escapePattern d ++ patternEnd))) =
      .ok (.anchor .lineStart :: (hostNodes d ++ [.look false false hostEnd]), s.at []) := by
  have spells := spells_escapePattern d
  have whole : patternEnd ≠ [backslash] := by decide
  rw [show fuel + d.length + 24 = fuel + d.length + 4 + 20 by omega, readSequence_patternStart,
    show fuel + d.length + 4 + 9 = fuel + d.length + 12 + 1 by omega, startItems,
    readSequence_lazyStar (spells.whole whole),
    show fuel + d.length + 12 = fuel + 12 + d.length by omega, readSequence_spelled spells whole,
    readSequence_patternEnd]
  have characters : (d.map fun c => Item.single (.char c)) = (literal d).map Item.single := by simp [literal]
  simp [characters, flatMap_single, hostNodes, Item.nodes]

theorem fault?_ofList {template : Bool} (sound : ∀ node ∈ nodes, node.fault? widths template = none) :
    (Node.ofList nodes).fault? widths template = none := by
  induction nodes with
  | nil => rfl
  | cons node nodes ih =>
    obtain ⟨here, later⟩ := List.forall_mem_cons.mp sound
    cases nodes with
    | nil => exact here
    | cons => simp [Node.ofList, Node.fault?, here, ih later]

theorem fault?_domainRoot (d : Text) : (domainRoot d).fault? widths false = none := by
  refine fault?_ofList fun node member => ?_
  simp only [hostNodes, schemeNodes, literal, List.mem_cons, List.mem_append, List.mem_map, List.not_mem_nil] at member
  rcases member with rfl | ((⟨_, _, rfl⟩ | rfl | ⟨_, _, rfl⟩) | rfl | ⟨_, _, rfl⟩) | rfl | member
  all_goals first | rfl | cases member

theorem readWhole_domainPattern {domain : Text} (nonempty : bareDomain domain ≠ []) (s : Reader.State) :
    (readWhole (domainPattern domain)).run s = .ok (domainRoot (bareDomain domain), s.at []) := by
  have split := domainPattern_eq nonempty
  have whole : domainPattern domain ≠ [backslash] := by
    rw [split]
    exact fun same => absurd (List.cons.inj same).1 (by decide)
  -- There is fuel for every part: the pattern is no shorter than the domain.
  obtain ⟨fuel, enough⟩ : ∃ fuel, 4 * (domainPattern domain).length + 7 = fuel + (bareDomain domain).length + 24 := by
    refine ⟨4 * (domainPattern domain).length - (bareDomain domain).length - 17, ?_⟩
    have long := (spells_escapePattern (bareDomain domain)).length_le
    have short : patternStart.length = 28 := by decide
    rw [split]
    simp only [List.length_append, List.length_cons, short]
    omega
  have alternatives : (readAlternatives (4 * (domainPattern domain).length + 8) true false).run
      (s.at (domainPattern domain)) =
        .ok (.anchor .lineStart :: (hostNodes (bareDomain domain) ++ [.look false false hostEnd]), s.at []) := by
    rw [readAlternatives, enough, run_bind_ok (split ▸ readSequence_domain _)]
    rfl
  unfold readWhole
  rw [run_bind_ok (run_moveTo whole s), run_bind_ok alternatives]
  rfl

theorem read_domainPattern {domain : Text} (nonempty : bareDomain domain ≠ []) :
    Pattern.read (domainPattern domain) = .ok (compiled (bareDomain domain)) := by
  unfold Pattern.read
  rw [readWhole_domainPattern nonempty]
  simp [State.at, fault?_domainRoot, compiled]

end Reading

/-! ## Matching it -/

theorem run_ofList_cons (node : Node) (nodes : List Node) (goal : Goal) :
    (Node.ofList (node :: nodes)).run subject widths f goal =
      node.run subject widths f ((Node.ofList nodes).run subject widths f goal) := by
  cases nodes <;> rfl

theorem run_ofList_append (nodes others : List Node) (goal : Goal) :
    (Node.ofList (nodes ++ others)).run subject widths f goal =
      (Node.ofList nodes).run subject widths f ((Node.ofList others).run subject widths f goal) := by
  induction nodes generalizing goal with
  | nil => rfl
  | cons node nodes ih => rw [List.cons_append, run_ofList_cons, run_ofList_cons, ih]

theorem passes_cons (first : Passes (node.run subject widths f) L)
    (second : Passes ((Node.ofList nodes).run subject widths f) M) :
    Passes ((Node.ofList (node :: nodes)).run subject widths f) (L * M) := by
  rw [show (Node.ofList (node :: nodes)).run subject widths f = _ from funext (run_ofList_cons node nodes)]
  exact first.mul second

theorem passes_append (first : Passes ((Node.ofList nodes).run subject widths f) L)
    (second : Passes ((Node.ofList others).run subject widths f) M) :
    Passes ((Node.ofList (nodes ++ others)).run subject widths f) (L * M) := by
  rw [show (Node.ofList (nodes ++ others)).run subject widths f = _ from funext (run_ofList_append nodes others)]
  exact first.mul second

theorem mem_singleton {s t : Text} : t ∈ ({s} : Language CodePoint) ↔ t = s := Iff.rfl

theorem passes_char (c : CodePoint) : Passes ((Node.char c).run subject widths {}) {[c]} := by
  have same : ({[c]} : Language CodePoint) = {s | ∃ x, s = [x] ∧ (Node.char c).matchesUnit {} x} := by
    ext s
    simp only [mem_singleton, Node.matchesUnit, Flags.matchesChar]
    constructor
    · intro only
      exact ⟨c, only, by simp⟩
    · rintro ⟨x, rfl, same⟩
      rw [show c = x by simpa using same]
  rw [same]
  exact passes_unit fun x => (Node.char c).matchesUnit {} x

theorem passes_literal (s : Text) : Passes ((Node.ofList (literal s)).run subject widths {}) {s} := by
  induction s with
  | nil => exact passes_nothing
  | cons c s ih =>
    have split : ({[c]} : Language CodePoint) * {s} = {c :: s} := Set.image2_singleton
    rw [← split]
    exact passes_cons (passes_char c) ih

/-- The schemes of URLs with a host. -/
def schemes : Language CodePoint := {Text.of "http://", Text.of "https://"}

theorem mem_schemes {t : Text} : t ∈ schemes ↔ t ∈ [Text.of "http://", Text.of "https://"] := by
  rw [List.mem_pair]
  rfl

theorem passes_schemeNodes : Passes ((Node.ofList schemeNodes).run subject widths {}) schemes := by
  have s : Passes ((Node.loop .greedy 0 (some 1) (.char 0x73)).run subject widths {})
      (runs (fun x => (Node.char 0x73).matchesUnit {} x) 0 (some 1)) := passes_loopUnits _ 0 (some 1)
  have split : schemes = {Text.of "http"} *
      (runs (fun x => (Node.char 0x73).matchesUnit {} x) 0 (some 1) * {Text.of "://"}) := by
    ext t
    constructor
    · rintro (rfl | rfl)
      · exact ⟨_, rfl, _, ⟨[], ⟨by simp, by simp, by simp⟩, _, rfl, rfl⟩, by decide⟩
      · exact ⟨_, rfl, _, ⟨[0x73], ⟨by simp, by simp, by decide⟩, _, rfl, rfl⟩, by decide⟩
    · rintro ⟨_, rfl, _, ⟨r, ⟨-, within, each⟩, _, rfl, rfl⟩, rfl⟩
      have short : r.length ≤ 1 := within 1 rfl
      rcases r with _ | ⟨x, _ | _⟩
      · exact .inl (by decide)
      · obtain rfl : 0x73 = x := by simpa [Node.matchesUnit, Flags.matchesChar] using each
        exact .inr (mem_singleton.mpr (by decide))
      · simp at short
  rw [split]
  exact passes_append (passes_literal _) (passes_cons s (passes_literal _))

/-- A label and the full stop after it. -/
def dotted : Language CodePoint :=
  {s | ∃ label, s = label ++ [0x2E] ∧ label ≠ [] ∧ ∀ c ∈ label, isLabelCharacter c}

theorem matchesUnit_labelSet (c : CodePoint) : (Node.set labelSet).matchesUnit {} c = isLabelCharacter c := by
  simp [Node.matchesUnit, CharSet.holds, labelSet, SetItem.holds, isLabelCharacter, isAsciiLower, isAsciiDigit,
    Bool.or_assoc, Bool.beq_comm]

theorem passes_labelNodes : Passes ((Node.ofList labelNodes).run subject widths {}) dotted := by
  have characters : Passes ((Node.loop .greedy 1 none (.set labelSet)).run subject widths {})
      (runs isLabelCharacter 1 none) := funext matchesUnit_labelSet ▸ passes_loopUnits _ 1 none
  have split : dotted = runs isLabelCharacter 1 none * {[0x2E]} := by
    ext t
    constructor
    · rintro ⟨label, rfl, nonempty, each⟩
      exact ⟨label, ⟨List.length_pos_iff.mpr nonempty, nofun, each⟩, _, rfl, rfl⟩
    · rintro ⟨label, ⟨nonempty, -, each⟩, _, rfl, rfl⟩
      exact ⟨label, rfl, List.length_pos_iff.mp nonempty, each⟩
  rw [split]
  exact passes_cons characters (passes_char 0x2E)

/-- Labels are not empty, so the lazy repeat passes any number of them. -/
theorem passes_hostNodes (d : Text) :
    Passes ((Node.ofList (hostNodes d)).run subject widths {}) (schemes * (dotted∗ * {d})) := by
  have nonempty : [] ∉ dotted := by
    rintro ⟨label, empty, -⟩
    exact List.append_ne_nil_of_right_ne_nil label (List.cons_ne_nil 0x2E []) empty.symm
  have labels : Passes ((Node.loop .lazy 0 none (Node.ofList labelNodes)).run subject widths {}) dotted∗ :=
    passes_labelNodes.star nonempty
  exact passes_append passes_schemeNodes (passes_cons labels (passes_literal d))

/-- What the repeat passes are labels, each with a full stop after it. -/
theorem mem_kstar_dotted {t : Text} : t ∈ dotted∗ ↔ ∃ labels : List Text, t = labels.flatMap (· ++ [0x2E]) ∧
    ∀ label ∈ labels, label ≠ [] ∧ ∀ c ∈ label, isLabelCharacter c := by
  rw [Language.mem_kstar]
  constructor
  · rintro ⟨pieces, rfl, each⟩
    induction pieces with
    | nil => exact ⟨[], rfl, by simp⟩
    | cons piece pieces ih =>
      obtain ⟨⟨label, rfl, sound⟩, later⟩ := List.forall_mem_cons.mp each
      obtain ⟨labels, split, others⟩ := ih later
      exact ⟨label :: labels, by simp [split], List.forall_mem_cons.mpr ⟨sound, others⟩⟩
  · rintro ⟨labels, rfl, each⟩
    refine ⟨labels.map (· ++ [0x2E]), List.flatMap_def, fun piece member => ?_⟩
    obtain ⟨label, inside, rfl⟩ := List.mem_map.mp member
    exact ⟨label, rfl, each label inside⟩

/-- The look at what follows a host takes nothing. -/
theorem isSome_look_hostEnd (accepts : ∀ q, (goal q).isSome) (point : Point) :
    ((Node.look false false hostEnd).run subject widths {} goal point).isSome ↔ FollowsHost point.rest := by
  have set : ∀ c, (Node.set ⟨false, [.single 0x3A, .single 0x2F, .single 0x3F, .single 0x23]⟩).matchesUnit {} c ↔
      c ∈ Text.of ":/?#" := by
    intro c
    rw [show Text.of ":/?#" = [0x3A, 0x2F, 0x3F, 0x23] by decide]
    simp [Node.matchesUnit, CharSet.holds, SetItem.holds, @eq_comm _ c]
  have found : ((Node.look false false hostEnd).run subject widths {} goal point).isSome ↔
      (hostEnd.run subject widths {} some point).isSome := by
    simp only [Node.run]
    cases here : hostEnd.run subject widths {} some point with
    | none => simp [Point.backBy, here]
    | some q => simp [Point.backBy, here, accepts]
  rw [found]
  unfold FollowsHost
  cases rest : point.rest with
  | nil => simp [hostEnd, Node.run, rest, Anchor.holds]
  | cons c more =>
    by_cases inside : c ∈ Text.of ":/?#"
    · simp [hostEnd, Node.run, rest, (set c).mpr inside, inside]
    · have outside := mt (set c).mp inside
      simp [hostEnd, Node.run, rest, outside, inside, Anchor.holds]

/-- The expression of a domain from the start of a text. -/
theorem isSome_domainRoot (accepts : ∀ q, (goal q).isSome) :
    ((domainRoot d).run subject widths {} goal (Point.start u)).isSome ↔ HostUrl d u := by
  have started : (domainRoot d).run subject widths {} goal (Point.start u) =
      (Node.ofList (hostNodes d ++ [.look false false hostEnd])).run subject widths {} goal (Point.start u) := by
    rw [domainRoot, run_ofList_cons]
    rfl
  have followed : ∀ piece rest, ((Node.ofList [.look false false hostEnd]).run subject widths {} goal
      ((Point.start u).pass piece rest)).isSome ↔ FollowsHost rest := fun _ _ => isSome_look_hostEnd accepts _
  rw [started, run_ofList_append, passes_hostNodes]
  simp only [followed]
  constructor
  · rintro ⟨_, ⟨scheme, known, _, ⟨_, below, _, rfl, rfl⟩, rfl⟩, rest, split, follows⟩
    obtain ⟨labels, rfl, sound⟩ := mem_kstar_dotted.mp below
    exact ⟨scheme, mem_schemes.mp known, labels, rest, by simpa [Point.start] using split, sound, follows⟩
  · rintro ⟨scheme, known, labels, rest, rfl, sound, follows⟩
    refine ⟨scheme ++ (labels.flatMap (· ++ [0x2E]) ++ d), ?_, rest, ?_, follows⟩
    · have below := mem_kstar_dotted.mpr ⟨labels, rfl, sound⟩
      exact ⟨scheme, mem_schemes.mpr known, _, ⟨_, below, _, rfl, rfl⟩, rfl⟩
    · simp [Point.start]

/-- It matches nowhere else. -/
theorem matchAt_compiled_later {advance : Bool} {before : Text} {place : Nat} (past : before ≠ []) :
    (compiled d).matchAt u advance ⟨before, rest, place, []⟩ = none := by
  unfold matchAt compiled domainRoot
  rw [run_ofList_cons]
  simp [Node.run, Anchor.holds, past]

/-! ## Searching for it -/

/-- A pattern that matches only at the start of a text is found if it matches there. -/
theorem isSome_search_of_start (everywhere : p.lead? = none)
    (start : ∀ advance before rest place, before ≠ [] → p.matchAt u advance ⟨before, rest, place, []⟩ = none) :
    (p.search u).isSome ↔ (p.matchAt u false (Point.start u)).isSome := by
  have tried : ∀ rest, p.startsBefore rest = true := fun rest => by simp [startsBefore, everywhere]
  have later : ∀ (rest before : Text) (advance : Bool) (place : Nat), before ≠ [] →
      p.searchFrom u advance before rest place = none := by
    intro rest
    induction rest with
    | nil =>
      intro before advance place past
      rw [searchFrom]
      simp [start _ _ _ _ past]
    | cons c rest ih =>
      intro before advance place past
      rw [searchFrom]
      simp [start _ _ _ _ past, ih]
  unfold search searchFrom
  rw [tried, if_pos rfl]
  change _ ↔ (p.matchAt u false ⟨[], u, 0, []⟩).isSome
  cases p.matchAt u false ⟨[], u, 0, []⟩ with
  | some q => simp
  | none =>
    cases u with
    | nil => simp
    | cons c rest => simp [later]

/-- The pattern of a domain compiles, and it is found in a text exactly if the text is a URL of a host of the domain;
without a domain it is found in every text. -/
theorem search_domainPattern (domain : Option Text) :
    ∃ p, Pattern.read (domainPattern (domain.getD [])) = .ok p ∧
      ∀ u, (p.search u).isSome ↔
        bareDomain (domain.getD []) = [] ∨ HostUrl (bareDomain (domain.getD [])) u := by
  by_cases blank : bareDomain (domain.getD []) = []
  · obtain ⟨p, reads, found⟩ := Rule.search_anyUrl
    have same : domainPattern (domain.getD []) = anyUrl := by simp [domainPattern, blank]
    refine ⟨p, same ▸ reads, fun u => ?_⟩
    simp only [blank, true_or, iff_true]
    exact Option.isSome_iff_exists.mpr (found u)
  · refine ⟨_, read_domainPattern blank, fun u => ?_⟩
    rw [isSome_search_of_start rfl fun _ _ _ _ => matchAt_compiled_later, or_iff_right blank]
    exact isSome_domainRoot fun q => rfl

end UrlRules.Pattern
