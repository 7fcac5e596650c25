import UrlRules.Proofs.Rule.Query
import UrlRules.Proofs.Rule.Template
import UrlRules.Proofs.Text.Percent

/-!
# Encoded names and captured texts

It does not matter how a text is encoded. A pair whose key encodes a name is removed with that name, wherever it
stands in a query and whatever its value is (`Query.remove_joined`, `Query.key_encoded`), and a group that has
captured an encoding stands for the text (`Template.expand_encoded`).
-/
namespace UrlRules

open Text Percent

variable {s e path : Text} {all names : List Text} {value fragment : Option Text}

namespace Query

/-- The key of a pair is the text that it encodes. -/
theorem key_encoded (encodes : Encodes s e) (unicode : s.IsUnicode) (value : Option Text) :
    key (e ++ lead equalsSign value) = s := by
  have absent : equalsSign ∉ e := encodes.apart (by decide)
  rw [key, cut_append_lead absent, encodes.decode_eq unicode]

theorem not_mem_lead {sign mark : CodePoint} (other : mark ≠ sign) (absent : ∀ v ∈ value, mark ∉ v) :
    mark ∉ lead sign value := by
  cases value with
  | none => exact List.not_mem_nil
  | some v => exact List.not_mem_cons_of_ne_of_not_mem other (absent v rfl)

/-- Neither the encoding nor the value ends the pair. -/
theorem apart_encoded (encodes : Encodes s e) (valued : ∀ v ∈ value, ampersand ∉ v ∧ hashSign ∉ v) :
    ampersand ∉ e ++ lead equalsSign value ∧ hashSign ∉ e ++ lead equalsSign value := by
  rw [List.mem_append, List.mem_append, not_or, not_or]
  exact ⟨⟨encodes.apart (by decide), not_mem_lead (by decide) fun v given => (valued v given).1⟩,
    ⟨encodes.apart (by decide), not_mem_lead (by decide) fun v given => (valued v given).2⟩⟩

/-- A URL with a path, some pairs and a fragment. -/
def joined (path : Text) (all : List Text) (fragment : Option Text) : Parts :=
  ⟨path, some (joinWith [ampersand] all), fragment⟩

theorem apart_joined (question : questionMark ∉ path) (hash : hashSign ∉ path)
    (each : ∀ pair ∈ all, hashSign ∉ pair) : (joined path all fragment).Apart := by
  refine ⟨question, hash, fun query given inside => ?_⟩
  obtain rfl : joinWith [ampersand] all = query := Option.some.inj given
  rcases mem_joinWith inside with same | ⟨pair, member, own⟩
  · exact absurd same (by decide)
  · exact each pair member own

/-- From a URL that is put together from pairs, those that have one of the names are removed. -/
theorem remove_joined (fragment : Option Text) (question : questionMark ∉ path) (hash : hashSign ∉ path)
    (each : ∀ pair ∈ all, ampersand ∉ pair ∧ hashSign ∉ pair)
    (named : ∃ pair ∈ all, pair ≠ [] ∧ key pair ∈ names) :
    ∃ cleaned, remove (joined path all fragment).url names = some cleaned ∧
      (parts cleaned).path = path ∧ (parts cleaned).fragment = fragment ∧
      pairsIn cleaned = all.filter fun pair => pair ≠ [] ∧ key pair ∉ names := by
  obtain ⟨pair, inside, nonempty, name⟩ := named
  have found : parts (joined path all fragment).url = joined path all fragment :=
    parts_url (apart_joined question hash fun pair member => (each pair member).2)
  have pairs : pairsIn (joined path all fragment).url = all := by
    have some : joinWith [ampersand] all ≠ [] := fun none =>
      nonempty (List.subset_nil.mp (none ▸ subset_joinWith ampersand inside))
    rw [pairsIn_of_query (congrArg Parts.query found) some]
    exact splitOn_joinWith (List.ne_nil_of_mem inside) fun pair member => (each pair member).1
  have goes : remove (joined path all fragment).url names ≠ none := fun none =>
    remove_eq_none_iff.mp none pair (pairs.symm ▸ inside) name
  obtain ⟨cleaned, removed⟩ := Option.ne_none_iff_exists'.mp goes
  refine ⟨cleaned, removed, ?_, ?_, ?_⟩
  · rw [parts_remove removed, found]
    rfl
  · rw [parts_remove removed, found]
    rfl
  · rw [pairsIn_cleaned removed, pairs]

end Query

namespace Template

theorem isNumeral_ofNat {k : Nat} (short : (ofNat k).length ≤ maxDigits) : IsNumeral (ofNat k) :=
  ⟨(digits_ofNat k).1, (digits_ofNat k).each, short⟩

/-- A group that has captured an encoding stands for the text, in both forms of a reference. -/
theorem expand_encoded {k groups : Nat} {group? : Nat → Option Text} (encodes : Encodes s e) (unicode : s.IsUnicode)
    (known : 1 ≤ k ∧ k ≤ groups) (short : (ofNat k).length ≤ maxDigits) (captured : group? k = some e)
    (braces : Bool) :
    expand (Segment.reference (ofNat k) braces).written groups group? = .ok s := by
  have same : number (ofNat k) = k := (digits_ofNat k).value
  rw [expand_written (isNumeral_ofNat short), referred, same, if_pos known, captured, Option.map_some,
    Option.getD_some, encodes.decode_eq unicode]

end Template

open Query Template in
/-- However a text is encoded, its name is removed and its capture is inserted. A pair that encodes it as its key is
removed from the pairs before and after it, with any value and any fragment, by all names that it is among. The
other pairs, the path and the fragment stay what they are. A group that captured an encoding of it stands for it in
a template, be it with braces or without, as long as its number has no more digits than are converted. -/
theorem encoded_as_plain (s e : Text) (nonempty : s ≠ []) (unicode : s.IsUnicode) (encodes : Encodes s e) :
    (∀ (path : Text) (before after : List Text) (value fragment : Option Text) (names : List Text),
      questionMark ∉ path → hashSign ∉ path →
      (∀ pair ∈ before ++ after, ampersand ∉ pair ∧ hashSign ∉ pair) →
      (∀ v ∈ value, ampersand ∉ v ∧ hashSign ∉ v) → s ∈ names →
      ∃ cleaned,
        remove (path ++ questionMark :: joinWith [ampersand] (before ++ (e ++ lead equalsSign value) :: after) ++
          lead hashSign fragment) names = some cleaned ∧
        (parts cleaned).path = path ∧ (parts cleaned).fragment = fragment ∧
        pairsIn cleaned = (before ++ after).filter fun pair => pair ≠ [] ∧ key pair ∉ names) ∧
    ∀ (p : Pattern) (m : Pattern.Match) (k : Nat), 1 ≤ k → k ≤ p.groups → (ofNat k).length ≤ maxDigits →
      m.group? k = some e →
      expandMatch (dollarSign :: ofNat k) p m = .ok s ∧
        expandMatch (dollarSign :: openBrace :: (ofNat k ++ [closeBrace])) p m = .ok s := by
  constructor
  · intro path before after value fragment names question hash others valued named
    have own : key (e ++ lead equalsSign value) = s := key_encoded encodes unicode value
    have each : ∀ pair ∈ before ++ (e ++ lead equalsSign value) :: after, ampersand ∉ pair ∧ hashSign ∉ pair := by
      simp only [List.forall_mem_append, List.forall_mem_cons] at others ⊢
      exact ⟨others.1, apart_encoded encodes valued, others.2⟩
    have some : e ++ lead equalsSign value ≠ [] := List.append_ne_nil_of_left_ne_nil (encodes.ne_nil unicode nonempty) _
    obtain ⟨cleaned, removed, path', fragment', rest⟩ :=
      remove_joined fragment question hash each ⟨_, by simp, some, own.symm ▸ named⟩
    refine ⟨cleaned, removed, path', fragment', rest.trans ?_⟩
    rw [List.filter_append, List.filter_append, List.filter_cons_of_neg (by simp [own, named])]
  · intro p m k positive known short captured
    exact ⟨expand_encoded encodes unicode ⟨positive, known⟩ short captured false,
      expand_encoded encodes unicode ⟨positive, known⟩ short captured true⟩

open Query Template in
/-- `é b` may be written as `%c3%A9+b`. As the key of a pair it is removed, and as a capture it is inserted. -/
theorem encoded_as_plain_accent :
    let s : Text := [0xE9, 0x20, 0x62]
    let e := Text.of "%c3%A9+b"
    s ≠ [] ∧ s.IsUnicode ∧ Encodes s e ∧
      (∃ cleaned, remove (Text.of "x?a&%c3%A9+b=1#?") [s] = some cleaned ∧ (parts cleaned).path = Text.of "x" ∧
        (parts cleaned).fragment = some (Text.of "?")) ∧
      linePattern.search e = some (lineMatch e) ∧ (lineMatch e).group? 1 = some e ∧
      expandMatch (Text.of "$1") linePattern (lineMatch e) = .ok s := by
  intro s e
  have octets : Escapes (Utf8.encodeOne 0xE9) (Text.of "%c3%A9") :=
    .cons (h := 0xC) (l := 3) rfl rfl (.cons (h := 0xA) (l := 9) rfl rfl .nil)
  have encodes : Encodes s e := .escaped octets (.plus (.raw (by decide) .nil))
  have captured : (lineMatch e).group? 1 = some e := by decide +kernel
  have plain := encoded_as_plain s e (by decide) (by decide) encodes
  obtain ⟨cleaned, removed, path, fragment, -⟩ := plain.1 (Text.of "x") [Text.of "a"] [] (some (Text.of "1"))
    (some (Text.of "?")) [s] (by decide) (by decide) (by decide) (by decide) (by decide)
  exact ⟨by decide, by decide, encodes, ⟨cleaned, removed, path, fragment⟩, by decide +kernel, captured,
    (plain.2 linePattern (lineMatch e) 1 (by decide) (by decide) (by decide) captured).1⟩

end UrlRules
