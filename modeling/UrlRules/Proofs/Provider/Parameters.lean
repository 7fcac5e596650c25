import UrlRules.Proofs.Provider.Hosts
import UrlRules.Proofs.Provider.Origins

/-!
# Parameters to strip

The parameters that a list names are its literal keys in the order in which they first stand there
(`literalKeys_parameterNames`), and no other list of names is that (`LiteralKeys.unique`). A rule of a provider that
strips parameters has them from one list of the entry that gives it (`Listed`). An entry of Linkumori is of one of
three kinds (`Linkumori.exhaustive`): it strips, it is passed over, or a warning shows why not; and the pattern of any
domain can be read. Put together this says which parameters are stripped (`parameters_literal`).
-/
namespace UrlRules.Provider

open Text

variable {items : List Json} {item value : Json} {name : Text} {names : List Text}

/-! ## Literal keys -/

/-- A text names a parameter as it is: it is not empty, no path, and no pattern. -/
structure Literal (name : Text) : Prop where
  nonempty : name ≠ []
  noPath : name.head? ≠ some 0x2F
  plain : ∀ c ∈ name, c ∉ metaCharacters

theorem isParameterName_iff : isParameterName name = true ↔ Literal name := by
  have split : isParameterName name = true ↔
      name ≠ [] ∧ name.head? ≠ some 0x2F ∧ ∀ c ∈ name, c ∉ metaCharacters := by
    simp [isParameterName, and_assoc]
  exact split.trans ⟨fun all => ⟨all.1, all.2.1, all.2.2⟩,
    fun literal => ⟨literal.nonempty, literal.noPath, literal.plain⟩⟩

/-- Names are those among items that are literal, each once, in the order in which they first stand there. -/
structure LiteralKeys (items : List Json) (names : List Text) : Prop where
  mem_iff : ∀ name, name ∈ names ↔ Json.text name ∈ items ∧ Literal name
  ordered : names.Pairwise fun a b => items.idxOf (.text a) < items.idxOf (.text b)

theorem LiteralKeys.nodup (keys : LiteralKeys items names) : names.Nodup := by
  refine keys.ordered.imp fun before same => ?_
  rw [same] at before
  exact Nat.lt_irrefl _ before

/-- There is one list of the literal keys. -/
theorem LiteralKeys.unique {others : List Text} (keys : LiteralKeys items names) (keys' : LiteralKeys items others) :
    names = others := by
  have perm : names.Perm others := (List.perm_ext_iff_of_nodup keys.nodup keys'.nodup).mpr fun name => by
    rw [keys.mem_iff, keys'.mem_iff]
  exact perm.eq_of_pairwise (fun a b _ _ before after => absurd before (Nat.lt_asymm after)) keys.ordered keys'.ordered

theorem firstOccurrences_concat (names : List Text) (name : Text) :
    firstOccurrences (names ++ [name]) =
      if name ∈ firstOccurrences names then firstOccurrences names else firstOccurrences names ++ [name] := by
  simp [firstOccurrences, List.foldl_append]

theorem firstOccurrences_of_nodup (distinct : names.Nodup) : firstOccurrences names = names := by
  induction names using List.reverseRecOn with
  | nil => rfl
  | append_singleton names name ih =>
    obtain ⟨before, -, apart⟩ := List.nodup_append.mp distinct
    rw [firstOccurrences_concat, ih before, if_neg fun member => apart name member name (by simp) rfl]

theorem parameterNames_concat_literal (items : List Json) (literal : Literal name) :
    parameterNames (.list (items ++ [.text name])) =
      if name ∈ parameterNames (.list items) then parameterNames (.list items)
      else parameterNames (.list items) ++ [name] := by
  have kept := isParameterName_iff.mpr literal
  calc parameterNames (.list (items ++ [.text name]))
      = firstOccurrences ((items.filterMap Json.asText?).filter isParameterName ++ [name]) := by
        simp [parameterNames, List.filterMap_append, Json.asText?, kept]
    _ = _ := firstOccurrences_concat _ name

theorem parameterNames_concat_other (items : List Json) (other : ∀ name, Literal name → item ≠ .text name) :
    parameterNames (.list (items ++ [item])) = parameterNames (.list items) := by
  have none : ([item].filterMap Json.asText?).filter isParameterName = [] := by
    cases item with
    | text s =>
      have dropped : ¬isParameterName s = true := fun kept => other s (isParameterName_iff.mp kept) rfl
      simp [Json.asText?, dropped]
    | _ => rfl
  simp only [parameterNames, List.filterMap_append, List.filter_append, none, List.append_nil]

/-- The names of parameters are the literal keys. -/
theorem literalKeys_parameterNames (items : List Json) : LiteralKeys items (parameterNames (.list items)) := by
  induction items using List.reverseRecOn with
  | nil => exact ⟨by simp [parameterNames, firstOccurrences], .nil⟩
  | append_singleton items item ih =>
    have old {a : Text} (member : a ∈ parameterNames (.list items)) :
        (items ++ [item]).idxOf (.text a) = items.idxOf (.text a) :=
      List.idxOf_append_of_mem ((ih.mem_iff a).mp member).1
    have ordered : (parameterNames (.list items)).Pairwise fun a b =>
        (items ++ [item]).idxOf (.text a) < (items ++ [item]).idxOf (.text b) :=
      ih.ordered.imp_of_mem fun first second before => by rwa [old first, old second]
    by_cases isKey : ∃ name, item = .text name ∧ Literal name
    · obtain ⟨name, rfl, literal⟩ := isKey
      rw [parameterNames_concat_literal items literal]
      split
      next known =>
        refine ⟨fun other => ?_, ordered⟩
        have among := (ih.mem_iff name).mp known
        rw [ih.mem_iff, List.mem_append, List.mem_singleton]
        grind
      next new =>
        have absent : Json.text name ∉ items := fun inside => new ((ih.mem_iff name).mpr ⟨inside, literal⟩)
        refine ⟨fun other => ?_, List.pairwise_append.mpr ⟨ordered, List.pairwise_singleton .., ?_⟩⟩
        · rw [List.mem_append, ih.mem_iff, List.mem_singleton, List.mem_append, List.mem_singleton]
          grind
        · intro a member b last
          rw [List.mem_singleton.mp last, old member, List.idxOf_append_of_notMem absent]
          exact Nat.lt_add_right _ (List.idxOf_lt_length_of_mem ((ih.mem_iff a).mp member).1)
    · have other : ∀ name, Literal name → item ≠ .text name := fun name literal same => isKey ⟨name, same, literal⟩
      rw [parameterNames_concat_other items other]
      refine ⟨fun name => ?_, ordered⟩
      rw [ih.mem_iff, List.mem_append, List.mem_singleton]
      grind

theorem exists_items_of_ne_nil (some : parameterNames value ≠ []) :
    ∃ items, value = .list items ∧ LiteralKeys items (parameterNames value) := by
  cases value with
  | list items => exact ⟨items, rfl, literalKeys_parameterNames items⟩
  | _ => exact absurd rfl some

/-- Names that were kept once are kept again. -/
theorem parameterNames_again (value : Json) :
    parameterNames (.list ((parameterNames value).map .text)) = parameterNames value := by
  by_cases some : parameterNames value = []
  · rw [some]
    rfl
  · obtain ⟨items, rfl, keys⟩ := exists_items_of_ne_nil some
    have texts : ((parameterNames (.list items)).map Json.text).filterMap Json.asText? =
        parameterNames (.list items) := by
      rw [List.filterMap_map]
      exact List.filterMap_some
    have literal : ∀ name ∈ parameterNames (.list items), isParameterName name = true := fun name member =>
      isParameterName_iff.mpr ((keys.mem_iff name).mp member).2
    calc parameterNames (.list ((parameterNames (.list items)).map .text))
        = firstOccurrences ((parameterNames (.list items)).filter isParameterName) := by
          rw [parameterNames, texts]
      _ = firstOccurrences (parameterNames (.list items)) := by rw [List.filter_eq_self.mpr literal]
      _ = parameterNames (.list items) := firstOccurrences_of_nodup keys.nodup

/-! ## Rules that strip parameters -/

/-- The list of an entry from which a rule has its parameters. An id of ClearURLs says which of two lists it is. -/
inductive ListedIn (name : Text) (fields : List (Text × Json)) (r : Rule) (items : List Json) : Provider → Prop
  | rules {number : Nat} (id : r.id = ClearUrls.ruleId (ClearUrls.idStart name) .params number)
      (listed : Json.field? fields (Text.of "rules") = some (.list items)) : ListedIn name fields r items .clearUrls
  | referral {number : Nat} (id : r.id = ClearUrls.ruleId (ClearUrls.idStart name) .referral number)
      (listed : Json.field? fields (Text.of "referralMarketing") = some (.list items)) :
      ListedIn name fields r items .clearUrls
  | removeParams (listed : Json.field? fields (Text.of "removeParams") = some (.list items)) :
      ListedIn name fields r items .linkumori

/-- A rule strips the literal keys of a list in the entry of a document that gives it, and there are some. -/
def Listed (provider : Provider) (data : Json) (r : Rule) : Prop :=
  ∃ name fields items, (name, Json.object fields) ∈ provider.entriesOf data ∧
    r ∈ rulesIn (provider.normalizeEntry name (.object fields)) ∧ ListedIn name fields r items provider ∧
    r.removeParams ≠ [] ∧ LiteralKeys items r.removeParams

theorem exists_names_of_ruleWith {provider : Provider} {id pattern : Text} {behaviour : Behaviour}
    (strips : (ruleWith provider id pattern behaviour).substitution = none ∨
      (ruleWith provider id pattern behaviour).removeParams ≠ []) :
    behaviour = .strip (ruleWith provider id pattern behaviour).removeParams := by
  cases behaviour with
  | expand template => rcases strips with none | some <;> simp [ruleWith] at *
  | strip names => rfl

/-- A field that gives names is a list. -/
theorem exists_list_of_field {fields : List (Text × Json)} {listing : Text}
    (some : parameterNames ((Json.field? fields listing).getD .null) ≠ []) :
    ∃ items, Json.field? fields listing = Option.some (.list items) ∧
      LiteralKeys items (parameterNames ((Json.field? fields listing).getD .null)) := by
  cases value : Json.field? fields listing with
  | none => exact absurd (by rw [value]; rfl) some
  | some value' =>
    rw [value] at some
    obtain ⟨items, list, keys⟩ := exists_items_of_ne_nil some
    exact ⟨items, congrArg Option.some list, keys⟩

/-- Parameters that a provider of ClearURLs strips are the literal keys of one of two lists. -/
theorem ClearUrls.keys_of_mem_parameters {fields : List (Text × Json)} {kind : Kind}
    (member : (kind, names) ∈ parameters fields) :
    names ≠ [] ∧ ∃ items, LiteralKeys items names ∧
      (kind = .params ∧ Json.field? fields (Text.of "rules") = some (.list items) ∨
        kind = .referral ∧ Json.field? fields (Text.of "referralMarketing") = some (.list items)) := by
  obtain ⟨⟨kind', listing⟩, known, found⟩ := List.mem_filterMap.mp member
  dsimp only at found
  split at found
  · cases found
  next some =>
    obtain ⟨rfl, rfl⟩ := Prod.mk.inj (Option.some.inj found)
    obtain ⟨items, listed, keys⟩ := exists_list_of_field some
    refine ⟨some, items, keys, ?_⟩
    simp only [List.mem_cons, Prod.mk.injEq, List.not_mem_nil, or_false] at known
    rcases known with ⟨rfl, rfl⟩ | ⟨rfl, rfl⟩
    · exact .inl ⟨rfl, listed⟩
    · exact .inr ⟨rfl, listed⟩

theorem ClearUrls.listed_of_mem {data : Json} {normalized : Normalized} {r : Rule}
    (given : normalizeDocument data = .ok normalized) (member : r ∈ normalized.rules)
    (strips : r.substitution = none ∨ r.removeParams ≠ []) : Listed .clearUrls data r := by
  rw [@rules_normalizeDocument .clearUrls data normalized given] at member
  obtain ⟨⟨name, provider⟩, among, own⟩ := List.mem_flatMap.mp member
  obtain ⟨normal, made⟩ := exists_normalizeProvider given among
  have inside : r ∈ (numberedOf name provider).map Numbered.rule := by
    rw [← rules_eq_numberedOf made]
    have own : r ∈ rulesIn (normalizeProvider name provider) := own
    rwa [made] at own
  obtain ⟨n, numbered, rfl⟩ := List.mem_map.mp inside
  obtain ⟨fields, url, rfl, -, numbered⟩ := exists_fields_of_mem numbered
  obtain ⟨entry, placed, rfl, kind, -, behaves⟩ := exists_entry_of_mem numbered
  have strip : entry.behaviour = .strip n.rule.removeParams := behaves ▸ exists_names_of_ruleWith strips
  have id : n.rule.id = ruleId (idStart n.provider) entry.kind n.number := kind ▸ n.id_rule
  have listed := List.mem_of_getElem? placed
  rw [entries_eq] at listed
  simp only [List.mem_append, List.mem_map] at listed
  rcases listed with (⟨item, -, rfl⟩ | ⟨item, -, rfl⟩) | ⟨⟨kind', names⟩, pair, rfl⟩
  · cases strip
  · cases strip
  · obtain rfl : names = n.rule.removeParams := Behaviour.strip.inj strip
    obtain ⟨some, items, keys, ⟨rfl, listed⟩ | ⟨rfl, listed⟩⟩ := keys_of_mem_parameters pair
    · exact ⟨n.provider, fields, items, among, own, .rules id listed, some, keys⟩
    · exact ⟨n.provider, fields, items, among, own, .referral id listed, some, keys⟩

/-! ## Linkumori entries -/

namespace Linkumori

variable {entry : Json} {domain : Text} {fields : List (Text × Json)}

/-- What an entry has for a domain: a text, or none, which stands for every host. -/
inductive HasDomain (fields : List (Text × Json)) : Text → Prop
  | absent (none : Json.field? fields (Text.of "domain") = none) : HasDomain fields []
  | null (given : Json.field? fields (Text.of "domain") = some .null) : HasDomain fields []
  | text {domain : Text} (given : Json.field? fields (Text.of "domain") = some (.text domain)) :
      HasDomain fields domain

/-- An entry has a list with a literal key, and nothing but a text for a domain. -/
inductive Strips : Json → Text → List Json → Prop
  | intro {fields : List (Text × Json)} {domain : Text} {items : List Json}
      (listed : Json.field? fields (Text.of "removeParams") = some (.list items)) (host : HasDomain fields domain)
      (key : ∃ key, Json.text key ∈ items ∧ Literal key) : Strips (.object fields) domain items

/-- A warning for an entry shows a value: the entry if it has no list, or what it has in place of a domain. -/
inductive Shows : Json → Json → Prop
  | entry {entry : Json} (unlisted : ∀ fields items, entry = .object fields →
      Json.field? fields (Text.of "removeParams") ≠ some (.list items)) : Shows entry entry
  | domain {fields : List (Text × Json)} {items : List Json} {value : Json}
      (listed : Json.field? fields (Text.of "removeParams") = some (.list items))
      (given : Json.field? fields (Text.of "domain") = some value) (null : value ≠ .null)
      (text : ∀ domain, value ≠ .text domain) : Shows (.object fields) value

/-- An entry whose list holds no literal key is passed over. -/
inductive Passes : Json → Prop
  | intro {fields : List (Text × Json)} {domain : Text} {items : List Json}
      (listed : Json.field? fields (Text.of "removeParams") = some (.list items)) (host : HasDomain fields domain)
      (none : ¬∃ key, Json.text key ∈ items ∧ Literal key) : Passes (.object fields)

theorem HasDomain.domainOf_eq (host : HasDomain fields domain) : domainOf fields = .ok domain := by
  rcases host with none | given | given
  · rw [domainOf, none]
    rfl
  · rw [domainOf, given]
    rfl
  · rw [domainOf, given]
    rfl

/-- An entry is of one of three kinds. -/
theorem exhaustive (entry : Json) :
    (∃ domain items, Strips entry domain items) ∨ (∃ value, Shows entry value) ∨ Passes entry := by
  by_cases list : ∃ fields items, entry = .object fields ∧
      Json.field? fields (Text.of "removeParams") = some (.list items)
  · obtain ⟨fields, items, rfl, listed⟩ := list
    have keyed (domain : Text) (host : HasDomain fields domain) :
        (∃ domain items, Strips (.object fields) domain items) ∨ (∃ value, Shows (.object fields) value) ∨
          Passes (.object fields) := by
      by_cases key : ∃ key, Json.text key ∈ items ∧ Literal key
      · exact .inl ⟨domain, items, .intro listed host key⟩
      · exact .inr (.inr (.intro listed host key))
    cases given : Json.field? fields (Text.of "domain") with
    | none => exact keyed [] (.absent given)
    | some value =>
      cases value with
      | null => exact keyed [] (.null given)
      | text domain => exact keyed domain (.text given)
      | _ => exact .inr (.inl ⟨_, .domain listed given nofun nofun⟩)
  · exact .inr (.inl ⟨entry, .entry fun fields items object listed => list ⟨fields, items, object, listed⟩⟩)

theorem parameterNames_eq_nil_iff :
    parameterNames (.list items) = [] ↔ ¬∃ key, Json.text key ∈ items ∧ Literal key := by
  have keys := literalKeys_parameterNames items
  simp only [List.eq_nil_iff_forall_not_mem, keys.mem_iff, not_exists]

theorem ruleId_ne_nil (provider domain : Text) : ruleId provider domain ≠ [] := by
  have middle : Text.of "-params-" ≠ [] := by decide
  simp [ruleId, middle]

theorem patternOf?_domainPattern (domain : Text) :
    patternOf? (.text (domainPattern domain)) = some (domainPattern domain) := by
  obtain ⟨p, reads, -⟩ := Pattern.search_domainPattern (some domain)
  have some : domainPattern domain ≠ [] := by
    unfold domainPattern
    dsimp only
    split
    · decide
    · exact List.append_ne_nil_of_left_ne_nil (List.append_ne_nil_of_left_ne_nil (by decide) _) _
  exact patternOf?_eq_some_iff.mpr ⟨rfl, some, p, reads⟩

/-- An entry that strips gives one rule, whatever its domain is. -/
theorem normalizeEntry_of_strips (strips : Strips entry domain items) (provider : Text) :
    normalizeEntry provider entry = .ok (.rule (ruleWith .linkumori (ruleId provider domain)
      (domainPattern domain) (.strip (parameterNames (.list items))))) := by
  obtain ⟨listed, host, key⟩ := strips
  have some : parameterNames (.list items) ≠ [] := fun none => parameterNames_eq_nil_iff.mp none key
  have proper : (Behaviour.strip (parameterNames (.list items))).Proper :=
    ⟨some, fun name member => ((literalKeys_parameterNames items).mem_iff name |>.mp member).2.nonempty⟩
  simp only [normalizeEntry, listed, host.domainOf_eq]
  exact makeRule_of_pattern (ruleId_ne_nil provider domain) proper (patternOf?_domainPattern domain)

theorem normalizeEntry_of_passes (passes : Passes entry) (provider : Text) :
    normalizeEntry provider entry = .ok .empty := by
  obtain ⟨listed, host, none⟩ := passes
  simp only [normalizeEntry, listed, host.domainOf_eq, parameterNames_eq_nil_iff.mpr none]

theorem normalizeEntry_of_shows (shows : Shows entry value) (provider : Text) :
    ∃ why shown, normalizeEntry provider entry = showing why value shown := by
  cases shows with
  | entry unlisted =>
    refine ⟨"linkumori: entry without removeParams skipped: ", value.quoted.take shownLength, ?_⟩
    unfold normalizeEntry
    dsimp only
    split
    next fields =>
      split
      next items listed => exact absurd listed (unlisted fields items rfl)
      next => rfl
    next => rfl
  | @domain fields items _ listed given null text =>
    refine ⟨"linkumori: entry with non-string domain skipped: ", value.quoted, ?_⟩
    have refused : domainOf fields = .error value := by
      rw [domainOf, given]
      cases value with
      | null => exact absurd rfl null
      | text domain => exact absurd rfl (text domain)
      | _ => rfl
    simp only [normalizeEntry, listed, refused]

theorem normalizeEntry_eq_rule_iff (provider : Text) (entry : Json) (r : Rule) :
    normalizeEntry provider entry = .ok (.rule r) ↔ ∃ domain items, Strips entry domain items ∧
      r = ruleWith .linkumori (ruleId provider domain) (domainPattern domain)
        (.strip (parameterNames (.list items))) := by
  constructor
  · intro given
    rcases exhaustive entry with ⟨domain, items, strips⟩ | ⟨value, shows⟩ | passes
    · rw [normalizeEntry_of_strips strips] at given
      refine ⟨domain, items, strips, ?_⟩
      simpa [Normalized.rule] using given.symm
    · obtain ⟨why, shown, same⟩ := normalizeEntry_of_shows shows provider
      have none := rulesIn_showing why value shown
      rw [← same, given] at none
      cases none
    · rw [normalizeEntry_of_passes passes] at given
      cases given
  · rintro ⟨domain, items, strips, rfl⟩
    exact normalizeEntry_of_strips strips provider

theorem normalizeEntry_eq_error_iff (provider : Text) (entry : Json) (f : Failure) :
    normalizeEntry provider entry = .error f ↔
      f = Error.integerTooLong.atOnce ∧ ∃ value, Shows entry value ∧ value.isWritable = false := by
  constructor
  · intro failed
    rcases exhaustive entry with ⟨domain, items, strips⟩ | ⟨value, shows⟩ | passes
    · rw [normalizeEntry_of_strips strips] at failed
      cases failed
    · obtain ⟨why, shown, same⟩ := normalizeEntry_of_shows shows provider
      rw [same, showing] at failed
      split at failed
      · cases failed
      next unwritable => exact ⟨(Except.error.inj failed).symm, value, shows, by simpa using unwritable⟩
    · rw [normalizeEntry_of_passes passes] at failed
      cases failed
  · rintro ⟨rfl, value, shows, unwritable⟩
    obtain ⟨why, shown, same⟩ := normalizeEntry_of_shows shows provider
    rw [same, showing, unwritable, if_neg Bool.false_ne_true]

/-- An entry that does not strip gives no rule. -/
theorem rulesIn_of_not_strips (nothing : ¬∃ domain items, Strips entry domain items) (provider : Text) :
    rulesIn (normalizeEntry provider entry) = [] := by
  rcases exhaustive entry with strips | ⟨value, shows⟩ | passes
  · exact absurd strips nothing
  · obtain ⟨why, shown, same⟩ := normalizeEntry_of_shows shows provider
    rw [same, rulesIn_showing]
  · rw [normalizeEntry_of_passes passes]
    rfl

theorem listed_of_mem {data : Json} {normalized : Normalized} {r : Rule}
    (given : normalizeDocument data = .ok normalized) (member : r ∈ normalized.rules) :
    Listed .linkumori data r := by
  rw [@rules_normalizeDocument .linkumori data normalized given] at member
  obtain ⟨⟨name, entry⟩, among, own⟩ := List.mem_flatMap.mp member
  have inside : r ∈ rulesIn (Provider.linkumori.normalizeEntry name entry) := own
  have own : r ∈ rulesIn (normalizeEntry name entry) := own
  by_cases strips : ∃ domain items, Strips entry domain items
  · obtain ⟨domain, items, strips⟩ := strips
    rw [normalizeEntry_of_strips strips] at own
    obtain rfl := List.mem_singleton.mp own
    obtain @⟨fields, _, _, listed, -, key⟩ := strips
    exact ⟨name, fields, items, among, inside, .removeParams listed, fun none => parameterNames_eq_nil_iff.mp none key,
      literalKeys_parameterNames items⟩
  · rw [rulesIn_of_not_strips strips] at own
    cases own

end Linkumori

/-! ## All documents -/

/-- A rule of a provider that strips parameters names the literal keys of a list in the entry that gives it, all of
them and nothing else. An entry of Linkumori gives one rule, said in full, if its list holds a literal key and it has
nothing but a text for a domain, whichever text that is; any other entry gives none. It is refused only if the value
that a warning is to show holds an integer of too many digits. Names that were kept once are kept again. -/
theorem parameters_literal (provider : Provider) (data : Json) (name : Text) (entry value : Json) :
    (∀ normalized, provider.normalizeDocument data = .ok normalized → ∀ r ∈ normalized.rules,
        r.substitution = none ∨ r.removeParams ≠ [] → Listed provider data r) ∧
      (∀ r, Linkumori.normalizeEntry name entry = .ok (.rule r) ↔
        ∃ domain items, Linkumori.Strips entry domain items ∧
          r = ruleWith .linkumori (Linkumori.ruleId name domain) (domainPattern domain)
            (.strip (parameterNames (.list items)))) ∧
      ((¬∃ domain items, Linkumori.Strips entry domain items) →
        rulesIn (Linkumori.normalizeEntry name entry) = []) ∧
      (∀ f, Linkumori.normalizeEntry name entry = .error f ↔
        f = Error.integerTooLong.atOnce ∧ ∃ shown, Linkumori.Shows entry shown ∧ shown.isWritable = false) ∧
      parameterNames (.list ((parameterNames value).map .text)) = parameterNames value := by
  refine ⟨fun normalized given r member strips => ?_, ?_, ?_, ?_, parameterNames_again value⟩
  · cases provider with
    | clearUrls => exact ClearUrls.listed_of_mem given member strips
    | linkumori => exact Linkumori.listed_of_mem given member
  · exact Linkumori.normalizeEntry_eq_rule_iff name entry
  · exact fun nothing => Linkumori.rulesIn_of_not_strips nothing name
  · exact Linkumori.normalizeEntry_eq_error_iff name entry

/-- A list with a path, an integer and a key that stands there twice. -/
def repeatedDocument : Json :=
  .object [(Text.of "providers", .object [(Text.of "p", .object [(Text.of "urlPattern", .text (Text.of "u")),
    (Text.of "rules", .list [.text (Text.of "b"), .text (Text.of "/x"), .int 5, .text (Text.of "a"),
      .text (Text.of "b")])])])]

/-- The keys of a list in their order, and an entry of Linkumori that cannot be shown. -/
theorem parameters_literal_repeated :
    Listed .clearUrls repeatedDocument (ruleWith .clearUrls (Text.of "clearurls-p-params-0") (Text.of "u")
        (.strip [Text.of "b", Text.of "a"])) ∧
      Linkumori.normalizeEntry Provider.linkumori.name (.int (16 ^ 4000)) =
        .error Error.integerTooLong.atOnce := by
  obtain ⟨documents, -, -, refused, -⟩ := parameters_literal .clearUrls repeatedDocument
    Provider.linkumori.name (.int (16 ^ 4000)) .null
  constructor
  · let r : Rule := ruleWith .clearUrls (Text.of "clearurls-p-params-0") (Text.of "u")
      (.strip [Text.of "b", Text.of "a"])
    have given : Provider.clearUrls.normalizeDocument repeatedDocument = .ok (.rule r) := by cbv
    exact documents _ given r List.mem_cons_self (.inl rfl)
  · have noObject (fields : List (Text × Json)) : Json.int (16 ^ 4000) ≠ .object fields := Json.noConfusion
    exact (refused _).mpr ⟨rfl, _, .entry fun fields _ same => absurd same (noObject fields), by decide +kernel⟩

end UrlRules.Provider
