import UrlRules.Config.Settings
import UrlRules.Proofs.Config.Sources

/-!
# Reading settings

Settings that are read are what the document says about them, or what is usual (`Typed`). The bound on redirects is an
integer from one on, the timeout a number greater than zero, and every source reads its entry. Two timeouts pass that
are no such number: what is not a number, and the truth value true, which is taken for one second. A document is
refused with an error that is reported, except where it `Escapes` (`typed_or_refused`).
-/
namespace UrlRules

namespace Binary64

/-- A positive integer does not vanish at the exponent it is rounded at. -/
theorem one_le_scaled {num : Nat} (positive : 0 < num) :
    1 ≤ (scaled num 1 (exponentOf num 1)).1 / (scaled num 1 (exponentOf num 1)).2 := by
  have small : exponentOf num 1 ≤ (num.log2 : Int) := by
    unfold exponentOf
    dsimp only
    have one : (Nat.log2 1 : Int) = 0 := by decide
    have least : minExponent ≤ (num.log2 : Int) := by unfold minExponent; omega
    split <;> omega
  unfold scaled
  split
  next above =>
    have bits : (exponentOf num 1).toNat ≤ num.log2 := by omega
    have power : Nat.pow 2 (exponentOf num 1).toNat ≤ num :=
      (Nat.pow_le_pow_right (by decide) bits).trans (Nat.log2_self_le positive.ne')
    rw [Nat.one_mul]
    exact (Nat.one_le_div_iff (Nat.pow_pos (by decide))).mpr power
  next =>
    rw [Nat.div_one]
    exact Nat.mul_pos positive (Nat.pow_pos (by decide))

theorem le_roundedDiv (num den : Nat) : num / den ≤ roundedDiv num den := by
  unfold roundedDiv
  dsimp only
  split
  · exact Nat.le_refl _
  split
  · exact Nat.le_succ _
  split
  · exact Nat.le_refl _
  · exact Nat.le_succ _

/-- An integer that is positive is so as a number too. -/
theorem isPositive_ofInt {n : Int} (positive : 0 < n) : (ofInt n).isPositive = true := by
  have some : 0 < n.natAbs := by omega
  have negative : decide (n < 0) = false := by simpa using Int.le_of_lt positive
  have rounded := (one_le_scaled some).trans (le_roundedDiv _ _)
  unfold ofInt ofRatio
  rw [if_neg some.ne', negative]
  dsimp only
  split
  · split <;> rfl
  split
  · rfl
  · simpa [isPositive] using Nat.one_le_iff_ne_zero.mp rounded

end Binary64

namespace Config.Settings

open Text

variable {homes : Homes} {directory : Path} {document value : Value} {data entries : List (Value × Value)}
  {part field : String} {usual : Text} {p : Path} {s : Settings} {e : Error}

/-! ## What a document says -/

def entriesIn : Value → List (Value × Value)
  | .mapping entries => entries
  | _ => []

/-- The entries of a section, none if it is not there. -/
def sectionIn (document : Value) (part : String) : List (Value × Value) :=
  match Value.lookup? (entriesIn document) (Text.of part) with
  | some value => entriesIn value
  | none => []

/-- What a document says about a setting. -/
def given? (document : Value) (part field : String) : Option Value :=
  Value.lookup? (sectionIn document part) (Text.of field)

def sourcesIn (document : Value) : List Value :=
  match Value.lookup? (entriesIn document) "sources" with
  | some (.list values) => values
  | _ => []

theorem entriesOf_eq_ok (read : entriesOf document = .ok data) : entriesIn document = data := by
  unfold entriesOf at read
  split at read <;> cases read <;> rfl

theorem sectionOf_eq_ok (read : sectionOf (entriesIn document) part = .ok entries) :
    sectionIn document part = entries := by
  unfold sectionOf at read
  unfold sectionIn
  split at read
  next absent =>
    obtain rfl := Except.ok.inj read
    rw [absent]
  next own given =>
    obtain rfl := Except.ok.inj read
    rw [given]
    rfl
  next value noMapping given =>
    split at read
    · cases read
    obtain rfl := Except.ok.inj read
    rw [given]
    cases value with
    | mapping own => exact absurd rfl (noMapping own)
    | _ => rfl

theorem sourcesIn_eq {values : List Value}
    (whole : (Value.lookup? (entriesIn document) "sources").getD (.list []) = .list values) :
    sourcesIn document = values := by
  unfold sourcesIn
  cases given : Value.lookup? (entriesIn document) "sources" with
  | none => simpa [given] using whole
  | some value =>
    obtain rfl : value = .list values := by simpa [given] using whole
    rfl

/-! ## What is read -/

/-- The seconds that a value is read as. -/
inductive Seconds : Value → Binary64 → Prop
  | integer {n : Int} (positive : 0 < n) (finite : (Binary64.ofInt n).isFinite = true) :
      Seconds (.int n) (.ofInt n)
  | number {x : Binary64} (positive : x.isPositive = true) : Seconds (.float x) x
  /-- What is not a number is neither zero nor below. -/
  | notANumber : Seconds (.float .notANumber) .notANumber
  /-- A truth value is taken for an integer. -/
  | truth : Seconds (.bool true) (.ofInt 1)

theorem seconds_of_secondsOf {x : Binary64} (accepted : isTimeout value = true) (read : secondsOf value = .ok x) :
    Seconds value x := by
  cases value with
  | bool b =>
    obtain rfl : b = true := accepted
    obtain rfl := Except.ok.inj read
    exact .truth
  | int n =>
    unfold secondsOf at read
    dsimp only at read
    split at read
    next finite =>
      obtain rfl := Except.ok.inj read
      exact .integer (by simpa [isTimeout] using accepted) finite
    next => cases read
  | float y =>
    obtain rfl := Except.ok.inj read
    cases y with
    | notANumber => exact .notANumber
    | infinite | finite => exact .number accepted
  | _ => cases accepted

/-- Seconds are a number greater than zero, unless what was given is no number. -/
theorem Seconds.isPositive {x : Binary64} (seconds : Seconds value x) :
    x.isPositive = true ∨ value = .float .notANumber := by
  cases seconds with
  | integer positive _ => exact .inl (Binary64.isPositive_ofInt positive)
  | number positive => exact .inl positive
  | notANumber => exact .inr rfl
  | truth => exact .inl (Binary64.isPositive_ofInt Int.one_pos)

/-- A path is that of a setting, meant from a directory. -/
def Meant (homes : Homes) (directory : Path) (text : Text) (p : Path) : Prop :=
  ∃ own, expandHome homes (Path.ofText text) = .ok own ∧ directory.join own = p

/-- Settings are what a document says. -/
structure Typed (homes : Homes) (directory : Path) (document : Value) (s : Settings) : Prop where
  redirects : given? document "resolver" "max_redirects" = some (.int s.maxRedirects) ∨
    given? document "resolver" "max_redirects" = none ∧ s.maxRedirects = usualRedirects
  atLeastOne : 1 ≤ s.maxRedirects
  timeout : Seconds ((given? document "fetch" "timeout").getD (.float usualTimeout)) s.fetchTimeout
  positive : s.fetchTimeout.isPositive = true ∨ given? document "fetch" "timeout" = some (.float .notANumber)
  sources : List.Forall₂ Source.Reads (sourcesIn document) s.sources
  distinct : (s.sources.map (·.name)).Nodup
  database : Meant homes directory (textAt (sectionIn document "storage") "db_path" usualDatabase) s.database
  bundleOutput : Meant homes directory (textAt (sectionIn document "bundle") "output" usualOutput) s.bundleOutput
  sourcesDirectory : Meant homes directory
    (textAt (sectionIn document "bundle") "sources_dir" usualSourcesDirectory) s.sourcesDirectory
  bundleName : textAt (sectionIn document "bundle") "name" usualName = s.bundleName
  bundleDescription : textAt (sectionIn document "bundle") "description" usualDescription = s.bundleDescription

theorem redirectsOf_eq_ok {n : Int} (read : redirectsOf entries = .ok n) :
    (Value.lookup? entries "max_redirects" = some (.int n) ∨
      Value.lookup? entries "max_redirects" = none ∧ n = usualRedirects) ∧ 1 ≤ n := by
  unfold redirectsOf at read
  split at read
  next absent =>
    obtain rfl := Except.ok.inj read
    exact ⟨.inr ⟨absent, rfl⟩, by decide⟩
  next given =>
    split at read
    next positive =>
      obtain rfl := Except.ok.inj read
      exact ⟨.inl given, positive⟩
    next => cases read
  next => cases read

theorem timeoutOf_eq_ok (read : timeoutOf entries = .ok value) :
    (Value.lookup? entries "timeout").getD (.float usualTimeout) = value ∧ isTimeout value = true := by
  unfold timeoutOf at read
  split at read
  next absent =>
    obtain rfl := Except.ok.inj read
    rw [absent]
    exact ⟨rfl, by decide⟩
  next given =>
    split at read
    next accepted =>
      obtain rfl := Except.ok.inj read
      rw [given]
      exact ⟨rfl, accepted⟩
    next => cases read

theorem meant_of_pathOf (read : pathOf homes directory entries field usual = .ok p) :
    Meant homes directory (textAt entries field usual) p := by
  obtain ⟨text, written, read⟩ := bind_eq_ok.mp read
  obtain ⟨own, expanded, read⟩ := bind_eq_ok.mp read
  obtain rfl := Except.ok.inj read
  exact ⟨own, writtenAt_eq_ok written ▸ expanded, rfl⟩

theorem reads_of_sources {sources : List Source}
    (listed : Source.listOf ((Value.lookup? (entriesIn document) "sources").getD (.list [])) = .ok sources) :
    List.Forall₂ Source.Reads (sourcesIn document) sources ∧ (sources.map (·.name)).Nodup := by
  obtain ⟨values, whole, all, distinct⟩ := Source.reads_of_listOf listed
  exact ⟨sourcesIn_eq whole ▸ all, distinct⟩

/-- Seconds that are read are a number greater than zero, unless a document gives what is not a number. -/
theorem Seconds.isPositive_of_given {x : Binary64}
    (seconds : Seconds ((given? document part field).getD (.float usualTimeout)) x) :
    x.isPositive = true ∨ given? document part field = some (.float .notANumber) := by
  refine seconds.isPositive.imp_right fun noNumber => ?_
  cases given : given? document part field with
  | none =>
    rw [given] at noNumber
    have same : usualTimeout = .notANumber := Value.float.inj noNumber
    exact absurd same (by decide)
  | some value => simpa [given] using noNumber

theorem typed_of_ofValue (read : ofValue homes directory document = .ok s) : Typed homes directory document s := by
  -- One step for each thing that is read; what it says about the document is noted as soon as it is known.
  unfold ofValue at read
  obtain ⟨data, root, read⟩ := bind_eq_ok.mp read
  obtain rfl := entriesOf_eq_ok root
  obtain ⟨resolver, own, read⟩ := bind_eq_ok.mp read
  obtain rfl := sectionOf_eq_ok own
  obtain ⟨storage, own, read⟩ := bind_eq_ok.mp read
  obtain rfl := sectionOf_eq_ok own
  obtain ⟨bundle, own, read⟩ := bind_eq_ok.mp read
  obtain rfl := sectionOf_eq_ok own
  obtain ⟨fetch, own, read⟩ := bind_eq_ok.mp read
  obtain rfl := sectionOf_eq_ok own
  obtain ⟨maxRedirects, bound, read⟩ := bind_eq_ok.mp read
  obtain ⟨redirects, atLeastOne⟩ := redirectsOf_eq_ok bound
  obtain ⟨timeout, accepted, read⟩ := bind_eq_ok.mp read
  obtain ⟨rfl, accepted⟩ := timeoutOf_eq_ok accepted
  obtain ⟨database, ownDatabase, read⟩ := bind_eq_ok.mp read
  obtain ⟨bundleOutput, ownOutput, read⟩ := bind_eq_ok.mp read
  obtain ⟨sourcesDirectory, ownDirectory, read⟩ := bind_eq_ok.mp read
  obtain ⟨bundleName, ownName, read⟩ := bind_eq_ok.mp read
  obtain ⟨bundleDescription, ownDescription, read⟩ := bind_eq_ok.mp read
  obtain ⟨fetchTimeout, seconds, read⟩ := bind_eq_ok.mp read
  have timeout := seconds_of_secondsOf accepted seconds
  obtain ⟨sources, listed, read⟩ := bind_eq_ok.mp read
  obtain ⟨all, distinct⟩ := reads_of_sources listed
  obtain rfl := Except.ok.inj read
  exact
    { redirects
      atLeastOne
      timeout
      positive := timeout.isPositive_of_given
      sources := all
      distinct
      database := meant_of_pathOf ownDatabase
      bundleOutput := meant_of_pathOf ownOutput
      sourcesDirectory := meant_of_pathOf ownDirectory
      bundleName := writtenAt_eq_ok ownName
      bundleDescription := writtenAt_eq_ok ownDescription }

/-! ## What is refused -/

/-- The settings that are paths. -/
def pathFields : List (String × String) :=
  [("storage", "db_path"), ("bundle", "output"), ("bundle", "sources_dir")]

/-- The settings that are written out as texts. -/
def writtenFields : List (String × String) :=
  pathFields ++ [("bundle", "name"), ("bundle", "description")]

/-- A path is meant from the home of a user, which is not found. -/
inductive Homeless (homes : Homes) (p : Path) : Error → Prop
  | user {user : Text} {names : List Text} {e : Error} (relative : p.isAbsolute = false)
      (first : p.names = (0x7E :: user) :: names) (named : user ≠ []) (failed : homeOf homes user = .error e) :
      Homeless homes p e

/-- A document stops the program with an error that is not reported. -/
inductive Escapes (homes : Homes) (document : Value) : Error → Prop
  | timeoutTooLarge {n : Int} (given : given? document "fetch" "timeout" = some (.int n))
      (large : (Binary64.ofInt n).isFinite = false) : Escapes homes document .timeoutTooLarge
  | tooLong {part field : String} (written : (part, field) ∈ writtenFields)
      (long : (Source.fieldOf (sectionIn document part) field).isWritable = false) :
      Escapes homes document .integerTooLong
  | homeless {part field : String} {value : Value} {e : Error} (isPath : (part, field) ∈ pathFields)
      (given : given? document part field = some value) (homeless : Homeless homes (Path.ofText value.display) e) :
      Escapes homes document e
  | source {entries : List (Value × Value)} {e : Error} (listed : .mapping entries ∈ sourcesIn document)
      (escapes : Source.Escapes entries e) : Escapes homes document e

theorem error_of_entriesOf (failed : entriesOf document = .error e) : Command.isReportedConfig e = true := by
  unfold entriesOf at failed
  split at failed <;> cases failed
  rfl

theorem error_of_sectionOf (failed : sectionOf data part = .error e) : Command.isReportedConfig e = true := by
  unfold sectionOf at failed
  split at failed
  · cases failed
  · cases failed
  · split at failed <;> cases failed
    rfl

theorem error_of_redirectsOf (failed : redirectsOf entries = .error e) : Command.isReportedConfig e = true := by
  unfold redirectsOf at failed
  split at failed
  · cases failed
  · split at failed <;> cases failed
    rfl
  · cases failed
    rfl

theorem error_of_timeoutOf (failed : timeoutOf entries = .error e) : Command.isReportedConfig e = true := by
  unfold timeoutOf at failed
  split at failed
  · cases failed
  · split at failed <;> cases failed
    rfl

theorem homeless_of_expandHome (failed : expandHome homes p = .error e) : Homeless homes p e := by
  unfold expandHome at failed
  split at failed
  next user names relative first =>
    split at failed
    · cases failed
    next named =>
      rcases bind_eq_error.mp failed with unknown | ⟨home, -, stopped⟩
      · exact .user relative first (by simpa using named) unknown
      · cases stopped
  next => cases failed

/-- No usual path is meant from the home of a user who is named. -/
theorem not_homeless_of_usual (isUsual : usual ∈ [usualDatabase, usualOutput, usualSourcesDirectory]) :
    ¬Homeless homes (Path.ofText usual) e := by
  rintro ⟨-, first, named, -⟩
  have plain : ∀ usual ∈ [usualDatabase, usualOutput, usualSourcesDirectory],
      (Path.ofText usual).names.head?.all (fun name => name.head? != some 0x7E || name.tail.isEmpty) = true := by
    decide
  have own := plain usual isUsual
  rw [first] at own
  exact named (by simpa using own)

theorem Escapes.of_writtenAt (isWritten : (part, field) ∈ writtenFields)
    (failed : writtenAt (sectionIn document part) field usual = .error e) : Escapes homes document e := by
  obtain ⟨long, rfl⟩ := Source.writtenAt_eq_error failed
  exact .tooLong isWritten long

theorem Escapes.of_pathOf (isPath : (part, field) ∈ pathFields)
    (isUsual : usual ∈ [usualDatabase, usualOutput, usualSourcesDirectory])
    (failed : pathOf homes directory (sectionIn document part) field usual = .error e) :
    Escapes homes document e := by
  rcases bind_eq_error.mp failed with unwritten | ⟨text, written, failed⟩
  · exact .of_writtenAt (List.mem_append_left _ isPath) unwritten
  rcases bind_eq_error.mp failed with unknown | ⟨path, -, stopped⟩
  · have homeless := homeless_of_expandHome unknown
    unfold writtenAt at written
    split at written
    next value given =>
      obtain ⟨-, rfl⟩ := written_eq_ok.mp written
      exact .homeless isPath given homeless
    next =>
      obtain rfl := Except.ok.inj written
      exact absurd homeless (not_homeless_of_usual isUsual)
  · cases stopped

theorem Escapes.of_secondsOf
    (accepted : isTimeout ((given? document "fetch" "timeout").getD (.float usualTimeout)) = true)
    (failed : secondsOf ((given? document "fetch" "timeout").getD (.float usualTimeout)) = .error e) :
    Escapes homes document e := by
  cases given : given? document "fetch" "timeout" with
  | none =>
    rw [given] at failed
    cases failed
  | some value =>
    rw [given, Option.getD_some] at accepted failed
    cases value with
    | int n =>
      unfold secondsOf at failed
      dsimp only at failed
      split at failed
      · cases failed
      next large =>
        obtain rfl := Except.error.inj failed
        exact .timeoutTooLarge given (by simpa using large)
    | bool | float => cases failed
    | _ => cases accepted

theorem error_of_sources
    (failed : Source.listOf ((Value.lookup? (entriesIn document) "sources").getD (.list [])) = .error e) :
    Command.isReportedConfig e = true ∨ Escapes homes document e := by
  refine (Source.error_of_listOf failed).imp_right fun ⟨values, entries, whole, member, escapes⟩ => ?_
  exact .source (sourcesIn_eq whole ▸ member) escapes

theorem unreported_of_homeOf {user : Text} (failed : homeOf homes user = .error e) :
    Command.isReportedConfig e = false := by
  unfold homeOf at failed
  split at failed
  · obtain rfl := Except.error.inj failed
    rfl
  split at failed
  · obtain rfl := Except.error.inj failed
    rfl
  split at failed
  · cases failed
  · obtain rfl := Except.error.inj failed
    rfl

theorem Escapes.unreported (escapes : Escapes homes document e) : Command.isReportedConfig e = false := by
  cases escapes with
  | timeoutTooLarge | tooLong => rfl
  | homeless _ _ homeless =>
    obtain ⟨-, -, -, failed⟩ := homeless
    exact unreported_of_homeOf failed
  | source _ escapes => exact escapes.unreported

theorem error_of_ofValue : ∀ e, ofValue homes directory document = .error e →
    Command.isReportedConfig e = true ∨ Escapes homes document e := by
  unfold ofValue
  refine error_of_bind (fun e failed => .inl (error_of_entriesOf failed)) fun data root => ?_
  obtain rfl := entriesOf_eq_ok root
  refine error_of_bind (fun e failed => .inl (error_of_sectionOf failed)) fun resolver _ => ?_
  refine error_of_bind (fun e failed => .inl (error_of_sectionOf failed)) fun storage own => ?_
  obtain rfl := sectionOf_eq_ok own
  refine error_of_bind (fun e failed => .inl (error_of_sectionOf failed)) fun bundle own => ?_
  obtain rfl := sectionOf_eq_ok own
  refine error_of_bind (fun e failed => .inl (error_of_sectionOf failed)) fun fetch own => ?_
  obtain rfl := sectionOf_eq_ok own
  refine error_of_bind (fun e failed => .inl (error_of_redirectsOf failed)) fun maxRedirects _ => ?_
  refine error_of_bind (fun e failed => .inl (error_of_timeoutOf failed)) fun timeout accepted => ?_
  obtain ⟨rfl, accepted⟩ := timeoutOf_eq_ok accepted
  refine error_of_bind (fun e failed => .inr (.of_pathOf (by decide) (by simp) failed)) fun database _ => ?_
  refine error_of_bind (fun e failed => .inr (.of_pathOf (by decide) (by simp) failed)) fun bundleOutput _ => ?_
  refine error_of_bind (fun e failed => .inr (.of_pathOf (by decide) (by simp) failed)) fun sourcesDirectory _ => ?_
  refine error_of_bind (fun e failed => .inr (.of_writtenAt (by decide) failed)) fun bundleName _ => ?_
  refine error_of_bind (fun e failed => .inr (.of_writtenAt (by decide) failed)) fun bundleDescription _ => ?_
  refine error_of_bind (fun e failed => .inr (.of_secondsOf accepted failed)) fun fetchTimeout _ => ?_
  exact error_of_bind (fun e failed => error_of_sources failed) fun sources _ e failed => nomatch failed

/-! ## What reading comes to -/

/-- What is read is what the document says. A document is refused with an error that is not reported exactly if
it escapes. A file that holds the text of a document is read as the document is. -/
theorem typed_or_refused (homes : Homes) (directory : Path) (document : Value) :
    (∀ s, ofValue homes directory document = .ok s → Typed homes directory document s) ∧
      (∀ e, ofValue homes directory document = .error e →
        (Command.isReportedConfig e = false ↔ Escapes homes document e)) ∧
      ∀ files path octets text, path.parent = directory → files.contains path = true →
        files.read path = .ok octets → Utf8.decode? octets = some text →
        Yaml.read (withLineFeeds text) = .ok document →
        load files homes path = ofValue homes directory document := by
  refine ⟨fun s read => typed_of_ofValue read, fun e failed => ⟨fun unreported => ?_, Escapes.unreported⟩, ?_⟩
  · rcases error_of_ofValue e failed with reported | escapes
    · rw [reported] at unreported
      cases unreported
    · exact escapes
  · rintro files path octets text rfl there read decoded parsed
    simp [load, ofText, there, read, decoded, parsed]

/-- A document whose timeout is a truth value, with a source whose URL is a number. -/
def lenient : Value :=
  .mapping
    [(.text "fetch", .mapping [(.text "timeout", .bool true)]),
      (.text "sources", .list
        [.mapping [(.text "name", .text "a"), (.text "file", .text "a.json"),
          (.text "provider", .text "clearurls"), (.text "url", .int 5)]])]

/-- A document with a source whose provider is a list. -/
def listedProvider : Value :=
  .mapping
    [(.text "sources", .list
      [.mapping [(.text "name", .text "a"), (.text "file", .text "a.json"), (.text "provider", .list [.text "a"])]])]

/-- Both documents, and a file that is empty. -/
theorem typed_or_refused_lenient :
    let homes : Homes := ⟨⟨[0x2F], ["home"]⟩, fun _ => none⟩
    let directory : Path := ⟨[], []⟩
    let files : Files := ⟨[([Text.of "c.yaml"], .file [])]⟩
    (∃ s, ofValue homes directory lenient = .ok s ∧ Typed homes directory lenient s ∧ s.fetchTimeout = .ofInt 1) ∧
      Escapes homes listedProvider .providerNotKey ∧
      load files homes ⟨[], ["c.yaml"]⟩ = ofValue homes directory .null := by
  refine ⟨⟨_, rfl, (typed_or_refused _ _ _).1 _ rfl, rfl⟩, ?_, ?_⟩
  · exact ((typed_or_refused _ ⟨[], []⟩ _).2.1 _ rfl).mp rfl
  · exact (typed_or_refused _ _ _).2.2 _ _ [] [] rfl rfl rfl rfl rfl

end Config.Settings
end UrlRules
