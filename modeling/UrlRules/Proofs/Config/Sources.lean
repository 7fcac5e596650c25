import UrlRules.Command.Error
import UrlRules.Proofs.Results
import UrlRules.Proofs.Text.Digits

/-!
# Reading configured sources

Sources that are read from a list stand in its order, and each `Reads` its entry: it has a name and a file, and a
provider that is known and has a URL, or none. Their names are distinct (`reads_of_listOf`). A list that is not read is
refused with an error that is reported, unless an entry `Escapes` (`error_of_listOf`).
-/
namespace UrlRules

open Text

/-! ## Texts of values -/

theorem Binary64.magnitudeText_ne_nil (m : Nat) (e : Int) : Binary64.magnitudeText m e ≠ [] := by
  unfold Binary64.magnitudeText
  split
  · decide
  · dsimp only
    split
    · unfold Binary64.positional
      split
      · simp [show Text.of "0." ≠ [] by decide]
      · simp
    · unfold Binary64.scientific
      split <;> simp

theorem Binary64.text_ne_nil (x : Binary64) : x.text ≠ [] := by
  cases x with
  | notANumber => decide
  | infinite negative => cases negative <;> decide
  | finite negative m e => simp [Binary64.text, Binary64.magnitudeText_ne_nil]

namespace Value

theorem quoted_ne_nil (value : Value) : value.quoted ≠ [] := by
  cases value with
  | null => decide
  | bool b => cases b <;> decide
  | int n =>
    have some := (digits_ofNat n.natAbs).1
    unfold quoted ofInt
    split <;> simp [some]
  | float x => simpa [quoted] using x.text_ne_nil
  | text s => simp [quoted, Text.quoted]
  | octets bytes => simp [quoted, quotedOctets]
  | date d => simp [quoted, callText]
  | instant t => simp [quoted, quotedInstant, callText]
  | list items => simp [quoted]
  | pair first second => simp [quoted]
  | set members =>
    unfold quoted
    split
    · decide
    · simp
  | mapping entries => simp [quoted]

/-- The text of a value that counts as given is not empty. -/
theorem display_ne_nil {value : Value} (given : value.isTruthy = true) : value.display ≠ [] := by
  cases value with
  | text s => simpa [display, isTruthy] using given
  | date d => simp [display, dateText]
  | instant t => simp [display, instantText, dateText]
  | null | bool | int | float | octets | list | pair | set | mapping => exact quoted_ne_nil _

end Value

namespace Config

variable {value : Value} {entries : List (Value × Value)} {text : Text} {e : Error}

theorem written_eq_ok : written value = .ok text ↔ value.isWritable = true ∧ value.display = text := by
  cases writable : value.isWritable <;> simp [written, writable]

theorem written_eq_error : written value = .error e ↔ value.isWritable = false ∧ e = .integerTooLong := by
  cases writable : value.isWritable <;> simp [written, writable, eq_comm]

/-- The text of what stands under a name, or what it usually is. -/
def textAt (entries : List (Value × Value)) (field : String) (usual : Text) : Text :=
  match Value.lookup? entries (Text.of field) with
  | some value => value.display
  | none => usual

theorem writtenAt_eq_ok {field : String} {usual : Text} (read : writtenAt entries field usual = .ok text) :
    textAt entries field usual = text := by
  cases given : Value.lookup? entries (Text.of field) with
  | none =>
    rw [writtenAt, given] at read
    rw [textAt, given]
    exact Except.ok.inj read
  | some value =>
    rw [writtenAt, given] at read
    rw [textAt, given]
    exact (written_eq_ok.mp read).2

namespace Source

variable {seen : List Text} {index : Nat} {values : List Value} {source : Source} {sources : List Source}
  {name : Text} {provider : Option Text}

theorem writtenAt_eq_error {field : String} {usual : Text} (failed : writtenAt entries field usual = .error e) :
    (fieldOf entries field).isWritable = false ∧ e = .integerTooLong := by
  unfold writtenAt at failed
  split at failed
  next value given =>
    rw [fieldOf, given]
    exact written_eq_error.mp failed
  next => cases failed

theorem requiredOf_eq_ok {field : String} (required : requiredOf entries field index = .ok value) :
    fieldOf entries field = value ∧ value.isTruthy = true := by
  unfold requiredOf at required
  dsimp only at required
  split at required
  next given =>
    obtain rfl := Except.ok.inj required
    exact ⟨rfl, given⟩
  next => cases required

/-! ## What is read -/

/-- The provider that the entries of a source give it. -/
inductive Provided (entries : List (Value × Value)) : Option Text → Prop
  /-- The source is maintained by hand. -/
  | byHand (absent : fieldOf entries "provider" = .null) : Provided entries none
  | known {p url : Text} (given : fieldOf entries "provider" = .text p) (known : (Provider.ofName? p).isSome = true)
      (located : fieldOf entries "url" = .text url) (nonempty : url ≠ []) : Provided entries (some p)
  /-- What counts as given is taken for a URL even if it is no text. -/
  | unlocated {p : Text} (given : fieldOf entries "provider" = .text p) (known : (Provider.ofName? p).isSome = true)
      (located : (fieldOf entries "url").isTruthy = true) (noText : ∀ url, fieldOf entries "url" ≠ .text url) :
      Provided entries (some p)

theorem provided_of_providerOf (read : providerOf entries name = .ok provider) : Provided entries provider := by
  unfold providerOf at read
  split at read
  next absent =>
    obtain rfl := Except.ok.inj read
    exact .byHand absent
  next p given =>
    split at read
    · cases read
    next known =>
    split at read
    · cases read
    next located =>
    obtain rfl := Except.ok.inj read
    have known : (Provider.ofName? p).isSome = true := by simpa [Option.isSome_iff_ne_none] using known
    have located : (fieldOf entries "url").isTruthy = true := by simpa using located
    by_cases isText : ∃ url, fieldOf entries "url" = .text url
    · obtain ⟨url, same⟩ := isText
      exact .known given known same (by simpa [same, Value.isTruthy] using located)
    · exact .unlocated given known located (not_exists.mp isText)
  next =>
    split at read
    · obtain ⟨_, -, stopped⟩ := bind_eq_ok.mp read
      cases stopped
    · cases read

/-- A source is what its entry says. -/
inductive Reads : Value → Source → Prop
  | entry {entries : List (Value × Value)} {source : Source}
      (name : source.name = (fieldOf entries "name").display) (named : source.name ≠ [])
      (file : source.file = (fieldOf entries "file").display) (filed : source.file ≠ [])
      (provided : Provided entries source.provider) (url : source.url = fieldOf entries "url")
      (description : source.description = textAt entries "description" []) : Reads (.mapping entries) source

theorem reads_of_ofValue (read : ofValue seen index value = .ok source) :
    Reads value source ∧ source.name ∉ seen := by
  unfold ofValue at read
  split at read
  next entries =>
    obtain ⟨nameValue, required, read⟩ := bind_eq_ok.mp read
    obtain ⟨rfl, named⟩ := requiredOf_eq_ok required
    obtain ⟨fileValue, required, read⟩ := bind_eq_ok.mp read
    obtain ⟨rfl, filed⟩ := requiredOf_eq_ok required
    obtain ⟨name, own, read⟩ := bind_eq_ok.mp read
    obtain ⟨-, rfl⟩ := written_eq_ok.mp own
    split at read
    · cases read
    next unseen =>
      obtain ⟨provider, provided, read⟩ := bind_eq_ok.mp read
      obtain ⟨file, own, read⟩ := bind_eq_ok.mp read
      obtain ⟨-, rfl⟩ := written_eq_ok.mp own
      obtain ⟨description, described, read⟩ := bind_eq_ok.mp read
      obtain rfl := Except.ok.inj read
      have fresh : (fieldOf entries "name").display ∉ seen := by simpa using unseen
      exact ⟨.entry rfl (Value.display_ne_nil named) rfl (Value.display_ne_nil filed) (provided_of_providerOf provided)
        rfl (writtenAt_eq_ok described).symm, fresh⟩
  next => cases read

theorem reads_of_ofValues (read : ofValues seen index values = .ok sources) :
    List.Forall₂ Reads values sources ∧ (sources.map (·.name)).Nodup ∧ ∀ s ∈ sources, s.name ∉ seen := by
  induction values generalizing seen index sources with
  | nil =>
    obtain rfl := Except.ok.inj read
    simp
  | cons value values ih =>
    obtain ⟨first, own, read⟩ := bind_eq_ok.mp read
    obtain ⟨others, rest, whole⟩ := bind_eq_ok.mp read
    obtain rfl := Except.ok.inj whole
    obtain ⟨reads, fresh⟩ := reads_of_ofValue own
    obtain ⟨all, distinct, unseen⟩ := ih rest
    exact ⟨.cons reads all, nodup_of_unseen_iff.mpr ⟨fresh, distinct, unseen⟩⟩

/-- Sources that are listed stand in the order of their entries, and have names of their own. -/
theorem reads_of_listOf (listed : listOf value = .ok sources) :
    ∃ values, value = .list values ∧ List.Forall₂ Reads values sources ∧ (sources.map (·.name)).Nodup := by
  unfold listOf at listed
  split at listed
  next values =>
    obtain ⟨all, distinct, -⟩ := reads_of_ofValues listed
    exact ⟨values, rfl, all, distinct⟩
  next => cases listed

theorem nodup_of_listOf (listed : listOf value = .ok sources) : (sources.map (·.name)).Nodup := by
  obtain ⟨_, -, -, distinct⟩ := reads_of_listOf listed
  exact distinct

/-! ## What is refused -/

/-- The fields of an entry that are written out as texts. -/
def writtenFields : List String := ["name", "file", "provider", "description"]

/-- The entries of a source stop the program with an error that is not reported. -/
inductive Escapes (entries : List (Value × Value)) : Error → Prop
  | tooLong (field : String) (written : field ∈ writtenFields)
      (long : (fieldOf entries field).isWritable = false) : Escapes entries .integerTooLong
  /-- The provider cannot be looked for among names. -/
  | incomparable (other : isComparable (fieldOf entries "provider") = false) : Escapes entries .providerNotKey

theorem Escapes.unreported (escapes : Escapes entries e) : Command.isReportedConfig e = false := by
  cases escapes <;> rfl

theorem Escapes.of_written (field : String) (isWritten : field ∈ writtenFields)
    (failed : written (fieldOf entries field) = .error e) : Escapes entries e := by
  obtain ⟨long, rfl⟩ := written_eq_error.mp failed
  exact .tooLong field isWritten long

theorem error_of_requiredOf {field : String} (failed : requiredOf entries field index = .error e) :
    Command.isReportedConfig e = true := by
  unfold requiredOf at failed
  dsimp only at failed
  split at failed
  · cases failed
  · obtain rfl := Except.error.inj failed
    rfl

theorem error_of_providerOf (failed : providerOf entries name = .error e) :
    Command.isReportedConfig e = true ∨ Escapes entries e := by
  unfold providerOf at failed
  split at failed
  · cases failed
  next p given =>
    split at failed
    · obtain rfl := Except.error.inj failed
      exact .inl rfl
    split at failed
    · obtain rfl := Except.error.inj failed
      exact .inl rfl
    · cases failed
  next =>
    split at failed
    · rcases bind_eq_error.mp failed with unwritten | ⟨text, -, unknown⟩
      · exact .inr (.of_written "provider" (by decide) unwritten)
      · obtain rfl := Except.error.inj unknown
        exact .inl rfl
    next other =>
      obtain rfl := Except.error.inj failed
      exact .inr (.incomparable (by simpa using other))

theorem error_of_mapping : ∀ e, ofValue seen index (.mapping entries) = .error e →
    Command.isReportedConfig e = true ∨ Escapes entries e := by
  unfold ofValue
  dsimp only
  refine error_of_bind (fun e failed => .inl (error_of_requiredOf failed)) fun nameValue named => ?_
  refine error_of_bind (fun e failed => .inl (error_of_requiredOf failed)) fun fileValue filed => ?_
  obtain ⟨rfl, -⟩ := requiredOf_eq_ok named
  obtain ⟨rfl, -⟩ := requiredOf_eq_ok filed
  refine error_of_bind (fun e failed => .inr (.of_written "name" (by decide) failed)) fun name _ => ?_
  split
  · intro e failed
    obtain rfl := Except.error.inj failed
    exact .inl rfl
  refine error_of_bind (fun e failed => error_of_providerOf failed) fun provider _ => ?_
  refine error_of_bind (fun e failed => .inr (.of_written "file" (by decide) failed)) fun file _ => ?_
  refine error_of_bind (fun e failed => ?_) fun description _ e failed => nomatch failed
  obtain ⟨long, rfl⟩ := writtenAt_eq_error failed
  exact .inr (.tooLong "description" (by decide) long)

theorem error_of_ofValue (failed : ofValue seen index value = .error e) :
    Command.isReportedConfig e = true ∨ ∃ entries, value = .mapping entries ∧ Escapes entries e := by
  cases value with
  | mapping entries => exact (error_of_mapping e failed).imp_right fun escapes => ⟨entries, rfl, escapes⟩
  | _ =>
    obtain rfl := Except.error.inj failed
    exact .inl rfl

theorem error_of_ofValues (failed : ofValues seen index values = .error e) :
    Command.isReportedConfig e = true ∨ ∃ entries, .mapping entries ∈ values ∧ Escapes entries e := by
  induction values generalizing seen index with
  | nil => cases failed
  | cons value values ih =>
    rcases bind_eq_error.mp failed with own | ⟨first, -, failed⟩
    · rcases error_of_ofValue own with reported | ⟨entries, rfl, escapes⟩
      · exact .inl reported
      · exact .inr ⟨entries, List.mem_cons_self .., escapes⟩
    rcases bind_eq_error.mp failed with rest | ⟨others, -, stopped⟩
    · rcases ih rest with reported | ⟨entries, member, escapes⟩
      · exact .inl reported
      · exact .inr ⟨entries, List.mem_cons_of_mem _ member, escapes⟩
    · cases stopped

theorem error_of_listOf (failed : listOf value = .error e) :
    Command.isReportedConfig e = true ∨
      ∃ values entries, value = .list values ∧ .mapping entries ∈ values ∧ Escapes entries e := by
  unfold listOf at failed
  split at failed
  next values =>
    exact (error_of_ofValues failed).imp_right fun ⟨entries, member, escapes⟩ =>
      ⟨values, entries, rfl, member, escapes⟩
  next =>
    obtain rfl := Except.error.inj failed
    exact .inl rfl

end Source
end Config
end UrlRules
