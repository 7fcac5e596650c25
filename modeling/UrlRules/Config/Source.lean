import UrlRules.Config.Error

/-!
# Configured sources

A source of rules is a file. One with a provider is filled from the provider's document at a URL; one
without is maintained by hand. Sources are listed by falling priority, each name once.
-/
namespace UrlRules.Config

open Text

/-- The text of a value, if it can be written. -/
def written (value : Value) : Except Error Text :=
  if value.isWritable then .ok value.display else .error .integerTooLong

/-- The text of what stands under a name, or what it usually is. -/
def writtenAt (entries : List (Value × Value)) (name : String) (usual : Text) : Except Error Text :=
  match Value.lookup? entries (Text.of name) with
  | some value => written value
  | none => .ok usual

structure Source where
  name : Text
  file : Text
  provider : Option Text
  url : Value
  description : Text
  deriving Repr, Inhabited

namespace Source

/-- Whether the source is filled from a document that is fetched. -/
def isRemote (s : Source) : Bool :=
  s.provider.isSome &&
    (match s.url with
     | .null => false
     | _ => true)

/-- A field of an entry, null if it is absent. -/
def fieldOf (entries : List (Value × Value)) (name : String) : Value :=
  (Value.lookup? entries (Text.of name)).getD .null

/-- A field that has to be given. -/
def requiredOf (entries : List (Value × Value)) (name : String) (index : Nat) :
    Except Error Value :=
  let value := fieldOf entries name
  if value.isTruthy then .ok value else .error (.missingField (Text.of name) index)

/-- Whether a value can be looked for among texts. A set is as good as a key there. -/
def isComparable : Value → Bool
  | .set _ => true
  | value => value.isKey

/-- The provider of an entry. -/
def providerOf (entries : List (Value × Value)) (name : Text) : Except Error (Option Text) :=
  match fieldOf entries "provider" with
  | .null => .ok none
  | .text p =>
      if (Provider.ofName? p).isNone then .error (.unknownProvider p name)
      else if !(fieldOf entries "url").isTruthy then .error (.noUrl name)
      else .ok (some p)
  | value =>
      if isComparable value then do throw (.unknownProvider (← written value) name)
      else .error .providerNotKey

/-- Reads the entry at an index, given the names before it. -/
def ofValue (seen : List Text) (index : Nat) : Value → Except Error Source
  | .mapping entries => do
      let name ← requiredOf entries "name" index
      let file ← requiredOf entries "file" index
      let name ← written name
      if seen.contains name then throw (.duplicateName name)
      let provider ← providerOf entries name
      let file ← written file
      let description ← writtenAt entries "description" []
      return {
        name
        file
        provider
        url := fieldOf entries "url"
        description }
  | _ => .error (.sourceNotMapping index)

/-- Reads the entries from an index on. -/
def ofValues (seen : List Text) (index : Nat) : List Value → Except Error (List Source)
  | [] => .ok []
  | value :: values => do
      let source ← ofValue seen index value
      return source :: (← ofValues (source.name :: seen) (index + 1) values)

/-- The sources of a list. -/
def listOf : Value → Except Error (List Source)
  | .list values => ofValues [] 0 values
  | _ => .error .sourcesNotList

end Source
end UrlRules.Config
