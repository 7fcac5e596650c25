import UrlRules.Web.Fetch
import UrlRules.Web.Url

/-!
# A web of routes

Each URL is answered with a response or not at all. A request follows redirections up to a bound, and only a
response that reports success gives a document.
-/
namespace UrlRules

open Text

structure Response where
  status : Nat
  body : Text
  location : Option Text
  deriving DecidableEq, Repr

inductive Reply where
  | response (response : Response)
  /-- There is no response, for the reason that is given. -/
  | failure (reason : Text)
  deriving DecidableEq, Repr

namespace Web

def notFound : Reply := .response ⟨404, [], none⟩

def isRedirection (status : Nat) : Bool := [301, 302, 303, 307, 308].contains status

def isSuccess (status : Nat) : Bool := 200 ≤ status && status < 300

def maxRedirections : Nat := 20

def tooManyRedirections : Text := "Exceeded maximum allowed redirects."

/-- The URL that a text writes, or what is wrong with the text. -/
def urlOf (s : Text) : Except Text Url :=
  match Url.fault? s with
  | some fault => .error fault
  | none => .ok (Url.ofText s)

/-- Where a response redirects to. The fragment stays unless there is another one. -/
def target? (url : Url) (r : Response) : Option (Except Text Url) :=
  match r.location with
  | none => none
  | some location =>
      if isRedirection r.status then
        some <| (urlOf location).map fun reference =>
          let next := url.join reference
          { next with fragment := next.fragment.or url.fragment }
      else none

/-- The last response, or why there is none. -/
def follow (routes : Text → Reply) : Nat → Url → Except Text Response
  | redirections, url =>
      match routes url.text with
      | .failure reason => .error reason
      | .response r =>
          match target? url r with
          | none => .ok r
          | some (.error fault) => .error (Text.of "Invalid URL in location header: " ++ fault ++ Text.of ".")
          | some (.ok next) =>
              match redirections with
              | 0 => .error tooManyRedirections
              | redirections + 1 => follow routes redirections next

/-- The web that has the given URLs only. -/
def ofRoutes (routes : List (Text × Reply)) : Web := fun url =>
  match urlOf url with
  | .error fault => .error (.other fault)
  | .ok address =>
      match follow (fun url => ((routes.find? (·.1 == url)).map (·.2)).getD notFound) maxRedirections
          address.requested with
      | .error reason => .error (.http (.transfer reason))
      | .ok r => if isSuccess r.status then .ok r.body else .error (.http (.status r.status))

end Web
end UrlRules
