import UrlRules.Text.Basic

/-!
# Fetching documents

A web gives the document at a URL, or says why there is none. An error of HTTP is told with the URL; whatever
else stops a request is passed on as it is.
-/
namespace UrlRules

open Text

namespace Web

inductive HttpError where
  /-- The last response reports no success. -/
  | status (code : Nat)
  /-- There is no last response. -/
  | transfer (reason : Text)
  deriving DecidableEq, Repr

/-- Why a request gives no document. -/
inductive Failure where
  | http (error : HttpError)
  /-- An error that is none of HTTP, such as the one for a text that is no URL. -/
  | other (reason : Text)
  deriving DecidableEq, Repr

end Web

/-- What a request for a URL gives after all redirections. -/
abbrev Web := Text → Except Web.Failure Text

namespace Web

inductive FetchError where
  | http (url : Text) (error : HttpError)
  /-- What is passed on. -/
  | other (reason : Text)
  deriving DecidableEq, Repr

def FetchError.message : FetchError → Text
  | .http url (.status code) => Text.of "HTTP " ++ ofNat code ++ Text.of " while fetching " ++ url
  | .http url (.transfer reason) => Text.of "Failed to fetch " ++ url ++ Text.of ": " ++ reason
  | .other reason => reason

/-- The document at a URL. -/
def fetch (web : Web) (url : Text) : Except FetchError Text :=
  match web url with
  | .ok text => .ok text
  | .error (.http e) => .error (.http url e)
  | .error (.other reason) => .error (.other reason)

end Web
end UrlRules
