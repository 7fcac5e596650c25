import UrlRules.Chain.Resolve
import UrlRules.Console.Output
import UrlRules.Pipeline.Build
import UrlRules.Rule.Verify
import UrlRules.Store.Basic

/-!
# Why a command stops

Errors that a user can cause are reported in a line. The others are not foreseen and end the program.
-/
namespace UrlRules

open Text

namespace RuleError

/-- Whether the error is reported. -/
def isReported : RuleError → Bool
  | .invalidRecord _ | .invalidPattern .. => true
  | .patternFailure _ | .notIterable => false

end RuleError

namespace Command

inductive Error where
  | config (error : Config.Error)
  | rule (error : RuleError)
  | store (error : Store.Error)
  | file (failure : Document.FileFailure)
  | document (error : Document.Error)
  | pipeline (error : Pipeline.Error)
  | resolve (error : ResolveError)
  | verify (error : VerifyError)
  | markup (error : Markup.Error)
  deriving DecidableEq, Repr

def isReportedConfig : Config.Error → Bool
  | .notUtf8 | .document _ (.scalar _) | .timeoutTooLarge | .integerTooLong | .unknownHome
  | .userUnencodable | .userWithZero | .providerNotKey => false
  | _ => true

def isReportedStore : Store.Error → Bool
  | .failed _ _ | .repeatedIds | .taken _ | .notFound _ => true
  | .row (.rule e) => e.isReported
  | _ => false

def isReportedFile : Document.FileFailure → Bool
  | .notJson .. | .unreadable .. | .unwritable .. => true
  | .tooManyDigits _ | .notUtf8 | .unencodable => false

def isReportedDocument : Document.Error → Bool
  | .rule e => e.isReported
  | .rejected _ => true

def isReportedProvider : Provider.Error → Bool
  | .tooManyDigits _ | .script .codePointTooLarge | .script (.tooManyDigits _) | .integerTooLong => false
  | .rule e => e.isReported
  | _ => true

def isReportedMerge : Merge.Error → Bool
  | .rule e => e.isReported
  | _ => true

def isReportedPipeline : Pipeline.Error → Bool
  | .fetch (.other _) | .urlNotText => false
  | .provider e => isReportedProvider e
  | .load (.file e) | .save e => isReportedFile e
  | .load (.document e) => isReportedDocument e
  | .merge e => isReportedMerge e
  | .fetch (.http ..) | .missingFile .. => true

namespace Error

/-- Whether the error is reported. What fails once a command has done its work is not. -/
def isReported : Error → Bool
  | .config e => isReportedConfig e
  | .rule e => e.isReported
  | .store e => isReportedStore e
  | .file e => isReportedFile e
  | .document e => isReportedDocument e
  | .pipeline e => isReportedPipeline e
  | .resolve _ | .verify _ | .markup _ => false

def message : Error → Text
  | .config e => e.message
  | .rule e => e.message
  | .store e => e.message
  | .file e => e.message
  | .document e => e.message
  | .pipeline e => e.message
  | .resolve e => e.message
  | .verify (.apply e) => e.message
  | .verify .inputNotText => "the URL of an example is no text"
  | .markup e => e.message

def ofLoad : Document.LoadError → Error
  | .file e => .file e
  | .document e => .document e

end Error
end Command
end UrlRules
