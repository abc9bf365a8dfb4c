/-
Daybook.Warning — what the user is warned of while the work goes on.
-/
import Daybook.Path

namespace Daybook

inductive Warning where
  /-- A template uses a token that is not registered. -/
  | unknownToken (name : String)
  /-- There is no template file, so the built-in template is used. -/
  | noTemplate (path : Path)
deriving DecidableEq, Repr

def Warning.message : Warning → String
  | unknownToken name => "Unknown template token '%" ++ name ++ "%', substituting nothing"
  | noTemplate path =>
    "Template " ++ path.shown ++ " not found, using the built-in day template"

end Daybook
