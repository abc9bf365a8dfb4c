/-
Daybook.Rendering — a text that was put together, or why not.
-/
import Daybook.Error
import Daybook.Warning

namespace Daybook

/-- What came of putting a text together from parts that keep a state: the
text or an error, the state in either case, and the warnings, oldest first. -/
structure Rendering (σ : Type) where
  outcome : Except JournalError String
  state : σ
  warnings : List Warning

end Daybook
