import HeadUnit.Event
import HeadUnit.Lifecycle.Phase
import HeadUnit.Outcome
import HeadUnit.Transaction

/-!
# Codes

The enumerations whose values travel as numbers, and the text of every code.
-/

namespace HeadUnit

/-- An enumeration with codes. -/
inductive Enumeration
  | switchStatus
  | createStatus
  | removeStatus
  | associationStatus
  | initialAction
  | stage
  | eventKind
  | phase
  deriving DecidableEq, Repr

namespace Enumeration

/-- The text of a code. Status codes without a meaning are shown with the name
    of the enumeration. -/
def describe : Enumeration → Int64 → String
  | switchStatus, n =>
    ((SwitchStatus.ofCode? n).map SwitchStatus.text).getD (unknownCode "SwitchStatus" n)
  | createStatus, n =>
    ((CreateStatus.ofCode? n).map CreateStatus.text).getD (unknownCode "CreateStatus" n)
  | removeStatus, n =>
    ((RemoveStatus.ofCode? n).map RemoveStatus.text).getD (unknownCode "RemoveStatus" n)
  | associationStatus, n =>
    ((AssociationStatus.ofCode? n).map AssociationStatus.text).getD
      (unknownCode "AssociationStatus" n)
  | initialAction, n => (InitialAction.ofCode n).text
  | stage, n => (Stage.ofCode n).text
  | eventKind, n => (EventKind.ofCode n).text
  | phase, n => (Phase.ofCode n).text

/-- Whether the code of a switch or removal status is a success; the other
    enumerations have no successes. -/
def isSuccess? : Enumeration → Int64 → Option Bool
  | switchStatus, n => some ((SwitchStatus.ofCode? n).any SwitchStatus.isSuccess)
  | removeStatus, n => some ((RemoveStatus.ofCode? n).any RemoveStatus.isSuccess)
  | _, _ => none

end Enumeration

end HeadUnit
