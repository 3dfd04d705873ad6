import HeadUnit.User

/-!
# Switch transactions

The one user switch that is tracked, with the token the vehicle gave it. A
sequence number tells apart successive transactions to the same target.
-/

namespace HeadUnit

/-- A correlation token of the vehicle. The empty one is unset. -/
structure Token where
  text : String
  deriving DecidableEq, Repr

namespace Token

/-- The unset token. -/
def unset : Token := ⟨""⟩

def isSet (t : Token) : Bool := t.text != ""

end Token

/-- How far a transaction has come. -/
inductive Stage
  | pending
  | awaitingCoordinator
  | awaitingOSCommit
  | awaitingUnlockAck
  | completed
  | abandoned
  | failed
  | unknown
  deriving DecidableEq, Repr

namespace Stage

def ofCode (n : Int64) : Stage :=
  match n.toInt with
  | 0 => pending
  | 1 => awaitingCoordinator
  | 2 => awaitingOSCommit
  | 3 => awaitingUnlockAck
  | 4 => completed
  | 5 => abandoned
  | 6 => failed
  | _ => unknown

def text : Stage → String
  | pending => "Pending"
  | awaitingCoordinator => "AwaitingCoordinator"
  | awaitingOSCommit => "AwaitingOSCommit"
  | awaitingUnlockAck => "AwaitingUnlockAck"
  | completed => "Completed"
  | abandoned => "Abandoned"
  | failed => "Failed"
  | unknown => "Unknown"

/-- Whether the stage ends a transaction. -/
def isTerminal (s : Stage) : Bool := s == completed || s == abandoned || s == failed

end Stage

/-- The tracked user switch. -/
structure Transaction where
  target : UserId
  token : Token
  /-- The foreground user when the transaction was installed. -/
  prior : UserId
  stage : Stage
  seq : UInt64
  deriving DecidableEq, Repr

def Transaction.text (t : Transaction) : String :=
  "SwitchTransaction\x7bseq=" ++ toString t.seq.toNat ++ ", target=" ++ t.target.text
    ++ ", token=" ++ Text.quoted t.token.text ++ ", prior=" ++ t.prior.text
    ++ ", state=" ++ t.stage.text ++ "\x7d"

end HeadUnit
