/-!
# Network addresses

The address of a server is a host and a service, divided by the last colon. A
host with colons stands in brackets. A service is a number of 16 bits, or a
well-known name.
-/

namespace HeadUnit.Address

/-- What is wrong with an address. -/
inductive Problem
  | noService (text : String)
  | tooManyColons (text : String)
  | unclosed (text : String)
  | unexpectedOpen (text : String)
  | unexpectedClose (text : String)
  | numberTooLarge (service : String)
  | unknownService (service : String)
  deriving DecidableEq, Repr

def Problem.message : Problem → String
  | noService t => "address " ++ t ++ ": missing port in address"
  | tooManyColons t => "address " ++ t ++ ": too many colons in address"
  | unclosed t => "address " ++ t ++ ": missing ']' in address"
  | unexpectedOpen t => "address " ++ t ++ ": unexpected '[' in address"
  | unexpectedClose t => "address " ++ t ++ ": unexpected ']' in address"
  | numberTooLarge s => "address " ++ s ++ ": invalid port"
  | unknownService s => "lookup tcp/" ++ s ++ ": unknown port"

/-- Splits at the last colon. -/
def splitLast? (cs : List Char) : Option (List Char × List Char) :=
  if cs.contains ':' then
    let service := (cs.reverse.takeWhile (· != ':')).reverse
    some (cs.take (cs.length - service.length - 1), service)
  else none

/-- The host and the service of an address. -/
def split (text : String) : Except Problem (String × String) :=
  let cs := text.toList
  match splitLast? cs with
  | none => .error (.noService text)
  | some (host, service) =>
    let checked (host behindOpen behindClose : List Char) : Except Problem (String × String) :=
      if behindOpen.contains '[' then .error (.unexpectedOpen text)
      else if behindClose.contains ']' then .error (.unexpectedClose text)
      else .ok (String.ofList host, String.ofList service)
    match cs with
    | '[' :: inner =>
      match inner.dropWhile (· != ']') with
      | [] => .error (.unclosed text)
      | _ :: behind =>
        let name := inner.takeWhile (· != ']')
        if behind = [] then .error (.noService text)
        else if behind.length = service.length + 1 then checked name inner behind
        else if behind.head? = some ':' then .error (.tooManyColons text)
        else .error (.noService text)
    | _ => if host.contains ':' then .error (.tooManyColons text) else checked host cs cs

/-- The well-known services. -/
def services : List String :=
  ["domain", "ftp", "ftps", "gopher", "http", "https", "imap2", "imap3", "imaps", "pop3", "pop3s",
   "smtp", "submissions", "ssh", "telnet"]

/-- What is wrong with a service, if anything; an empty one is any that is
    free. -/
def serviceProblem? (service : String) : Option Problem :=
  let (negative, ds) := match service.toList with
    | '-' :: ds => (true, ds)
    | '+' :: ds => (false, ds)
    | ds => (false, ds)
  if ds.all Char.isDigit then
    let n := ds.foldl (fun n c => n * 10 + (c.toNat - 48)) 0
    if 65535 < n || (negative && n != 0) then some (.numberTooLarge service) else none
  else if services.contains (String.ofList (service.toList.map Char.toLower)) then none
  else some (.unknownService service)

/-- What is wrong with an address to serve at, if anything. -/
def problem? (text : String) : Option Problem :=
  match split text with
  | .error p => some p
  | .ok (_, service) => serviceProblem? service

end HeadUnit.Address
