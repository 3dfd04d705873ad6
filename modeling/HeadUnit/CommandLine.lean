import HeadUnit.Settings.Sources

/-!
# The command line

Words of the command line are read from the left:

* `--name=value` and `--name value` give a value; a flag that is a switch needs
  none, and takes one only after an equals sign;
* `-hv` sets the switches with these letters, and `-h=false` gives a value;
* `--` ends the flags;
* every other word is an operand, which nothing looks at.

The first word that is wrong ends the reading.
-/

namespace HeadUnit.CommandLine

/-- What can be given on the command line. -/
inductive Flag
  | help
  | version
  /-- The path of the settings file. -/
  | config
  | setting (s : Setting)
  deriving DecidableEq, Repr

namespace Flag

def name : Flag → String
  | help => "help"
  | version => "version"
  | config => "config"
  | setting s => s.flag

/-- The flag with this name. -/
def ofName? (name : String) : Option Flag :=
  if name = "help" then some help
  else if name = "version" then some version
  else if name = "config" then some config
  else (Setting.ofFlag? name).map setting

/-- The letter of a flag. -/
def letter? : Flag → Option Char
  | help => some 'h'
  | version => some 'v'
  | _ => none

/-- The switch with this letter. -/
def ofLetter? (c : Char) : Option Flag := [help, version].find? (·.letter? == some c)

/-- How a flag is called in messages. -/
def shown (f : Flag) : String :=
  (match f.letter? with
    | some c => "-" ++ String.singleton c ++ ", "
    | none => "") ++ "--" ++ f.name

/-- Whether a flag stands for itself, without a value. -/
def isSwitch : Flag → Bool
  | help => true
  | version => true
  | setting .headless => true
  | _ => false

end Flag

/-- Why a value does not suit its flag. -/
inductive ValueProblem
  | number (p : Integer.Problem) (text : String)
  | duration (p : Duration.Problem)
  | truth (text : String)
  deriving DecidableEq, Repr

def ValueProblem.message : ValueProblem → String
  | number p t => p.message "strconv.ParseInt" t
  | duration p => p.message
  | truth t => Integer.Problem.spelling.message "strconv.ParseBool" t

/-- What is wrong with a command line. -/
inductive Problem
  | malformed (word : String)
  | unknown (name : String)
  /-- There is no switch with the first letter of a group; `byte` is the first
      byte of the group. -/
  | unknownLetter (byte : Char) (group : String)
  | missingValue (word : String)
  | badValue (value : String) (flag : Flag) (p : ValueProblem)
  deriving DecidableEq, Repr

def Problem.message : Problem → String
  | malformed w => "bad flag syntax: " ++ w
  | unknown n => "unknown flag: --" ++ n
  | unknownLetter b g => "unknown shorthand flag: " ++ Text.quotedSingle b ++ " in -" ++ g
  | missingValue w => "flag needs an argument: " ++ w
  | badValue v f p =>
    "invalid argument " ++ Text.quoted v ++ " for " ++ Text.quoted f.shown ++ " flag: " ++ p.message

/-- What a command line asks for. -/
structure Request where
  help : Bool := false
  version : Bool := false
  /-- The path of the settings file; empty for the usual one. -/
  config : String := ""
  settings : Settings
  /-- The settings that were given. -/
  explicit : List Setting := []
  deriving DecidableEq, Repr

/-- The truth values as they are written. -/
def truth? (text : String) : Option Bool :=
  if ["1", "t", "T", "TRUE", "true", "True"].contains text then some true
  else if ["0", "f", "F", "FALSE", "false", "False"].contains text then some false
  else none

/-- Reads a truth value. -/
def truth (text : String) : Except ValueProblem Bool :=
  match truth? text with
  | some b => .ok b
  | none => .error (.truth text)

/-- Reads the value of a setting. -/
def change (k : Setting) (text : String) : Except ValueProblem (Settings → Settings) :=
  let number := (Integer.literal text).mapError (ValueProblem.number · text)
  let duration := (Duration.parse text).mapError ValueProblem.duration
  match k with
  | .stateDir => .ok (Settings.putText k text)
  | .logLevel => .ok (Settings.putText k text)
  | .metricsAddress => .ok (Settings.putText k text)
  | .coordinatorTimeout => duration.map (Settings.putDuration k)
  | .shutdownTimeout => duration.map (Settings.putDuration k)
  | .simLatency => duration.map (Settings.putDuration k)
  | .maxRunning => number.map (Settings.putNumber k)
  | .simDrivers => number.map (Settings.putNumber k)
  | .headless => (truth text).map (Settings.putBool k)

namespace Request

/-- Gives a value to a flag. -/
def set (r : Request) (f : Flag) (value : String) : Except Problem Request :=
  let done : Except ValueProblem Request := match f with
    | .help => (truth value).map fun b => { r with help := b }
    | .version => (truth value).map fun b => { r with version := b }
    | .config => .ok { r with config := value }
    | .setting k => (change k value).map fun g =>
      { r with settings := g r.settings, explicit := k :: r.explicit }
  done.mapError (Problem.badValue value f)

/-- The first byte of a group of letters. -/
def firstByte (c : Char) : Char :=
  Char.ofNat ((String.utf8EncodeChar c).head?.getD 0).toNat

/-- Sets the switches of a group of letters. A group that begins with `test.` is
    passed over. -/
def setLetters (r : Request) : List Char → Except Problem Request
  | [] => .ok r
  | c :: cs =>
    if "test.".toList.isPrefixOf (c :: cs) then .ok r
    else match Flag.ofLetter? c with
      | none => .error (.unknownLetter (firstByte c) (String.ofList (c :: cs)))
      | some f =>
        match cs with
        | '=' :: v :: vs => r.set f (String.ofList (v :: vs))
        | _ =>
          match r.set f "true" with
          | .error p => .error p
          | .ok r => r.setLetters cs

end Request

/-- A word of the command line. -/
inductive Word
  | operand
  /-- The end of the flags. -/
  | stop
  | letters (cs : List Char)
  | long (flag : Flag) (value : Option String)
  deriving DecidableEq, Repr

/-- Reads a word. -/
def Word.of (text : String) : Except Problem Word :=
  match text.toList with
  | ['-', '-'] => .ok .stop
  | '-' :: '-' :: c :: cs =>
    if c = '-' || c = '=' then .error (.malformed text)
    else
      let name := String.ofList ((c :: cs).takeWhile (· != '='))
      match Flag.ofName? name, (c :: cs).dropWhile (· != '=') with
      | none, _ => .error (.unknown name)
      | some f, [] => .ok (.long f none)
      | some f, _ :: value => .ok (.long f (some (String.ofList value)))
  | '-' :: c :: cs => .ok (.letters (c :: cs))
  | _ => .ok .operand

/-- Reads the words of a command line. -/
def parse (r : Request) : List String → Except Problem Request
  | [] => .ok r
  | text :: rest =>
    match Word.of text with
    | .error p => .error p
    | .ok .operand => parse r rest
    | .ok .stop => .ok r
    | .ok (.letters cs) =>
      match r.setLetters cs with
      | .error p => .error p
      | .ok r => parse r rest
    | .ok (.long f (some value)) =>
      match r.set f value with
      | .error p => .error p
      | .ok r => parse r rest
    | .ok (.long f none) =>
      if f.isSwitch then
        match r.set f "true" with
        | .error p => .error p
        | .ok r => parse r rest
      else
        match rest with
        | [] => .error (.missingValue text)
        | value :: rest =>
          match r.set f value with
          | .error p => .error p
          | .ok r => parse r rest

end HeadUnit.CommandLine
