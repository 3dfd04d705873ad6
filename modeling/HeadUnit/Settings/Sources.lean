import HeadUnit.Settings
import HeadUnit.Toml.Fill

/-!
# Sources of settings

* `Settings.File` is what a file with settings says. Durations are texts there;
  an empty text, a number that is not positive and a missing truth value offer
  nothing.
* `Settings.environmentOffers` reads variables. An empty one offers nothing, and
  neither does a number that is not positive; every text other than `true` and
  `1` is a `false`.

Both offer texts first, then durations, numbers and the truth value.
-/

namespace HeadUnit.Settings

/-! ### Single offers -/

/-- Puts a text. -/
def putText : Setting → String → Settings → Settings
  | .stateDir, t, s => { s with stateDir := t }
  | .logLevel, t, s => { s with logLevel := t }
  | .metricsAddress, t, s => { s with metricsAddress := t }
  | _, _, s => s

/-- Puts a duration. -/
def putDuration : Setting → Duration → Settings → Settings
  | .coordinatorTimeout, d, s => { s with coordinatorTimeout := d }
  | .shutdownTimeout, d, s => { s with shutdownTimeout := d }
  | .simLatency, d, s => { s with simLatency := d }
  | _, _, s => s

/-- Puts a number. -/
def putNumber : Setting → Int64 → Settings → Settings
  | .maxRunning, n, s => { s with maxRunning := n }
  | .simDrivers, n, s => { s with simDrivers := n }
  | _, _, s => s

/-- Puts a truth value. -/
def putBool : Setting → Bool → Settings → Settings
  | .headless, b, s => { s with headless := b }
  | _, _, s => s

/-- Offers a text, unless it is empty. -/
def offerText (k : Setting) (text : String) : List Offer :=
  if text = "" then [] else [⟨k, .ok (putText k text)⟩]

/-- Offers the duration that a text stands for, unless the text is empty. -/
def offerDuration (k : Setting) (text : String) : List Offer :=
  if text = "" then []
  else match Duration.parse text with
    | .ok d => [⟨k, .ok (putDuration k d)⟩]
    | .error p => [⟨k, .error (.duration k p)⟩]

/-- Offers a number, unless it is not positive. -/
def offerNumber (k : Setting) (n : Int64) : List Offer :=
  if n ≤ 0 then [] else [⟨k, .ok (putNumber k n)⟩]

/-- Offers the number that a text stands for, unless the text is empty or the
    number is not positive. -/
def offerNumberText (k : Setting) (text : String) : List Offer :=
  if text = "" then []
  else match Integer.decimal text with
    | .ok n => offerNumber k n
    | .error p => [⟨k, .error (.number k p text)⟩]

/-- Offers a truth value, if there is one. -/
def offerBool (k : Setting) (b : Option Bool) : List Offer :=
  b.toList.map fun b => ⟨k, .ok (putBool k b)⟩

/-! ### The file -/

/-- What a file with settings says. -/
structure File where
  stateDir : String := ""
  maxRunning : Int64 := 0
  coordinatorTimeout : String := ""
  shutdownTimeout : String := ""
  headless : Option Bool := none
  logLevel : String := ""
  metricsAddress : String := ""
  simLatency : String := ""
  simDrivers : Int64 := 0
  deriving DecidableEq, Repr

namespace File

/-- The keys of the file. -/
def shape : Toml.Shape File
  | "state_dir" => some (Toml.setText fun f v => { f with stateDir := v })
  | "max_running_users" => some (Toml.setInteger fun f v => { f with maxRunning := v })
  | "coordinator_timeout" => some (Toml.setText fun f v => { f with coordinatorTimeout := v })
  | "shutdown_timeout" => some (Toml.setText fun f v => { f with shutdownTimeout := v })
  | "headless" => some (Toml.setBool fun f v => { f with headless := some v })
  | "log_level" => some (Toml.setText fun f v => { f with logLevel := v })
  | "metrics_addr" => some (Toml.setText fun f v => { f with metricsAddress := v })
  | "sim_latency" => some (Toml.setText fun f v => { f with simLatency := v })
  | "sim_drivers" => some (Toml.setInteger fun f v => { f with simDrivers := v })
  | _ => none

/-- Reads the text of a file. -/
def parse? (text : String) : Option File := Toml.fill? shape {} text

/-- What a file offers. -/
def offers (f : File) : List Offer :=
  offerText .stateDir f.stateDir
    ++ offerText .logLevel f.logLevel
    ++ offerText .metricsAddress f.metricsAddress
    ++ offerDuration .coordinatorTimeout f.coordinatorTimeout
    ++ offerDuration .shutdownTimeout f.shutdownTimeout
    ++ offerDuration .simLatency f.simLatency
    ++ offerNumber .maxRunning f.maxRunning
    ++ offerNumber .simDrivers f.simDrivers
    ++ offerBool .headless f.headless

end File

/-! ### The environment -/

/-- What the environment offers; `value` is the text of the variable of a
    setting, empty if there is none. -/
def environmentOffers (value : Setting → String) : List Offer :=
  let text (k : Setting) := offerText k (value k)
  let duration (k : Setting) := offerDuration k (value k)
  let number (k : Setting) := offerNumberText k (value k)
  text .stateDir ++ text .logLevel ++ text .metricsAddress
    ++ duration .coordinatorTimeout ++ duration .shutdownTimeout ++ duration .simLatency
    ++ number .maxRunning ++ number .simDrivers
    ++ offerBool .headless
      (if value .headless = "" then none
        else some (value .headless = "true" || value .headless = "1"))

end HeadUnit.Settings
