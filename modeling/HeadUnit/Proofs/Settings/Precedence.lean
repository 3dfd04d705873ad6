import HeadUnit.Settings.Sources

/-!
# Which source of a setting wins

A *source* (`Source`) says for every setting whether it has a value for it, and which, or that what
it has cannot be read. So do a file with settings (`File.source`) and the environment
(`environment`). Taking a source means to take its settings one after the other, in the order
`Setting.order`, up to the first that cannot be read (`Source.adopt_offers`).

The main statement is `precedence`: the command line wins over the environment, the environment
over the file, and the file over what was there before.
-/

namespace HeadUnit

namespace Setting

/-- What a setting holds. -/
def Value : Setting → Type
  | stateDir | logLevel | metricsAddress => String
  | coordinatorTimeout | shutdownTimeout | simLatency => Duration
  | maxRunning | simDrivers => Int64
  | headless => Bool

/-- The order in which the settings of a source are taken. -/
def order : List Setting :=
  [stateDir, logLevel, metricsAddress, coordinatorTimeout, shutdownTimeout, simLatency,
    maxRunning, simDrivers, headless]

theorem mem_order (k : Setting) : k ∈ order := by cases k <;> decide

theorem nodup_order : order.Nodup := by decide

/-- The settings that are durations. -/
def isSpan : Setting → Bool
  | coordinatorTimeout | shutdownTimeout | simLatency => true
  | _ => false

/-- The settings that are numbers. -/
def isNumber : Setting → Bool
  | maxRunning | simDrivers => true
  | _ => false

/-- Every setting has a flag of its own. -/
theorem ofFlag?_eq_some_iff {name : String} {k : Setting} :
    ofFlag? name = some k ↔ name = k.flag := by
  constructor
  · intro found
    have same := List.find?_some found
    exact (eq_of_beq same).symm
  · rintro rfl
    cases k <;> decide

/-- A setting is given explicitly if its flag is. -/
theorem mem_explicit {changed : List String} {k : Setting} :
    k ∈ changed.filterMap ofFlag? ↔ k.flag ∈ changed := by
  simp [List.mem_filterMap, ofFlag?_eq_some_iff]

end Setting

namespace Settings

/-! ## Settings by name -/

/-- The value of a setting. -/
def get (s : Settings) : (k : Setting) → k.Value
  | .stateDir => s.stateDir
  | .maxRunning => s.maxRunning
  | .coordinatorTimeout => s.coordinatorTimeout
  | .shutdownTimeout => s.shutdownTimeout
  | .headless => s.headless
  | .logLevel => s.logLevel
  | .metricsAddress => s.metricsAddress
  | .simLatency => s.simLatency
  | .simDrivers => s.simDrivers

/-- Changes the value of a setting. -/
def set (s : Settings) : (k : Setting) → k.Value → Settings
  | .stateDir, t => { s with stateDir := t }
  | .maxRunning, n => { s with maxRunning := n }
  | .coordinatorTimeout, d => { s with coordinatorTimeout := d }
  | .shutdownTimeout, d => { s with shutdownTimeout := d }
  | .headless, b => { s with headless := b }
  | .logLevel, t => { s with logLevel := t }
  | .metricsAddress, t => { s with metricsAddress := t }
  | .simLatency, d => { s with simLatency := d }
  | .simDrivers, n => { s with simDrivers := n }

theorem get_set_self (s : Settings) (k : Setting) (v : k.Value) : (s.set k v).get k = v := by
  cases k <;> rfl

theorem get_set_of_ne (s : Settings) {j k : Setting} (other : j ≠ k) (v : k.Value) :
    (s.set k v).get j = s.get j := by
  cases k <;> cases j <;> first | rfl | exact absurd rfl other

/-- Offers for a setting that is given explicitly are passed over. -/
theorem adopt_append_of_given {explicit : List Setting} {k : Setting} (given : k ∈ explicit)
    {s : Settings} {os rest : List Offer} (own : ∀ o ∈ os, o.setting = k) :
    s.adopt explicit (os ++ rest) = s.adopt explicit rest := by
  induction os with
  | nil => rfl
  | cons o os ih =>
    have passed : explicit.contains o.setting := by
      rw [own o List.mem_cons_self]
      exact List.contains_iff_mem.2 given
    rw [List.cons_append, adopt, if_pos passed]
    exact ih fun o mem => own o (List.mem_cons_of_mem _ mem)

/-! ## Sources -/

/-- What a source has for each setting: a value, nothing of use, or what cannot be read. -/
abbrev Source := (k : Setting) → Except Problem (Option k.Value)

/-- The offers for a setting, if that is what there is for it. -/
def offered (k : Setting) : Except Problem (Option k.Value) → List Offer
  | .ok none => []
  | .ok (some v) => [⟨k, .ok fun s => s.set k v⟩]
  | .error p => [⟨k, .error p⟩]

/-- An offer is for the setting it is made for. -/
theorem setting_of_offered {k : Setting} {r : Except Problem (Option k.Value)} {o : Offer}
    (mem : o ∈ offered k r) : o.setting = k := by
  unfold offered at mem
  split at mem <;> simp_all

namespace Source

variable (src : Source)

/-- The value that a source has for a setting, if it is of use. -/
def value? (k : Setting) : Option k.Value := (src k).toOption.join

/-- What a setting is if it can be taken from the source. -/
def choice (explicit : List Setting) (s : Settings) (k : Setting) : k.Value :=
  if k ∈ explicit then s.get k else (src.value? k).getD (s.get k)

/-- What the source offers for a setting. -/
def offers (k : Setting) : List Offer := offered k (src k)

/-- The settings `ks` can all be taken from the source. -/
def Readable (explicit ks : List Setting) : Prop :=
  ∀ k ∈ ks, k ∉ explicit → ∃ v, src k = .ok v

/-- By taking the settings `ks` from the source one after the other, `s` has become `s'`: all of
    them, or those before the first that cannot be read, for the problem `p`. -/
inductive Takes (explicit ks : List Setting) (s s' : Settings) : Option Problem → Prop
  | whole (readable : src.Readable explicit ks)
      (taken : ∀ j ∈ ks, s'.get j = src.choice explicit s j)
      (kept : ∀ j ∉ ks, s'.get j = s.get j) : Takes explicit ks s s' none
  | upTo {before after : List Setting} {k : Setting} {p : Problem} (split : ks = before ++ k :: after)
      (readable : src.Readable explicit before) (free : k ∉ explicit) (unreadable : src k = .error p)
      (taken : ∀ j ∈ before, s'.get j = src.choice explicit s j)
      (kept : ∀ j ∉ before, s'.get j = s.get j) : Takes explicit ks s s' (some p)

variable {src} {explicit ks : List Setting} {s s' : Settings} {problem : Option Problem}

/-- A setting is taken before the others. -/
theorem Takes.cons {k : Setting} (new : k ∉ ks) {t : Settings}
    (readable : k ∉ explicit → ∃ v, src k = .ok v) (own : t.get k = src.choice explicit s k)
    (others : ∀ j, j ≠ k → t.get j = s.get j) (rest : src.Takes explicit ks t s' problem) :
    src.Takes explicit (k :: ks) s s' problem := by
  have apart {js : List Setting} (sub : ∀ j ∈ js, j ∈ ks) {j : Setting} (mem : j ∈ js) : j ≠ k :=
    fun same => new (same ▸ sub j mem)
  have same {j : Setting} (other : j ≠ k) : src.choice explicit t j = src.choice explicit s j := by
    rw [Source.choice, Source.choice, others j other]
  -- In both cases `js` are the settings that are taken after `k`.
  have first {js : List Setting} (fresh : k ∉ js) (sub : ∀ j ∈ js, j ∈ ks)
      (ok : src.Readable explicit js) (taken : ∀ j ∈ js, s'.get j = src.choice explicit t j)
      (kept : ∀ j ∉ js, s'.get j = t.get j) :
      src.Readable explicit (k :: js) ∧ (∀ j ∈ k :: js, s'.get j = src.choice explicit s j) ∧
        ∀ j ∉ k :: js, s'.get j = s.get j := by
    refine ⟨fun j mem => ?_, fun j mem => ?_, fun j absent => ?_⟩
    · rcases List.mem_cons.1 mem with rfl | later
      · exact readable
      · exact ok j later
    · rcases List.mem_cons.1 mem with rfl | later
      · exact (kept j fresh).trans own
      · exact (taken j later).trans (same (apart sub later))
    · rw [List.mem_cons, not_or] at absent
      exact (kept j absent.2).trans (others j absent.1)
  cases rest with
  | whole ok taken kept =>
    obtain ⟨ok, taken, kept⟩ := first new (fun _ mem => mem) ok taken kept
    exact .whole ok taken kept
  | @upTo before after k' p split ok free unreadable taken kept =>
    have sub : ∀ j ∈ before, j ∈ ks := fun j mem => split ▸ List.mem_append_left _ mem
    obtain ⟨ok, taken, kept⟩ := first (fun mem => new (sub k mem)) sub ok taken kept
    exact .upTo (congrArg (k :: ·) split) ok free unreadable taken kept

/-- The offers of a source for some settings, one after the other, are taken as the source is. -/
theorem adopt_offers (src : Source) (explicit : List Setting) (s : Settings) {ks : List Setting}
    (distinct : ks.Nodup) :
    src.Takes explicit ks s (s.adopt explicit (ks.flatMap src.offers)).1
      (s.adopt explicit (ks.flatMap src.offers)).2 := by
  induction ks generalizing s with
  | nil => exact .whole nofun nofun fun _ _ => rfl
  | cons k ks ih =>
    obtain ⟨new, rest⟩ := List.nodup_cons.1 distinct
    rw [List.flatMap_cons]
    -- Whether the setting is given explicitly or the source has nothing, it stays as it is.
    have stays (same : s.get k = src.choice explicit s k)
        (readable : k ∉ explicit → ∃ v, src k = .ok v) :
        src.Takes explicit (k :: ks) s (s.adopt explicit (ks.flatMap src.offers)).1
          (s.adopt explicit (ks.flatMap src.offers)).2 :=
      (ih s rest).cons new readable same fun _ _ => rfl
    by_cases given : k ∈ explicit
    · have own : ∀ o ∈ src.offers k, o.setting = k := fun _ mem => setting_of_offered mem
      rw [adopt_append_of_given given own]
      exact stays (by rw [choice, if_pos given]) fun free => absurd given free
    · match found : src k with
      | .ok none =>
        rw [offers, found, offered, List.nil_append]
        exact stays (by simp [choice, given, value?, found, Except.toOption]) fun _ => ⟨_, found⟩
      | .ok (some v) =>
        have own : (s.set k v).get k = src.choice explicit s k := by
          simp [choice, given, value?, found, get_set_self, Except.toOption]
        have taken := (ih (s.set k v) rest).cons new (fun _ => ⟨_, found⟩) own fun j other =>
          s.get_set_of_ne other v
        simpa [offers, found, offered, adopt, given] using taken
      | .error p =>
        have cut : s.adopt explicit (src.offers k ++ ks.flatMap src.offers) = (s, some p) := by
          simp [offers, found, offered, adopt, given]
        rw [cut]
        exact .upTo (List.nil_append _).symm nofun given found nofun fun _ _ => rfl

/-- Taking a source fails if and only if one of the settings cannot be read. -/
theorem Takes.problem_iff (takes : src.Takes explicit ks s s' problem) :
    problem ≠ none ↔ ∃ k ∈ ks, k ∉ explicit ∧ ∃ p, src k = .error p := by
  cases takes with
  | whole readable =>
    refine iff_of_false (fun h => h rfl) ?_
    rintro ⟨k, mem, free, p, unreadable⟩
    obtain ⟨v, ok⟩ := readable k mem free
    cases ok.symm.trans unreadable
  | @upTo before after k p split _ free unreadable =>
    exact iff_of_true nofun ⟨k, split ▸ List.mem_append_right _ List.mem_cons_self, free, p,
      unreadable⟩

/-- A source that can be read is taken as a whole. -/
theorem Takes.get_eq (takes : src.Takes explicit ks s s' none) {k : Setting} (mem : k ∈ ks) :
    s'.get k = src.choice explicit s k := by
  cases takes with
  | whole _ taken => exact taken k mem

end Source

/-! ## The file and the environment -/

/-- A text is of use unless it is empty. -/
def textOf (text : String) : Option String := if text = "" then none else some text

/-- A number is of use if it is positive. -/
def positive (n : Int64) : Option Int64 := if 0 < n then some n else none

/-- The duration that a text stands for; an empty one is of no use. -/
def spanOf (k : Setting) (text : String) : Except Problem (Option Duration) :=
  if text = "" then .ok none
  else ((Duration.parse text).map some).mapError (.duration k)

/-- The number that a text stands for, if it is positive; an empty text is of no use. -/
def numberOf (k : Setting) (text : String) : Except Problem (Option Int64) :=
  if text = "" then .ok none
  else ((Integer.decimal text).map positive).mapError fun p => .number k p text

/-- The truth value that a text stands for; an empty one is of no use. -/
def truthOf (text : String) : Option Bool :=
  if text = "" then none else some (text = "true" || text = "1")

/-- The file as a source. -/
def File.source (f : File) : Source
  | .stateDir => .ok (textOf f.stateDir)
  | .logLevel => .ok (textOf f.logLevel)
  | .metricsAddress => .ok (textOf f.metricsAddress)
  | .coordinatorTimeout => spanOf .coordinatorTimeout f.coordinatorTimeout
  | .shutdownTimeout => spanOf .shutdownTimeout f.shutdownTimeout
  | .simLatency => spanOf .simLatency f.simLatency
  | .maxRunning => .ok (positive f.maxRunning)
  | .simDrivers => .ok (positive f.simDrivers)
  | .headless => .ok f.headless

/-- The environment as a source; `value` is the text of the variable of a setting. -/
def environment (value : Setting → String) : Source
  | .stateDir => .ok (textOf (value .stateDir))
  | .logLevel => .ok (textOf (value .logLevel))
  | .metricsAddress => .ok (textOf (value .metricsAddress))
  | .coordinatorTimeout => spanOf .coordinatorTimeout (value .coordinatorTimeout)
  | .shutdownTimeout => spanOf .shutdownTimeout (value .shutdownTimeout)
  | .simLatency => spanOf .simLatency (value .simLatency)
  | .maxRunning => numberOf .maxRunning (value .maxRunning)
  | .simDrivers => numberOf .simDrivers (value .simDrivers)
  | .headless => .ok (truthOf (value .headless))

section offers

theorem offerText_eq (text : String) :
    offerText .stateDir text = offered .stateDir (.ok (textOf text)) ∧
      offerText .logLevel text = offered .logLevel (.ok (textOf text)) ∧
      offerText .metricsAddress text = offered .metricsAddress (.ok (textOf text)) := by
  unfold offerText textOf
  split <;> exact ⟨rfl, rfl, rfl⟩

theorem offerDuration_eq (text : String) :
    offerDuration .coordinatorTimeout text =
        offered .coordinatorTimeout (spanOf .coordinatorTimeout text) ∧
      offerDuration .shutdownTimeout text =
        offered .shutdownTimeout (spanOf .shutdownTimeout text) ∧
      offerDuration .simLatency text = offered .simLatency (spanOf .simLatency text) := by
  unfold offerDuration spanOf
  split
  · exact ⟨rfl, rfl, rfl⟩
  · cases Duration.parse text <;> exact ⟨rfl, rfl, rfl⟩

theorem offerNumber_eq (n : Int64) :
    offerNumber .maxRunning n = offered .maxRunning (.ok (positive n)) ∧
      offerNumber .simDrivers n = offered .simDrivers (.ok (positive n)) := by
  unfold offerNumber positive
  by_cases pos : 0 < n
  · simp only [if_neg (Int64.not_le.2 pos), if_pos pos]
    exact ⟨rfl, rfl⟩
  · simp only [if_pos (Int64.not_lt.1 pos), if_neg pos]
    exact ⟨rfl, rfl⟩

theorem offerNumberText_eq (text : String) :
    offerNumberText .maxRunning text = offered .maxRunning (numberOf .maxRunning text) ∧
      offerNumberText .simDrivers text = offered .simDrivers (numberOf .simDrivers text) := by
  unfold offerNumberText numberOf
  split
  · exact ⟨rfl, rfl⟩
  · cases Integer.decimal text with
    | error p => exact ⟨rfl, rfl⟩
    | ok n => exact offerNumber_eq n

theorem offerBool_eq (b : Option Bool) : offerBool .headless b = offered .headless (.ok b) := by
  cases b <;> rfl

end offers

/-- A file offers what it has, in order. -/
theorem File.offers_eq (f : File) : f.offers = Setting.order.flatMap f.source.offers := by
  simp only [File.offers, Setting.order, List.flatMap_cons, List.flatMap_nil, Source.offers,
    File.source, offerText_eq, offerDuration_eq, offerNumber_eq, offerBool_eq, List.append_assoc,
    List.append_nil]

/-- The environment offers what it has, in order. -/
theorem environmentOffers_eq (value : Setting → String) :
    environmentOffers value = Setting.order.flatMap (environment value).offers := by
  simp only [environmentOffers, Setting.order, List.flatMap_cons, List.flatMap_nil, Source.offers,
    environment, offerText_eq, offerDuration_eq, offerNumberText_eq, offerBool_eq,
    List.append_assoc, List.append_nil]
  rfl

/-! ## What cannot be read -/

theorem spanOf_error_iff {k : Setting} {text : String} :
    (∃ p, spanOf k text = .error p) ↔ text ≠ "" ∧ ∀ d, Duration.parse text ≠ .ok d := by
  unfold spanOf
  by_cases empty : text = ""
  · simp [empty]
  · rw [if_neg empty]
    cases Duration.parse text with
    | error p => exact iff_of_true ⟨_, rfl⟩ ⟨empty, nofun⟩
    | ok d => exact iff_of_false nofun fun bad => bad.2 d rfl

theorem numberOf_error_iff {k : Setting} {text : String} :
    (∃ p, numberOf k text = .error p) ↔ text ≠ "" ∧ ∀ n, Integer.decimal text ≠ .ok n := by
  unfold numberOf
  by_cases empty : text = ""
  · simp [empty]
  · rw [if_neg empty]
    cases Integer.decimal text with
    | error p => exact iff_of_true ⟨_, rfl⟩ ⟨empty, nofun⟩
    | ok n => exact iff_of_false nofun fun bad => bad.2 n rfl

/-- The text of a duration in the file. -/
def File.span? (f : File) : Setting → Option String
  | .coordinatorTimeout => some f.coordinatorTimeout
  | .shutdownTimeout => some f.shutdownTimeout
  | .simLatency => some f.simLatency
  | _ => none

/-- What cannot be read in a file is a duration. -/
theorem File.source_error_iff (f : File) (k : Setting) :
    (∃ p, f.source k = .error p) ↔
      ∃ text, f.span? k = some text ∧ text ≠ "" ∧ ∀ d, Duration.parse text ≠ .ok d := by
  cases k
  case coordinatorTimeout | shutdownTimeout | simLatency =>
    exact spanOf_error_iff.trans (by simp [File.span?])
  all_goals simp [File.source, File.span?]

/-- What cannot be read in the environment is a duration or a number. -/
theorem environment_error_iff (value : Setting → String) (k : Setting) :
    (∃ p, environment value k = .error p) ↔
      value k ≠ "" ∧ (k.isSpan ∧ (∀ d, Duration.parse (value k) ≠ .ok d) ∨
        k.isNumber ∧ ∀ n, Integer.decimal (value k) ≠ .ok n) := by
  cases k
  case coordinatorTimeout | shutdownTimeout | simLatency =>
    exact spanOf_error_iff.trans (by simp [Setting.isSpan, Setting.isNumber])
  case maxRunning | simDrivers =>
    exact numberOf_error_iff.trans (by simp [Setting.isSpan, Setting.isNumber])
  all_goals simp [environment, Setting.isSpan, Setting.isNumber]

/-! ## The command line, the environment, the file -/

/-- The command line wins over the environment, the environment over the file, and the file over
    what was there before. Each source is taken up to the first setting that cannot be read, which
    can only be a duration, or a number in the environment. -/
theorem precedence (f : File) (env : String → String) (changed : List String) :
    let explicit := changed.filterMap Setting.ofFlag?
    let text (k : Setting) := env k.variableName
    let fromFile (s : Settings) := s.adopt explicit f.offers
    let fromEnvironment (s : Settings) := s.adopt explicit (environmentOffers text)
    (∀ s, (fromFile s).2 = none → (fromEnvironment (fromFile s).1).2 = none →
      ∀ k, (fromEnvironment (fromFile s).1).1.get k =
        if k.flag ∈ changed then s.get k
        else ((environment text).value? k <|> f.source.value? k).getD (s.get k)) ∧
      (∀ s, (fromFile s).2 ≠ none ↔
        ∃ k span, f.span? k = some span ∧ k.flag ∉ changed ∧ span ≠ "" ∧
          ∀ d, Duration.parse span ≠ .ok d) ∧
      (∀ s, (fromEnvironment s).2 ≠ none ↔
        ∃ k, k.flag ∉ changed ∧ text k ≠ "" ∧
          (k.isSpan ∧ (∀ d, Duration.parse (text k) ≠ .ok d) ∨
            k.isNumber ∧ ∀ n, Integer.decimal (text k) ≠ .ok n)) ∧
      (∀ s, f.source.Takes explicit Setting.order s (fromFile s).1 (fromFile s).2) ∧
      ∀ s, (environment text).Takes explicit Setting.order s (fromEnvironment s).1
        (fromEnvironment s).2 := by
  intro explicit text fromFile fromEnvironment
  have file (s : Settings) :
      f.source.Takes explicit Setting.order s (fromFile s).1 (fromFile s).2 := by
    simp only [fromFile, f.offers_eq]
    exact f.source.adopt_offers explicit s Setting.nodup_order
  have vars (s : Settings) : (environment text).Takes explicit Setting.order s
      (fromEnvironment s).1 (fromEnvironment s).2 := by
    simp only [fromEnvironment, environmentOffers_eq]
    exact (environment text).adopt_offers explicit s Setting.nodup_order
  refine ⟨fun s ok ok' k => ?_, fun s => ?_, fun s => ?_, file, vars⟩
  · have first := (ok ▸ file s).get_eq (Setting.mem_order k)
    have second := (ok' ▸ vars (fromFile s).1).get_eq (Setting.mem_order k)
    rw [second, Source.choice, first, Source.choice]
    simp only [explicit, Setting.mem_explicit]
    split
    · rfl
    · cases (environment text).value? k <;> rfl
  · simp only [(file s).problem_iff, f.source_error_iff, explicit, Setting.mem_explicit]
    exact ⟨fun ⟨k, _, free, span, here, bad⟩ => ⟨k, span, here, free, bad⟩,
      fun ⟨k, span, here, free, bad⟩ => ⟨k, Setting.mem_order k, free, span, here, bad⟩⟩
  · simp only [(vars s).problem_iff, environment_error_iff, explicit, Setting.mem_explicit]
    exact ⟨fun ⟨k, _, bad⟩ => ⟨k, bad⟩, fun ⟨k, bad⟩ => ⟨k, Setting.mem_order k, bad⟩⟩

end Settings

end HeadUnit
