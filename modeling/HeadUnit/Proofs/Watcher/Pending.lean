import HeadUnit.Watcher

/-!
# The next reading of a watched file

A watcher sets a timer in place of the one that it set last. So at most one of its timers runs, and
that is the one that was set last (`Watcher.IsOrderly`), from the first start of a watcher on and
however often it is started again (`IsIdle.orderly`). Of its timers there is one thing to know: when
the file is read next, unless something happens before (`Watcher.pending?`).

* `pending?_of_change`: a change of the file puts the reading off until the delay has passed.
* `pending?_of_ended`: none is pending once the watcher is shut down or its context has ended.
* `readings_nil`, `readings_cons`: a pending reading happens at its instant, and this is the only
  way in which a watcher at work reads the file.
-/

namespace HeadUnit.Watcher

variable {w : Watcher} {now : Int} {h : Happening}

/-- At most one timer runs, and that is the one that was set last. -/
structure IsOrderly (w : Watcher) : Prop where
  patient : 0 < w.delay.toInt
  single : w.alarms.length ≤ 1
  latest : ∀ a ∈ w.alarms, w.latest = some a.id
  past : ∀ a ∈ w.alarms, a.context ≤ w.context

/-- When the file is read next if nothing happens before. -/
def pending? (w : Watcher) : Option Int := (w.alarms.find? w.lasts).map (·.due)

/-- The watcher is not at work: it is new, or its context has ended since it was started last. -/
inductive IsIdle : Watcher → Prop
  | fresh (path : String) (delay : Duration) : IsIdle (fresh path delay)
  | again {w₀ w : Watcher} {s : Started} {tunable : Bool} {folder : Option Fault}
      {found : Finding} {hs : List (Int × Happening)} (idle : IsIdle w₀)
      (launched : w₀.launch tunable folder found = .ok (s, w)) (ended : (w.after hs).ended = true) :
      IsIdle (w.after hs)

/-! ## What happens -/

/-- The contents of the file at `path` change. -/
def Happening.isChange (path : String) : Happening → Bool
  | .event e => e.concerns path
  | _ => false

/-- The watcher stops working. -/
def Happening.isEnd : Happening → Bool
  | .contextEnded | .shutdown => true
  | _ => false

theorem take_of_change (alive : w.ended = false) (change : h.isChange w.path = true) :
    w.take now h = w.schedule now := by
  cases h with
  | event e => exact if_pos (by rw [alive]; exact change)
  | trouble | contextEnded | shutdown => cases change

/-- Nothing counts but changes of the file and the end of the work. -/
theorem take_of_other (other : h.isChange w.path = false) (goesOn : h.isEnd = false) :
    w.take now h = w := by
  cases h with
  | event e => exact if_neg (by simp [show e.concerns w.path = false from other])
  | trouble => rfl
  | contextEnded | shutdown => cases goesOn

@[simp]
theorem ended_take (w : Watcher) (now : Int) (h : Happening) :
    (w.take now h).ended = (w.ended || h.isEnd) := by
  cases h with
  | event e =>
    refine Eq.trans ?_ (Bool.or_false w.ended).symm
    rw [take]
    split
    · rfl
    · rfl
  | trouble => exact (Bool.or_false w.ended).symm
  | contextEnded | shutdown => exact (Bool.or_true w.ended).symm

@[simp]
theorem path_take (w : Watcher) (now : Int) (h : Happening) : (w.take now h).path = w.path := by
  cases h with
  | event e =>
    rw [take]
    split
    · rfl
    · rfl
  | trouble | contextEnded | shutdown => rfl

@[simp]
theorem delay_take (w : Watcher) (now : Int) (h : Happening) : (w.take now h).delay = w.delay := by
  cases h with
  | event e =>
    rw [take]
    split
    · rfl
    · rfl
  | trouble | contextEnded | shutdown => rfl

@[simp]
theorem ended_lapse (w : Watcher) (now : Int) : (w.lapse now).ended = w.ended := rfl

@[simp]
theorem path_lapse (w : Watcher) (now : Int) : (w.lapse now).path = w.path := rfl

@[simp]
theorem delay_lapse (w : Watcher) (now : Int) : (w.lapse now).delay = w.delay := rfl

/-! ## Timers -/

namespace IsOrderly

/-- A timer is set where no other is left. -/
theorem schedule_eq (orderly : w.IsOrderly) (now : Int) : w.schedule now =
    { w with
      alarms := [⟨w.minted, now + w.delay.toInt, w.context⟩]
      latest := some w.minted
      minted := w.minted + 1 } := by
  have none : (w.alarms.filter fun a => w.latest != some a.id) = [] :=
    List.filter_eq_nil_iff.2 fun a mem => by simp [orderly.latest a mem]
  rw [Watcher.schedule, callOff, none]
  rfl

/-- No timer, or one. -/
theorem alarms_eq (orderly : w.IsOrderly) : ∃ a : Option Alarm, w.alarms = a.toList := by
  have single := orderly.single
  match eq : w.alarms with
  | [] => exact ⟨none, rfl⟩
  | [a] => exact ⟨some a, rfl⟩
  | _ :: _ :: _ => simp [eq] at single

theorem fresh (path : String) (delay : Duration) : (fresh path delay).IsOrderly where
  patient := by
    simp only [Watcher.fresh]
    split
    case isTrue => decide
    case isFalse positive => exact Int64.lt_iff_toInt_lt.1 (Int64.not_le.1 positive)
  single := by simp [Watcher.fresh]
  latest := by simp [Watcher.fresh]
  past := by simp [Watcher.fresh]

/-- Timers that stop leave those in order that run. -/
theorem filter (orderly : w.IsOrderly) (p : Alarm → Bool) (ended : Bool) :
    ({ w with alarms := w.alarms.filter p, ended } : Watcher).IsOrderly where
  patient := orderly.patient
  single := Nat.le_trans (List.length_filter_le p w.alarms) orderly.single
  latest a mem := orderly.latest a (List.mem_filter.1 mem).1
  past a mem := orderly.past a (List.mem_filter.1 mem).1

theorem enter (orderly : w.IsOrderly) : w.enter.IsOrderly :=
  { orderly with past := fun a mem => Nat.le_succ_of_le (orderly.past a mem) }

theorem schedule (orderly : w.IsOrderly) (now : Int) : (w.schedule now).IsOrderly := by
  rw [orderly.schedule_eq now]
  exact ⟨orderly.patient, by simp, by simp, by simp⟩

theorem lapse (orderly : w.IsOrderly) (now : Int) : (w.lapse now).IsOrderly :=
  orderly.filter _ w.ended

theorem take (orderly : w.IsOrderly) (now : Int) (h : Happening) : (w.take now h).IsOrderly := by
  cases h with
  | event e =>
    rw [Watcher.take]
    split
    · exact orderly.schedule now
    · exact orderly
  | trouble => exact orderly
  | contextEnded => exact { orderly with }
  | shutdown => exact orderly.filter _ true

theorem after (orderly : w.IsOrderly) (hs : List (Int × Happening)) : (w.after hs).IsOrderly := by
  induction hs generalizing w with
  | nil => exact orderly
  | cons x rest ih => exact ih ((orderly.lapse x.1).take x.1 x.2)

end IsOrderly

/-- A watcher that is started goes to work exactly if it can watch. -/
theorem launch_eq {s : Started} {w₀ : Watcher} {tunable : Bool} {folder : Option Fault}
    {found : Finding} (launched : w₀.launch tunable folder found = .ok (s, w)) :
    start w₀.path tunable folder found = .ok s ∧ w = if s.watching then w₀.enter else w₀ := by
  rw [launch] at launched
  cases began : start w₀.path tunable folder found with
  | error f => simp [began, Except.map] at launched
  | ok s' =>
    simp only [began, Except.map, Except.ok.injEq, Prod.mk.injEq] at launched
    obtain ⟨rfl, rfl⟩ := launched
    exact ⟨rfl, rfl⟩

/-- A watcher that watches has read the file at its start. -/
theorem tunings_of_start {s : Started} {path : String} {tunable : Bool} {folder : Option Fault}
    {found : Finding} (began : start path tunable folder found = .ok s)
    (watching : s.watching = true) : s.tunings = (reload path found).1 := by
  cases folder with
  | some f =>
    rw [start] at began
    split at began
    · cases began
      cases watching
    · cases began
  | none =>
    rw [start] at began
    split at began
    · cases began
      cases watching
    · cases began
      rfl

theorem IsIdle.orderly (idle : w.IsIdle) : w.IsOrderly := by
  induction idle with
  | fresh path delay => exact .fresh path delay
  | again _ launched _ ih =>
    refine IsOrderly.after ?_ _
    rw [(launch_eq launched).2]
    split
    · exact ih.enter
    · exact ih

/-! ## The pending reading -/

theorem pending?_of_ended (ended : w.ended = true) : w.pending? = none := by
  simp [pending?, lasts, ended]

/-- Nothing is pending when the work begins, as timers of before belong to another context. -/
theorem pending?_enter (orderly : w.IsOrderly) : w.enter.pending? = none := by
  refine Option.map_eq_none_iff.2 (List.find?_eq_none.2 ?_)
  intro a mem
  have before := orderly.past a mem
  simp only [lasts, enter, Bool.and_eq_true, beq_iff_eq]
  omega

theorem pending?_of_change (orderly : w.IsOrderly) (alive : w.ended = false)
    (change : h.isChange w.path = true) :
    (w.take now h).pending? = some (now + w.delay.toInt) := by
  rw [take_of_change alive change, orderly.schedule_eq]
  simp [pending?, lasts, alive]

theorem pending?_lapse (orderly : w.IsOrderly) (now : Int) :
    (w.lapse now).pending? = w.pending?.filter (now < ·) := by
  obtain ⟨a, eq⟩ := orderly.alarms_eq
  have same : (w.lapse now).lasts = w.lasts := rfl
  cases a with
  | none => simp [pending?, lapse, eq]
  | some a =>
    rw [pending?, pending?, same, lapse, eq]
    by_cases later : now < a.due <;> by_cases counts : w.lasts a = true <;>
      simp [Option.filter, later, counts]

/-! ## Readings -/

/-- The reading of a file at an instant. -/
def reading (path : String) (file : Int → Finding) (t : Int) :
    Int × List Tuning × List Note :=
  (t, reload path (file t))

theorem readingsOf_append (ds es : List (Int × Doing)) :
    readingsOf (ds ++ es) = readingsOf ds ++ readingsOf es := List.filterMap_append

/-- What is done at once is no reading. -/
theorem readingsOf_answer (w : Watcher) (now : Int) (h : Happening) :
    readingsOf (w.answer now h) = [] := by
  cases h with
  | trouble f =>
    rw [answer]
    split <;> rfl
  | event | contextEnded | shutdown => rfl

theorem readingsOf_rings (orderly : w.IsOrderly) (file : Int → Finding) (p : Int → Bool) :
    readingsOf (w.rings file (w.alarms.filter fun a => p a.due)) =
      (w.pending?.filter p).toList.map (reading w.path file) := by
  obtain ⟨a, eq⟩ := orderly.alarms_eq
  cases a with
  | none => simp [pending?, rings, eq, readingsOf]
  | some a =>
    rw [pending?, rings, eq]
    by_cases due : p a.due = true <;> by_cases counts : w.lasts a = true <;>
      simp [Option.filter, ring, due, counts, readingsOf, reading, Doing.reading?]

/-- When nothing happens any more, the file is read as it is pending. -/
theorem readings_nil (orderly : w.IsOrderly) (file : Int → Finding) :
    w.readings file [] = w.pending?.toList.map (reading w.path file) := by
  have rung := readingsOf_rings orderly file fun _ => true
  have all : w.pending?.filter (fun _ => true) = w.pending? := by cases w.pending? <;> rfl
  rwa [List.filter_eq_self.2 fun _ _ => rfl, all] at rung

/-- The file is read before something happens if it is due until then. -/
theorem readings_cons (orderly : w.IsOrderly) (file : Int → Finding) (now : Int)
    (h : Happening) (rest : List (Int × Happening)) :
    w.readings file ((now, h) :: rest) =
      (w.pending?.filter (· ≤ now)).toList.map (reading w.path file) ++
        ((w.lapse now).take now h).readings file rest := by
  have rung := readingsOf_rings orderly file fun d => d ≤ now
  rw [readings, run, readingsOf_append, readingsOf_append, readingsOf_answer, List.append_nil,
    rung]
  rfl

end HeadUnit.Watcher
