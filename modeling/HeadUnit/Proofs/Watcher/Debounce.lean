import HeadUnit.Proofs.Watcher.Pending
import Mathlib.Data.List.SplitBy

/-!
# A watched file is read once for every burst of changes

A watcher at work reads the file when the file has been left alone for the delay after a change,
provided that it still works then (`settled`). So the changes fall into bursts, in which one change
follows the other before the delay has passed (`bursts`), and after the last change of every burst
the file is read once, for what it holds by then (`read_when_left_alone`).

The readings to come can be told from the one that is pending and from what is still to happen
(`foreseen`). They stay the same whatever happens next, except that those that are due have been
made (`foreseen_cons`); hence they are what a watcher reads (`readings_eq`).
-/

namespace HeadUnit.Watcher

variable {w : Watcher} {path : String} {d t : Int} {ts : List Int} {h : Happening}
  {rest hs : List (Int × Happening)}

/-- The instants at which the contents of the file at `path` change. -/
def changes (path : String) (hs : List (Int × Happening)) : List Int :=
  (hs.filter (·.2.isChange path)).map (·.1)

/-- The instants at which the watcher stops working. -/
def ends (hs : List (Int × Happening)) : List Int := (hs.filter (·.2.isEnd)).map (·.1)

/-- What happens is told in the order of time. No two of the instants that count are equal: those
    at which the file changes, those at which the delay after a change has passed, and those at
    which the watcher stops working. -/
structure IsTimeline (path : String) (d : Int) (hs : List (Int × Happening)) : Prop where
  ordered : hs.Pairwise fun x y => x.1 ≤ y.1
  distinct : (changes path hs ++ (changes path hs).map (· + d) ++ ends hs).Nodup

/-- The instants after which there is no other until `d` has passed. -/
def pauses (d : Int) (ts : List Int) : List Int :=
  ts.filter fun t => ∀ u ∈ ts, t < u → t + d ≤ u

/-- The changes after which the file is left alone until the delay `d` has passed, with the watcher
    still at work then. -/
def settled (path : String) (d : Int) (hs : List (Int × Happening)) : List Int :=
  (pauses d (changes path hs)).filter fun t => ∀ u ∈ ends hs, t + d ≤ u

/-- Instants that follow each other before `d` has passed are put together. -/
def bursts (d : Int) (ts : List Int) : List (List Int) := ts.splitBy fun t u => u < t + d

/-! ## Pauses and bursts -/

theorem pauses_cons (increasing : (t :: ts).Pairwise (· < ·)) :
    pauses d (t :: ts) = (if ∀ u ∈ ts, t + d ≤ u then [t] else []) ++ pauses d ts := by
  have later : ∀ u ∈ ts, t < u := (List.pairwise_cons.1 increasing).1
  have first : (∀ u ∈ t :: ts, t < u → t + d ≤ u) ↔ ∀ u ∈ ts, t + d ≤ u := by
    refine List.forall_mem_cons.trans ⟨fun all u mem => all.2 u mem (later u mem), fun all => ?_⟩
    exact ⟨fun again => absurd again (Int.lt_irrefl t), fun u mem _ => all u mem⟩
  have others : ts.filter (fun u => ∀ v ∈ t :: ts, u < v → u + d ≤ v) = pauses d ts := by
    refine List.filter_congr fun u mem => decide_eq_decide.2 ?_
    refine List.forall_mem_cons.trans ⟨fun all => all.2, fun all => ⟨fun earlier => ?_, all⟩⟩
    exact absurd earlier (Int.not_lt.2 (Int.le_of_lt (later u mem)))
  rw [pauses, List.filter_cons, others]
  simp only [first, decide_eq_true_eq]
  split
  · rfl
  · rfl

theorem bursts_of_pause {u : Int} (pause : t + d ≤ u) (us : List Int) :
    bursts d (t :: u :: us) = [t] :: bursts d (u :: us) := by
  have apart : ∀ x ∈ [t].getLast?, decide (u < x + d) = false := by
    simpa using pause
  have alone : bursts d [t] = [[t]] := List.splitBy_of_isChain (List.cons_ne_nil t []) (.singleton t)
  have split := List.splitBy_append_cons (r := fun t u => decide (u < t + d)) us apart
  exact split.trans (congrArg (· ++ bursts d (u :: us)) alone)

theorem bursts_of_close {u : Int} (close : u < t + d) {us g : List Int} {gs : List (List Int)}
    (split : bursts d (u :: us) = (u :: g) :: gs) :
    bursts d (t :: u :: us) = (t :: u :: g) :: gs := by
  obtain ⟨joined, full, dense, apart⟩ := List.splitBy_eq_iff.1 split
  refine List.splitBy_eq_iff.2 ⟨by simpa using joined, by simpa using full, ?_, ?_⟩
  · refine List.forall_mem_cons.2 ⟨?_, fun b mem => dense b (.tail _ mem)⟩
    exact .cons_cons (by simpa using close) (dense _ (.head gs))
  · simpa [List.isChain_cons] using apart

/-- The first burst begins with the first instant. -/
theorem bursts_cons (d u : Int) (us : List Int) : ∃ g gs, bursts d (u :: us) = (u :: g) :: gs := by
  cases split : bursts d (u :: us) with
  | nil => exact absurd split (List.splitBy_ne_nil.2 (List.cons_ne_nil u us))
  | cons b gs =>
    obtain ⟨joined, full, -⟩ := List.splitBy_eq_iff.1 split
    cases b with
    | nil => exact absurd (.head gs) full
    | cons v g =>
      obtain ⟨rfl, -⟩ := List.cons.inj joined
      exact ⟨g, gs, rfl⟩

/-- The instants that are followed by a pause are the last ones of the bursts. -/
theorem pauses_eq (increasing : ts.Pairwise (· < ·)) :
    pauses d ts = (bursts d ts).filterMap List.getLast? := by
  induction ts with
  | nil => rfl
  | cons t ts ih =>
    rw [pauses_cons increasing, ih (List.pairwise_cons.1 increasing).2]
    cases ts with
    | nil => simp [bursts, List.splitBy_of_isChain]
    | cons u us =>
      by_cases pause : t + d ≤ u
      · have all : ∀ v ∈ u :: us, t + d ≤ v := by
          refine List.forall_mem_cons.2 ⟨pause, fun v mem => ?_⟩
          have later := (List.pairwise_cons.1 (List.pairwise_cons.1 increasing).2).1 v mem
          omega
        rw [if_pos all, bursts_of_pause pause]
        rfl
      · obtain ⟨g, gs, split⟩ := bursts_cons d u us
        rw [if_neg fun all => pause (all u (.head us)),
          bursts_of_close (Int.not_le.1 pause) split, split, List.filterMap_cons,
          List.filterMap_cons, List.getLast?_cons_cons]
        rfl

/-! ## Timelines -/

theorem changes_of_change (change : h.isChange path = true) :
    changes path ((t, h) :: rest) = t :: changes path rest := by
  simp [changes, change]

theorem changes_of_other (other : h.isChange path = false) :
    changes path ((t, h) :: rest) = changes path rest := by
  simp [changes, other]

theorem ends_of_end (stops : h.isEnd = true) : ends ((t, h) :: rest) = t :: ends rest := by
  simp [ends, stops]

theorem ends_of_other (goesOn : h.isEnd = false) : ends ((t, h) :: rest) = ends rest := by
  simp [ends, goesOn]

/-- What changes the file does not end the work. -/
theorem isEnd_of_change (change : h.isChange path = true) : h.isEnd = false := by
  cases h with
  | event => rfl
  | trouble | contextEnded | shutdown => cases change

/-- A reading that is due at `r` is neither put off nor called off. -/
def IsUndisturbed (path : String) (hs : List (Int × Happening)) (r : Int) : Prop :=
  (∀ u ∈ changes path hs, r ≤ u) ∧ ∀ u ∈ ends hs, r ≤ u

instance (path : String) (hs : List (Int × Happening)) : DecidablePred (IsUndisturbed path hs) :=
  fun _ => inferInstanceAs (Decidable (_ ∧ _))

theorem le_instant {r : Int} (early : ∀ x ∈ hs, r ≤ x.1) (p : Int × Happening → Bool) :
    ∀ u ∈ (hs.filter p).map (·.1), r ≤ u := by
  intro u mem
  obtain ⟨x, within, rfl⟩ := List.mem_map.1 mem
  exact early x (List.mem_filter.1 within).1

/-- Only what happens before a reading disturbs it. -/
theorem isUndisturbed_of_le {r : Int} (early : ∀ x ∈ hs, r ≤ x.1) : IsUndisturbed path hs r :=
  ⟨le_instant early _, le_instant early _⟩

namespace IsTimeline

theorem tail (timeline : IsTimeline path d ((t, h) :: rest)) : IsTimeline path d rest where
  ordered := (List.pairwise_cons.1 timeline.ordered).2
  distinct := by
    refine timeline.distinct.sublist (.append (.append ?_ (.map _ ?_)) ?_)
    all_goals exact ((List.sublist_cons_self _ _).filter _).map _

/-- The changes come one after the other. -/
theorem increasing (timeline : IsTimeline path d hs) : (changes path hs).Pairwise (· < ·) := by
  have ordered : (changes path hs).Pairwise (· ≤ ·) :=
    List.pairwise_map.2 (timeline.ordered.filter _)
  have distinct : (changes path hs).Nodup :=
    (List.nodup_append.1 (List.nodup_append.1 timeline.distinct).1).1
  exact (ordered.and distinct).imp fun both => Int.lt_iff_le_and_ne.2 both

theorem isUndisturbed (timeline : IsTimeline path d ((t, h) :: rest)) {r : Int} (early : r ≤ t) :
    IsUndisturbed path rest r :=
  isUndisturbed_of_le fun x mem =>
    Int.le_trans early ((List.pairwise_cons.1 timeline.ordered).1 x mem)

/-- A reading is disturbed by the first thing that counts, unless it comes before that. -/
theorem isUndisturbed_cons (timeline : IsTimeline path d ((t, h) :: rest))
    (counts : h.isChange path = true ∨ h.isEnd = true) (r : Int) :
    IsUndisturbed path ((t, h) :: rest) r ↔ r ≤ t := by
  constructor
  · intro undisturbed
    rcases counts with change | stops
    · exact undisturbed.1 t (by simp [changes_of_change change])
    · exact undisturbed.2 t (by simp [ends_of_end stops])
  · intro early
    refine isUndisturbed_of_le (List.forall_mem_cons.2 ⟨early, fun x mem => ?_⟩)
    exact Int.le_trans early ((List.pairwise_cons.1 timeline.ordered).1 x mem)

theorem settled_of_change (timeline : IsTimeline path d ((t, h) :: rest))
    (change : h.isChange path = true) :
    settled path d ((t, h) :: rest) =
      (if IsUndisturbed path rest (t + d) then [t] else []) ++ settled path d rest := by
  have increasing := timeline.increasing
  rw [changes_of_change change] at increasing
  rw [settled, changes_of_change change, ends_of_other (isEnd_of_change change),
    pauses_cons increasing, List.filter_append, ← settled]
  refine congrArg (· ++ _) ?_
  by_cases pause : ∀ u ∈ changes path rest, t + d ≤ u
  · rw [if_pos pause, List.filter_cons]
    simp only [IsUndisturbed, decide_eq_true_eq, and_iff_right pause, List.filter_nil]
  · rw [if_neg pause, if_neg fun quiet => pause quiet.1, List.filter_nil]

/-- Nothing settles after the end of the work. -/
theorem settled_of_end (timeline : IsTimeline path d ((t, h) :: rest)) (patient : 0 < d)
    (stops : h.isEnd = true) : settled path d ((t, h) :: rest) = [] := by
  refine List.filter_eq_nil_iff.2 fun u mem atWork => ?_
  have late := of_decide_eq_true atWork t (by simp [ends_of_end stops])
  have counts := isUndisturbed_cons timeline (.inr stops) t
  have early := (counts.2 (Int.le_refl t)).1 u (List.mem_filter.1 mem).1
  omega

end IsTimeline

theorem settled_of_other (other : h.isChange path = false) (goesOn : h.isEnd = false) :
    settled path d ((t, h) :: rest) = settled path d rest := by
  rw [settled, settled, changes_of_other other, ends_of_other goesOn]

/-! ## The readings to come -/

/-- The instants at which a watcher will read the file, given what happens when. -/
def foreseen (w : Watcher) (hs : List (Int × Happening)) : List Int :=
  (w.pending?.filter (IsUndisturbed w.path hs)).toList ++
    if w.ended then [] else (settled w.path w.delay.toInt hs).map (· + w.delay.toInt)

theorem foreseen_of_ended (ended : w.ended = true) (hs : List (Int × Happening)) :
    w.foreseen hs = [] := by
  simp [foreseen, pending?_of_ended ended, ended]

theorem foreseen_of_alive (alive : w.ended = false) (hs : List (Int × Happening)) :
    w.foreseen hs = (w.pending?.filter (IsUndisturbed w.path hs)).toList ++
      (settled w.path w.delay.toInt hs).map (· + w.delay.toInt) := by
  simp [foreseen, alive]

/-- The reading that is pending after a change is foreseen as the change settles. -/
theorem foreseen_of_change (orderly : w.IsOrderly)
    (timeline : IsTimeline w.path w.delay.toInt ((t, h) :: rest)) (alive : w.ended = false)
    (change : h.isChange w.path = true) :
    w.foreseen ((t, h) :: rest) =
      (w.pending?.filter (· ≤ t)).toList ++ ((w.lapse t).take t h).foreseen rest := by
  have before := timeline.isUndisturbed_cons (.inl change)
  have pending : ((w.lapse t).take t h).pending? = some (t + w.delay.toInt) :=
    pending?_of_change (orderly.lapse t) alive change
  have still : ((w.lapse t).take t h).ended = false := by simp [isEnd_of_change change, alive]
  rw [foreseen_of_alive alive, foreseen_of_alive still, pending, timeline.settled_of_change change]
  by_cases quiet : IsUndisturbed w.path rest (t + w.delay.toInt) <;>
    simp [Option.filter, before, quiet]

/-- What does not count leaves all as it is. -/
theorem foreseen_of_other (orderly : w.IsOrderly)
    (timeline : IsTimeline w.path w.delay.toInt ((t, h) :: rest)) (alive : w.ended = false)
    (other : h.isChange w.path = false) (goesOn : h.isEnd = false) :
    w.foreseen ((t, h) :: rest) =
      (w.pending?.filter (· ≤ t)).toList ++ ((w.lapse t).take t h).foreseen rest := by
  have same : (w.lapse t).take t h = w.lapse t := take_of_other other goesOn
  have counts : ∀ r, IsUndisturbed w.path ((t, h) :: rest) r ↔ IsUndisturbed w.path rest r := by
    intro r
    rw [IsUndisturbed, changes_of_other other, ends_of_other goesOn, IsUndisturbed]
  rw [same, foreseen_of_alive alive, foreseen_of_alive (w := w.lapse t) alive,
    pending?_lapse orderly, settled_of_other other goesOn, ← List.append_assoc]
  simp only [counts, path_lapse, delay_lapse, List.append_cancel_right_eq]
  -- What is due by now comes before all that is still to happen, so nothing disturbs it.
  cases w.pending? with
  | none => rfl
  | some r =>
    rcases Int.lt_or_le t r with later | early
    · by_cases quiet : IsUndisturbed w.path rest r <;>
        simp [Option.filter, Int.not_le.2 later, later, quiet]
    · simp [Option.filter, early, Int.not_lt.2 early, timeline.isUndisturbed early]

/-- What is foreseen is read before something happens, or is still foreseen afterwards. -/
theorem foreseen_cons (orderly : w.IsOrderly)
    (timeline : IsTimeline w.path w.delay.toInt ((t, h) :: rest)) :
    w.foreseen ((t, h) :: rest) =
      (w.pending?.filter (· ≤ t)).toList ++ ((w.lapse t).take t h).foreseen rest := by
  cases alive : w.ended with
  | true =>
    -- Only a start brings a watcher back to work.
    rw [foreseen_of_ended alive, foreseen_of_ended (by simp [alive]), pending?_of_ended alive]
    rfl
  | false =>
    cases change : h.isChange w.path with
    | true => exact foreseen_of_change orderly timeline alive change
    | false =>
      cases stops : h.isEnd with
      | true =>
        have before := timeline.isUndisturbed_cons (.inr stops)
        rw [foreseen_of_alive alive, foreseen_of_ended (by simp [stops]),
          timeline.settled_of_end orderly.patient stops]
        simp [before]
      | false => exact foreseen_of_other orderly timeline alive change stops

/-- A watcher reads the file at the instants that are foreseen. -/
theorem readings_eq (orderly : w.IsOrderly) (timeline : IsTimeline w.path w.delay.toInt hs)
    (file : Int → Finding) :
    w.readings file hs = (w.foreseen hs).map (reading w.path file) := by
  -- By induction on what happens, for any watcher whose timers are in order: a reading may be
  -- pending from before.
  induction hs generalizing w with
  | nil =>
    have all : w.pending?.filter (IsUndisturbed w.path []) = w.pending? := by
      cases w.pending? <;> simp [Option.filter, IsUndisturbed, changes, ends]
    rw [readings_nil orderly, foreseen, all]
    simp [settled, pauses, changes]
  | cons x rest ih =>
    obtain ⟨t, h⟩ := x
    have next := ih ((orderly.lapse t).take t h) (by simpa using timeline.tail)
    rw [readings_cons orderly, foreseen_cons orderly timeline, List.map_append, next]
    simp

/-- A watcher that has just gone to work reads the file after the changes that settle. -/
theorem readings_of_unset (orderly : w.IsOrderly) (alive : w.ended = false)
    (unset : w.pending? = none) (timeline : IsTimeline w.path w.delay.toInt hs)
    (file : Int → Finding) :
    w.readings file hs =
      (settled w.path w.delay.toInt hs).map fun t => reading w.path file (t + w.delay.toInt) := by
  rw [readings_eq orderly timeline, foreseen_of_alive alive, unset, List.map_append, List.map_map]
  rfl

/-! ## Main result -/

theorem mem_settled : t ∈ settled path d hs ↔ t ∈ changes path hs ∧
    (∀ u ∈ changes path hs, t < u → t + d ≤ u) ∧ ∀ u ∈ ends hs, t + d ≤ u := by
  simp only [settled, pauses, List.mem_filter, decide_eq_true_eq, and_assoc]

/-- A watcher that has been started reads the file then, and after that it reads it when the delay
    has passed after a change, if there was no other change before and the watcher still works. It
    reads the file at no other time, and never twice at once. So the file is read once for every
    burst of changes after which the watcher goes on working, when the delay has passed after its
    last change. Always what is read is what the file holds at that time. -/
theorem read_when_left_alone {w₀ w : Watcher} {s : Started} {tunable : Bool}
    {folder : Option Fault} {file : Int → Finding} {begun : Int}
    {hs : List (Int × Happening)} (idle : w₀.IsIdle)
    (launched : w₀.launch tunable folder (file begun) = .ok (s, w)) (watching : s.watching = true)
    (timeline : IsTimeline w.path w.delay.toInt hs) :
    s.tunings = (reload w.path (file begun)).1 ∧
      (∀ r x, (r, x) ∈ w.readings file hs ↔ x = reload w.path (file r) ∧
        ∃ t ∈ changes w.path hs, r = t + w.delay.toInt ∧
          (∀ u ∈ changes w.path hs, ¬ (t < u ∧ u < r)) ∧ ∀ u ∈ ends hs, ¬ u < r) ∧
      ((w.readings file hs).map (·.1)).Pairwise (· < ·) ∧
      w.readings file hs =
        (((bursts w.delay.toInt (changes w.path hs)).filterMap List.getLast?).filter
          fun t => ∀ u ∈ ends hs, t + w.delay.toInt ≤ u).map
          fun t => reading w.path file (t + w.delay.toInt) := by
  obtain ⟨began, eq⟩ := launch_eq launched
  rw [if_pos watching] at eq
  have same : w.path = w₀.path := by
    rw [eq]
    rfl
  have orderly : w.IsOrderly := eq ▸ idle.orderly.enter
  have unset : w.pending? = none := eq ▸ pending?_enter idle.orderly
  have readings := readings_of_unset orderly (by rw [eq]; rfl) unset timeline file
  have increasing := timeline.increasing
  refine ⟨same ▸ tunings_of_start began watching, ?_, ?_, ?_⟩
  · intro r x
    rw [readings, List.mem_map]
    constructor
    · rintro ⟨t, mem, eq⟩
      obtain ⟨rfl, rfl⟩ := Prod.mk.inj eq
      obtain ⟨change, alone, atWork⟩ := mem_settled.1 mem
      refine ⟨rfl, t, change, rfl, fun u later => ?_, fun u stops => Int.not_lt.2 (atWork u stops)⟩
      rintro ⟨after, before⟩
      exact absurd before (Int.not_lt.2 (alone u later after))
    · rintro ⟨rfl, t, change, rfl, alone, atWork⟩
      refine ⟨t, mem_settled.2 ⟨change, fun u later after => ?_, fun u stops => ?_⟩, rfl⟩
      · exact Int.not_lt.1 fun before => alone u later ⟨after, before⟩
      · exact Int.not_lt.1 (atWork u stops)
  · rw [readings, List.map_map, List.pairwise_map]
    refine ((increasing.filter _).filter _).imp fun earlier => ?_
    exact Int.add_lt_add_right earlier _
  · rw [readings, settled, pauses_eq increasing]

namespace Sample

/-- Where the settings file of the sample is. -/
def place : String := "/etc/head/config.toml"

/-- What it holds: it is put in place, and replaced later. -/
def contents (t : Int) : Finding :=
  if t < 20 then .missing
  else if t < 35 then .text "max_running_users = 3\n"
  else .text "max_running_users = 5\n"

/-- Two changes in a burst, with a change of another file between them, a change that stands alone,
    and one that the shutdown follows too soon. -/
def day : List (Int × Happening) :=
  [(5, .event { path := place, created := true }),
    (8, .event { path := "/etc/head/other.toml", written := true }),
    (12, .event { path := place, renamed := true }), (14, .event { path := place, touched := true }),
    (30, .event { path := place, written := true }), (33, .trouble (.told "overflow")),
    (60, .event { path := place, written := true }), (65, .shutdown),
    (71, .event { path := place, written := true })]

end Sample

/-- Of the four bursts of the sample, two lead to a reading. -/
theorem read_twice_of_sample : ∃ s w,
    (fresh Sample.place 10).launch true none (Sample.contents 0) = .ok (s, w) ∧
      s.watching = true ∧ IsTimeline w.path w.delay.toInt Sample.day ∧
      bursts w.delay.toInt (changes w.path Sample.day) = [[5, 12], [30], [60], [71]] ∧
      (w.readings Sample.contents Sample.day).map (fun x => (x.1, x.2.1)) =
        [(22, [.maxRunning 3]), (40, [.maxRunning 5])] := by
  have launched : (fresh Sample.place 10).launch true none (Sample.contents 0) =
    .ok (⟨true, [], [.count (.reload .missing), Note.info "config watcher plugin initialized"
        [Log.str "path" Sample.place]]⟩, (fresh Sample.place 10).enter) := rfl
  have changed : changes Sample.place Sample.day = [5, 12, 30, 60, 71] := by decide +kernel
  have timeline : IsTimeline Sample.place 10 Sample.day := ⟨by decide, by rw [changed]; decide⟩
  have split : bursts 10 (changes Sample.place Sample.day) = [[5, 12], [30], [60], [71]] := by
    rw [changed]
    decide
  obtain ⟨-, -, -, readings⟩ :=
    read_when_left_alone (.fresh Sample.place 10) launched rfl timeline
  refine ⟨_, _, launched, rfl, timeline, split, ?_⟩
  rw [readings]
  decide +kernel

end HeadUnit.Watcher
