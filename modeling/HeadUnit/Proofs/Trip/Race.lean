import HeadUnit.Trip

/-!
# A trip ends with what comes first

Four things may end the wait for the vehicle: its answer, the timeout, the caller's own
deadline and the caller's cancellation (`Course.instants`). A call returns at the first of
them, heeding vehicle or not, and the verdict tells which one it was (`conduct_first`).

  * `cut_cases`: the context ends with the first deadline or with a cancellation before it.
  * `run_cases`: the call ends with the first of the answer, the cutoff and the cancellation.
  * `Ends.run_eq`: where a vehicle gives up in the very instant in which the context ends, it
    makes no difference which of the two the caller sees.
-/

namespace HeadUnit.Trip

variable {α : Type} {blank : α} {c : Course α}

/-- When the vehicle is done if nothing keeps it. -/
def Course.done (c : Course α) : Int := max c.delay 0

/-- The instants at which the wait may end. -/
def Course.instants (c : Course α) : List Int :=
  c.done :: c.timeout :: (c.deadline.toList ++ c.cancel.toList)

/-- The wait can end with `e` at `t`: the vehicle has spoken and the context has not ended
    before, or the other way round. -/
def Course.Ends (blank : α) (c : Course α) (e : Ending α) (t : Int) : Prop :=
  (c.reply blank = (e, t) ∧ t ≤ c.cut.2) ∨ (c.cut = (e, t) ∧ t ≤ (c.reply blank).2)

/-! ## The end of the context -/

theorem done_nonneg (c : Course α) : 0 ≤ c.done := Int.le_max_right ..

theorem cutoff_le_timeout (c : Course α) : c.cutoff ≤ c.timeout := by
  unfold Course.cutoff
  split <;> omega

theorem cutoff_le_deadline {d : Int} (own : c.deadline = some d) : c.cutoff ≤ d := by
  rw [Course.cutoff, own]
  exact Int.min_le_left ..

theorem cutoff_cases (c : Course α) : c.cutoff = c.timeout ∨ c.deadline = some c.cutoff := by
  unfold Course.cutoff
  split
  case h_1 d own =>
    rcases Int.le_total d c.timeout with early | late
    · exact .inr (by rw [own, Int.min_eq_left early])
    · exact .inl (Int.min_eq_right late)
  case h_2 => exact .inl rfl

theorem cutoff_mem (c : Course α) : c.cutoff ∈ c.instants := by
  rcases cutoff_cases c with own | given
  · simp [Course.instants, own]
  · simp [Course.instants, given]

/-- The context ends with the first deadline, or with a cancellation that comes before it. -/
theorem cut_cases (after : ∀ t ∈ c.cancel, 0 < t) (distinct : c.instants.Nodup) :
    (c.cut = (.expired, max c.cutoff 0) ∧ ∀ t ∈ c.cancel, c.cutoff < t) ∨
      ∃ t, c.cancel = some t ∧ t < c.cutoff ∧ c.cut = (.canceled, t) := by
  cases given : c.cancel with
  | none => exact .inl ⟨by simp [Course.cut, Course.earlyCancel?, given], by simp⟩
  | some t =>
    have later : 0 < t := after t given
    -- At one instant with the cutoff, a cancellation would come too late.
    have apart : c.cutoff ≠ t := by
      simp only [Course.instants, given, List.nodup_cons, List.nodup_append] at distinct
      rcases cutoff_cases c with own | own <;> simp_all
    by_cases early : t < c.cutoff
    · have counts : max t 0 < max c.cutoff 0 := by omega
      have cancels : c.earlyCancel? = some t := by
        rw [Course.earlyCancel?, given]
        exact Option.filter_some_pos (by simpa using counts)
      refine .inr ⟨t, rfl, early, ?_⟩
      rw [Course.cut, cancels]
      exact congrArg _ (Int.max_eq_left (Int.le_of_lt later))
    · have idle : ¬ max t 0 < max c.cutoff 0 := by omega
      have stays : c.earlyCancel? = none := by
        rw [Course.earlyCancel?, given]
        exact Option.filter_some_neg (by simpa using idle)
      refine .inl ⟨by rw [Course.cut, stays], ?_⟩
      rintro u ⟨⟩
      omega

/-! ## The race -/

/-- What a vehicle says that gives up is judged as the end of its context is. -/
@[simp]
theorem verdict_givenUp (blank : α) (e : Ending α) :
    (e.givenUp blank).verdict blank = e.verdict blank := by
  cases e <;> rfl

theorem reply_of_early (early : c.done < c.cut.2) :
    c.reply blank = (.answered c.value c.fault, c.done) :=
  if_pos (by simp [show max c.delay 0 < c.cut.2 from early])

theorem reply_of_late (blank : α) (late : c.cut.2 ≤ c.done) : c.reply blank =
    if c.heedless then (.answered c.value c.fault, c.done) else (c.cut.1.givenUp blank, c.cut.2) := by
  have idle : ¬ max c.delay 0 < c.cut.2 := Int.not_lt.2 late
  simp [Course.reply, Course.done, idle]

/-- A vehicle that is done before the context ends answers for itself. -/
theorem ending_of_early (early : c.done < c.cut.2) :
    c.ending blank = (.answered c.value c.fault, c.done) := by
  rw [Course.ending, reply_of_early early, if_pos early]

/-- A vehicle that is not done when the context ends is not heard, whether it gives up then
    or goes on. -/
theorem ending_of_late (late : c.cut.2 ≤ c.done) : c.ending blank = c.cut := by
  refine if_neg (Int.not_lt.2 ?_)
  rw [reply_of_late blank late]
  split
  · exact late
  · exact Int.le_refl _

/-- Whether the vehicle heeds its caller is nothing that the caller notices. -/
theorem run_heedless (blank : α) (c : Course α) (b : Bool) :
    run blank { c with heedless := b } = run blank c := by
  have same : ({ c with heedless := b } : Course α).ending blank = c.ending blank := by
    rcases Int.lt_or_le c.done c.cut.2 with early | late
    · rw [ending_of_early (c := { c with heedless := b }) early, ending_of_early early]
      rfl
    · rw [ending_of_late (c := { c with heedless := b }) late, ending_of_late late]
      rfl
  rw [run, run, same]

/-- However the wait ends, the caller gets what `run` says, unless the vehicle is done in the
    very instant in which the context ends. -/
theorem Ends.run_eq {e : Ending α} {t : Int} (apart : c.done ≠ c.cut.2)
    (ends : c.Ends blank e t) : run blank c = (e.verdict blank, t) := by
  rcases Int.lt_or_gt_of_ne apart with early | late
  · rw [run, ending_of_early early]
    rcases ends with ⟨said, -⟩ | ⟨cut, first⟩
    · cases said.symm.trans (reply_of_early early)
      rfl
    · rw [reply_of_early early] at first
      rw [cut] at early
      exact absurd first (Int.not_le.2 early)
  · have said := reply_of_late blank (Int.le_of_lt late)
    rw [run, ending_of_late (Int.le_of_lt late)]
    rcases ends with ⟨spoken, first⟩ | ⟨cut, -⟩
    · rw [spoken] at said
      split at said
      · cases said
        exact absurd first (Int.not_le.2 late)
      · cases said
        rw [verdict_givenUp]
    · rw [cut]

/-! ## The verdict on what comes first -/

/-- The call ends with the answer, with a deadline or with the cancellation, whichever comes
    before both others. -/
theorem run_cases (blank : α) (after : ∀ t ∈ c.cancel, 0 < t) (distinct : c.instants.Nodup) :
    (c.done < c.cutoff ∧ (∀ t ∈ c.cancel, c.done < t) ∧
        run blank c = ((Ending.answered c.value c.fault).verdict blank, c.done)) ∨
      (c.cutoff < c.done ∧ (∀ t ∈ c.cancel, c.cutoff < t) ∧
        run blank c = (Ending.expired.verdict blank, max c.cutoff 0)) ∨
      ∃ t, c.cancel = some t ∧ t < c.done ∧ t < c.cutoff ∧
        run blank c = (Ending.canceled.verdict blank, t) := by
  -- The answer comes at an instant of its own.
  have apart : c.done ≠ c.cutoff ∧ ∀ t ∈ c.cancel, c.done ≠ t := by
    have alone := (List.nodup_cons.1 distinct).1
    simp only [List.mem_cons, List.mem_append, Option.mem_toList, not_or] at alone
    refine ⟨?_, fun t given same => alone.2.2 (same ▸ given)⟩
    rcases cutoff_cases c with own | own
    · exact own ▸ alone.1
    · intro same
      exact alone.2.1 (same ▸ own)
  rcases cut_cases after distinct with ⟨cut, later⟩ | ⟨t, given, early, cut⟩
  · rcases Int.lt_or_gt_of_ne apart.1 with first | first
    · have inTime : c.done < c.cut.2 := by
        rw [cut]
        exact Int.lt_of_lt_of_le first (Int.le_max_left ..)
      exact .inl ⟨first, fun t given => Int.lt_trans first (later t given),
        by rw [run, ending_of_early inTime]⟩
    · have late : c.cut.2 ≤ c.done := by
        rw [cut]
        exact Int.max_le.2 ⟨Int.le_of_lt first, done_nonneg c⟩
      exact .inr (.inl ⟨first, later, by rw [run, ending_of_late late, cut]⟩)
  · rcases Int.lt_or_gt_of_ne (apart.2 t given) with first | first
    · have inTime : c.done < c.cut.2 := by
        rw [cut]
        exact first
      refine .inl ⟨Int.lt_trans first early, ?_, by rw [run, ending_of_early inTime]⟩
      rw [given]
      rintro u ⟨⟩
      exact first
    · have late : c.cut.2 ≤ c.done := by
        rw [cut]
        exact Int.le_of_lt first
      exact .inr (.inr ⟨t, given, first, early, by rw [run, ending_of_late late, cut]⟩)

/-- What the caller gets, and what is recorded as the outcome, if the wait ends at the
    instant `first`. -/
structure Judges (blank : α) (c : Course α) (first : Int) (v : Verdict α) : Prop where
  answered : first = c.done → c.fault = none → v = ⟨c.value, none, .ok⟩
  /-- The vehicle reports that it missed a deadline. -/
  missed : first = c.done → ∀ f ∈ c.fault, f.isDeadline = true →
    v = ⟨blank, some .tripTimeout, .timeout⟩
  failed : first = c.done → ∀ f ∈ c.fault, f.isDeadline = false → v = ⟨c.value, some f, .error⟩
  expired : first = c.timeout ∨ c.deadline = some first → v = ⟨blank, some .tripTimeout, .timeout⟩
  canceled : c.cancel = some first → v = ⟨blank, some .canceled, .error⟩
  /-- A timeout is recorded just when the caller is told of one, and it is not the vehicle that
      says so. -/
  timeout : v.outcome = .timeout ↔
    v.fault = some .tripTimeout ∧ ¬(first = c.done ∧ c.fault = some .tripTimeout)

theorem le_of_mem_instants {first t : Int} (done : first ≤ c.done) (cutoff : first ≤ c.cutoff)
    (cancel : ∀ t ∈ c.cancel, first ≤ t) (mem : t ∈ c.instants) : first ≤ t := by
  simp only [Course.instants, List.mem_cons, List.mem_append, Option.mem_toList] at mem
  rcases mem with rfl | rfl | own | given
  · exact done
  · exact Int.le_trans cutoff (cutoff_le_timeout c)
  · exact Int.le_trans cutoff (cutoff_le_deadline own)
  · exact cancel t given

/-- The answer comes before anything else. -/
theorem judges_answered (cutoff : c.done < c.cutoff) (cancel : ∀ t ∈ c.cancel, c.done < t) :
    Judges blank c c.done ((Ending.answered c.value c.fault).verdict blank) where
  answered := fun _ fine => by rw [fine]; rfl
  missed := fun _ f given missed => by
    rw [Option.mem_def.1 given]
    exact if_pos missed
  failed := fun _ f given other => by
    rw [Option.mem_def.1 given]
    exact if_neg (by simp [other])
  expired := by
    rintro (same | own)
    · exact absurd (cutoff_le_timeout c) (Int.not_le.2 (same ▸ cutoff))
    · exact absurd (cutoff_le_deadline own) (Int.not_le.2 cutoff)
  canceled := fun given => absurd (cancel _ given) (Int.lt_irrefl _)
  timeout := by
    cases given : c.fault with
    | none => simp [Ending.verdict]
    | some f =>
      by_cases missed : f.isDeadline = true
      · have other : f ≠ .tripTimeout := by
          rintro rfl
          cases missed
        simp [Ending.verdict, missed, other]
      · simp [Ending.verdict, missed]

/-- A deadline comes before anything else. -/
theorem judges_expired (done : c.cutoff < c.done) (cancel : ∀ t ∈ c.cancel, c.cutoff < t) :
    Judges blank c c.cutoff (Ending.expired.verdict blank) where
  answered := fun same => absurd same (Int.ne_of_lt done)
  missed := fun same => absurd same (Int.ne_of_lt done)
  failed := fun same => absurd same (Int.ne_of_lt done)
  expired := fun _ => rfl
  canceled := fun given => absurd (cancel _ given) (Int.lt_irrefl _)
  timeout := iff_of_true rfl ⟨rfl, fun both => Int.ne_of_lt done both.1⟩

/-- The cancellation comes before anything else. -/
theorem judges_canceled {t : Int} (done : t < c.done) (cutoff : t < c.cutoff) :
    Judges blank c t (Ending.canceled.verdict blank) where
  answered := fun same => absurd same (Int.ne_of_lt done)
  missed := fun same => absurd same (Int.ne_of_lt done)
  failed := fun same => absurd same (Int.ne_of_lt done)
  expired := by
    rintro (same | own)
    · exact absurd (cutoff_le_timeout c) (Int.not_le.2 (same ▸ cutoff))
    · exact absurd (cutoff_le_deadline own) (Int.not_le.2 cutoff)
  canceled := fun _ => rfl
  timeout := iff_of_false nofun fun both => nomatch both.1

/-- The ending of a call is one of what comes first. -/
theorem run_first (blank : α) (after : ∀ t ∈ c.cancel, 0 < t) (distinct : c.instants.Nodup) :
    ∃ first ∈ c.instants, (∀ t ∈ c.instants, first ≤ t) ∧
      ∃ v : Verdict α, run blank c = (v, max first 0) ∧ Judges blank c first v := by
  rcases run_cases blank after distinct with
    ⟨cutoff, cancel, ran⟩ | ⟨done, cancel, ran⟩ | ⟨t, given, done, cutoff, ran⟩
  · refine ⟨c.done, by simp [Course.instants], fun _ => le_of_mem_instants (Int.le_refl _)
      (Int.le_of_lt cutoff) fun t given => Int.le_of_lt (cancel t given), _, ?_,
      judges_answered cutoff cancel⟩
    rw [ran, Int.max_eq_left (done_nonneg c)]
  · exact ⟨c.cutoff, cutoff_mem c, fun _ => le_of_mem_instants (Int.le_of_lt done)
      (Int.le_refl _) fun t given => Int.le_of_lt (cancel t given), _, ran,
      judges_expired done cancel⟩
  · refine ⟨t, by simp [Course.instants, given], fun _ => le_of_mem_instants (Int.le_of_lt done)
      (Int.le_of_lt cutoff) ?_, _, ?_, judges_canceled done cutoff⟩
    · intro u other
      exact Int.le_of_eq (Option.some.inj (given.symm.trans other))
    · rw [ran, Int.max_eq_left (Int.le_of_lt (after t given))]

/-- The call returns at the first of the instants at which the wait may end, with the verdict on
    what ended it, whether or not the vehicle heeds its caller. One trip is recorded, of that
    outcome and of the time that passed, which is never longer than the timeout. The outcome is a
    timeout just when the caller is told of one, unless it is the vehicle that speaks of a timeout:
    that is passed on like any other fault. -/
theorem conduct_first (kind : TripKind) (blank : α) (c : Course α) (m : Metrics)
    (after : ∀ t ∈ c.cancel, 0 < t) (distinct : c.instants.Nodup) :
    ∃ first ∈ c.instants, (∀ t ∈ c.instants, first ≤ t) ∧
      ∃ v : Verdict α, (∀ heedless, conduct kind blank { c with heedless } =
          (v, max first 0, [.trip kind v.outcome (max first 0)])) ∧
        Judges blank c first v ∧
        (conduct kind blank c).2.2.foldl Metrics.record m =
          { m with trips := m.trips ++ [(kind, v.outcome, max first 0)] } ∧
        max first 0 ≤ max c.timeout 0 := by
  obtain ⟨first, mem, least, v, ran, judged⟩ := run_first blank after distinct
  refine ⟨first, mem, least, v, ?_, judged, ?_, ?_⟩
  · intro heedless
    rw [conduct, run_heedless, ran]
  · rw [conduct, ran]
    rfl
  · have bound := least c.timeout (by simp [Course.instants])
    omega

namespace Sample

/-- The caller's own deadline comes before the timeout, its cancellation in between, and the
    vehicle is done last. -/
def slow : Course Nat :=
  { timeout := 20, delay := 30, value := 7, fault := none, heedless := true, cancel := some 15,
    deadline := some 10 }

/-- The vehicle answers in time, and what it says is that it timed out. -/
def spoken : Course Nat :=
  { timeout := 20, delay := 10, value := 7, fault := some .tripTimeout, heedless := false,
    cancel := none, deadline := none }

/-- The time was over before the call began. -/
def overdue : Course Nat :=
  { timeout := -5, delay := 10, value := 7, fault := none, heedless := false, cancel := none,
    deadline := none }

end Sample

/-- The caller of the slow vehicle gets a timeout at its own deadline. -/
theorem timeout_of_slow : (∀ t ∈ Sample.slow.cancel, 0 < t) ∧ Sample.slow.instants.Nodup ∧
    ∃ v : Verdict Nat, v = ⟨0, some .tripTimeout, .timeout⟩ ∧ ∀ heedless,
      conduct .switch 0 { Sample.slow with heedless } = (v, 10, [.trip .switch v.outcome 10]) := by
  have after : ∀ t ∈ Sample.slow.cancel, 0 < t := by
    rintro t ⟨⟩
    decide
  have distinct : Sample.slow.instants.Nodup := by decide
  refine ⟨after, distinct, ?_⟩
  obtain ⟨first, mem, least, v, ran, judged, -⟩ :=
    conduct_first .switch 0 Sample.slow {} after distinct
  have early : first ≤ 10 := least 10 (by decide)
  have deadline : first = 10 := by
    -- No other instant is as early.
    simp only [show Sample.slow.instants = [30, 20, 10, 15] from rfl, List.mem_cons,
      List.not_mem_nil, or_false] at mem
    omega
  subst deadline
  exact ⟨v, judged.expired (.inr rfl), ran⟩

/-- A caller may be told of a timeout while another outcome is recorded, namely if it is the vehicle
    that speaks of one; and a call takes longer than its timeout if that is negative. -/
theorem told_of_unrecorded_timeout :
    (Sample.spoken.instants.Nodup ∧ ∃ v : Verdict Nat,
      conduct .switch 0 Sample.spoken = (v, 10, [.trip .switch v.outcome 10]) ∧
        v.fault = some .tripTimeout ∧ v.outcome = .error) ∧
    Sample.overdue.instants.Nodup ∧ ∃ v : Verdict Nat,
      conduct .switch 0 Sample.overdue = (v, 0, [.trip .switch .timeout 0]) ∧
        Sample.overdue.timeout < 0 :=
  ⟨⟨by decide, _, rfl, rfl, rfl⟩, by decide, _, rfl, by decide⟩

end HeadUnit.Trip
