import HeadUnit.Proofs.Switching.Change

/-!
# What a desk reports of its tracking

A desk reports when it begins and when it ceases to track a switch. Its *dial* (`Desk.dial`)
is whether it tracks one, the last number it has given out, and what it has reported. There is
one lemma per operation. That a switch is dropped is reported at once: a move leaves the dial
alone, or the last report says whether a switch is tracked after it (`Dial.Tells`). That one is
installed is reported later, until when the desk is *behind* (`Desk.IsBehind`). So a move

* reports no more than is true, or installs a switch and leaves the desk behind (`tells_move`);
* leaves a desk behind that is, unless it reports what was installed (`isBehind_move`);
* is one of those that report what was installed: then it says that a switch is tracked, whether
  or not one still is (`dial_launch`, `dial_mark`).

The dial of a desk that has stopped moves only if somebody asks for a switch after all, or one
that was asked for is launched (`dial_move_of_stopped`).
-/

namespace HeadUnit.Switching

/-- What an effect reports of the tracking. -/
def Effect.tracking? : Effect → Option Bool
  | note (.inFlight tracked) => some tracked
  | _ => none

/-- What a desk shows of its tracking. -/
structure Dial where
  /-- A switch is tracked. -/
  tracks : Bool
  /-- The last number given out. -/
  seq : UInt64
  reports : List Bool

/-- The dial `x` is left alone, or what was reported last is true. -/
inductive Dial.Tells (x y : Dial) : Prop
  | quiet (same : y = x)
  | told (bs : List Bool) (last : y.reports = x.reports ++ bs ++ [y.tracks])

namespace Dial.Tells

variable {x y z : Dial}

theorem trans (one : Tells x y) (other : Tells y z) : Tells x z := by
  cases other with
  | quiet same => exact same ▸ one
  | told bs last =>
    cases one with
    | quiet same => exact .told bs (same ▸ last)
    | told bs' last' =>
      refine .told (bs' ++ [y.tracks] ++ bs) ?_
      rw [last, last']
      simp only [List.append_assoc]

end Dial.Tells

namespace Desk

def dial (d : Desk) : Dial := ⟨d.tx.isSome, d.seq, d.out.filterMap (·.tracking?)⟩

variable (d : Desk) (v : View)

/-! ## Operations that leave the dial alone -/

/-- What does not speak of the tracking. -/
theorem dial_emit {es : List Effect} (other : es.filterMap (·.tracking?) = []) :
    (d.emit es).dial = d.dial := by
  simp [dial, emit, other]

@[simp]
theorem dial_log (entry : Log.Entry) : (d.note (.log entry)).dial = d.dial := dial_emit d rfl

@[simp]
theorem dial_admitted (p : Poster) : (d.emit [.admitted p]).dial = d.dial := dial_emit d rfl

@[simp]
theorem dial_resolve (k : Ticket) (target : UserId) (status : SwitchStatus) (message : String) :
    (d.resolve k target status message).dial = d.dial := dial_emit d rfl

@[simp]
theorem dial_acknowledge (token : Token) (prior target : UserId) :
    (d.acknowledge v token prior target).dial = d.dial := dial_emit d rfl

@[simp]
theorem dial_signalPanel (target : UserId) : (d.signalPanel target).dial = d.dial := by
  unfold signalPanel
  split
  · rfl
  · dsimp only
    split
    · exact dial_emit d rfl
    · exact (dial_log ..).trans (dial_emit d rfl)

@[simp]
theorem dial_dropInitiated (token : Token) (target : UserId) :
    (d.dropInitiated v token target).dial = d.dial :=
  (dial_acknowledge ..).trans (dial_log ..)

@[simp]
theorem dial_refuse (c : Command) : (refuse v d c).dial = d.dial := by
  cases c with
  | answer a => exact dial_resolve ..
  | direct target k => exact dial_resolve ..
  | initiated token target => exact dial_dropInitiated ..
  | unlocked user | switched source target => rfl

theorem dial_foldl_refuse (cs : List Command) : (cs.foldl (refuse v) d).dial = d.dial := by
  induction cs generalizing d with
  | nil => rfl
  | cons c cs ih => exact (ih _).trans (dial_refuse d v c)

@[simp]
theorem dial_post (p : Poster) (cs : List Command) : (d.post v p cs).dial = d.dial := by
  unfold post
  split
  · exact (dial_admitted ..).trans (dial_foldl_refuse ..)
  · dsimp only
    split
    · exact dial_admitted ..
    · rfl

@[simp]
theorem dial_admitWaiting : d.admitWaiting.dial = d.dial := by
  unfold admitWaiting
  split
  · rfl
  · split
    · exact dial_admitted ..
    · exact dial_admitted ..
    · rfl

@[simp]
theorem dial_beginCommit (c : Commit) : (d.beginCommit c).dial = d.dial :=
  dial_emit { d with worker := .committing c } rfl

@[simp]
theorem dial_advance (f : Transaction → Transaction) : (d.advance f).dial = d.dial := by
  simp [dial, advance]

@[simp]
theorem dial_tripEnded (k : Ticket) (response : Vehicle.SwitchResponse) (fault : Option Fault) :
    (d.tripEnded v k response fault).dial = d.dial := by
  unfold tripEnded
  split
  · rfl
  · exact dial_post ..

theorem dial_applySwitched (source target : UserId) :
    (d.applySwitched v source target).dial = d.dial := by
  unfold applySwitched
  split
  · rfl
  split
  · exact dial_log ..
  · exact dial_emit d rfl

theorem dial_directCommitted (target : UserId) (k : Ticket) (fault : Option Fault) :
    (d.directCommitted target k fault).dial = d.dial := by
  unfold directCommitted
  split
  · exact (dial_resolve ..).trans (dial_log ..)
  · exact (dial_resolve ..).trans (dial_signalPanel ..)

/-! ## Operations that report -/

/-- A transaction was installed, and that is not reported yet. -/
def IsBehind (d : Desk) : Prop := d.launching ≠ [] ∨ d.worker = .marking

instance (d : Desk) : Decidable d.IsBehind := inferInstanceAs (Decidable (_ ∨ _))

/-- The desk `d'` tracks a switch that the desk `d` did not, and has not said so. -/
structure Installs (d d' : Desk) : Prop where
  tracks : d'.dial.tracks = true
  reports : d'.dial.reports = d.dial.reports
  behind : d'.IsBehind

/-- What is done for each element of a list reports as it does for each. -/
theorem tells_foldl {α : Type} {f : Desk → α → Desk}
    (each : ∀ (d : Desk) (a : α), d.dial.Tells (f d a).dial)
    (as : List α) : d.dial.Tells (as.foldl f d).dial := by
  induction as generalizing d with
  | nil => exact .quiet rfl
  | cons a as ih => exact (each d a).trans (ih (f d a))

/-- That nothing is tracked any more is reported at once. -/
theorem tells_clear : d.dial.Tells d.clear.dial :=
  .told [] (by simp [dial, clear, note, emit, Effect.tracking?])

/-- A request is turned down or posted without a report, or its transaction is installed. -/
theorem dial_request (p : Poster) (k : Ticket) (target : UserId) (timeout : Duration) :
    (d.request v p k target timeout).dial = d.dial ∨
      d.Installs (d.request v p k target timeout) := by
  unfold request
  split
  · exact .inl ((dial_admitted ..).trans (dial_resolve ..))
  split
  · exact .inl ((dial_admitted ..).trans (dial_resolve ..))
  split
  · exact .inl ((dial_admitted ..).trans (dial_resolve ..))
  split
  · exact .inl (dial_post ..)
  split
  · exact .inl (((dial_admitted ..).trans (dial_resolve ..)).trans (dial_log ..))
  · -- There may be a note about the old transaction first.
    have installed (d' : Desk) (l : Launch) (same : d'.dial = d.dial) :
        d.Installs (d'.install l) :=
      ⟨rfl, by simpa [dial, install] using congrArg Dial.reports same, .inl (by simp [install])⟩
    cases d.tx with
    | none => exact .inr (installed d _ rfl)
    | some old => exact .inr (installed _ _ (dial_log ..))

theorem tells_applyAnswer (a : Answer) : d.dial.Tells (d.applyAnswer a).dial := by
  have cleared (n : Log.Entry) (status : SwitchStatus) (message : String) :
      d.dial.Tells ((d.clear.note (.log n)).resolve a.ticket a.tx.target status message).dial :=
    d.tells_clear.trans (.quiet ((dial_resolve ..).trans (dial_log ..)))
  unfold applyAnswer
  dsimp only
  split
  · exact .quiet ((dial_resolve ..).trans (dial_log ..))
  split
  · exact cleared ..
  split
  · exact cleared ..
  · exact .quiet ((dial_beginCommit ..).trans (dial_advance ..))
  · exact cleared ..

theorem tells_applyUnlocked (user : UserId) : d.dial.Tells (d.applyUnlocked v user).dial := by
  unfold applyUnlocked
  split
  · exact .quiet rfl
  split
  · exact d.tells_clear.trans (.quiet (dial_acknowledge ..))
  · exact .quiet rfl

theorem tells_apply (c : Command) : d.dial.Tells (d.apply v c).dial := by
  cases c with
  | answer a => exact tells_applyAnswer d a
  | direct target k => exact .quiet (dial_beginCommit ..)
  | initiated token target => exact .quiet ((dial_beginCommit ..).trans (dial_log ..))
  | unlocked user => exact tells_applyUnlocked d v user
  | switched source target => exact .quiet (dial_applySwitched ..)

theorem tells_work : d.dial.Tells ((d.work? v).getD d).dial := by
  unfold work?
  split
  · next c rest _ _ =>
    have taken : { d with queue := rest }.admitWaiting.dial = d.dial := dial_admitWaiting _
    exact taken ▸ tells_apply _ v c
  · exact .quiet rfl

theorem tells_answerCommitted (a : Answer) (fault : Option Fault) :
    d.dial.Tells (d.answerCommitted v a fault).dial := by
  unfold answerCommitted
  dsimp only
  split
  · exact .quiet ((dial_resolve ..).trans (dial_log ..))
  split
  · exact d.tells_clear.trans
      (.quiet (((dial_resolve ..).trans (dial_acknowledge ..)).trans (dial_log ..)))
  · exact .quiet (((dial_resolve ..).trans (dial_signalPanel ..)).trans (dial_advance ..))

/-- A switch of the vehicle fails without a report, or its transaction is installed. -/
theorem dial_initiatedCommitted (token : Token) (target prior : UserId) (fault : Option Fault) :
    (d.initiatedCommitted v token target prior fault).dial = d.dial ∨
      d.Installs (d.initiatedCommitted v token target prior fault) := by
  unfold initiatedCommitted
  split
  · exact .inl ((dial_acknowledge ..).trans (dial_log ..))
  · have installed (d' : Desk) (same : d'.dial = d.dial) : Installs d { d' with
        seq := d'.seq + 1
        tx := some ⟨target, token, prior, .awaitingUnlockAck, d'.seq + 1⟩
        worker := .marking } :=
      ⟨rfl, by simpa [dial] using congrArg Dial.reports same, .inr rfl⟩
    cases d.tx with
    | none => exact .inr (installed d rfl)
    | some old =>
      dsimp only
      split
      · exact .inr (installed d rfl)
      · exact .inr (installed _ (dial_log ..))

theorem tells_committed (fault : Option Fault) :
    d.dial.Tells (d.committed v fault).dial ∨ d.Installs (d.committed v fault) := by
  unfold committed
  split
  · next c _ =>
    cases c with
    | answer a => exact .inl (tells_answerCommitted { d with worker := .idle } v a fault)
    | direct target k =>
      exact .inl (.quiet (dial_directCommitted { d with worker := .idle } target k fault))
    | initiated token target prior =>
      rcases dial_initiatedCommitted { d with worker := .idle } v token target prior fault with
        same | installs
      · exact .inl (.quiet same)
      · exact .inr ⟨installs.tracks, installs.reports, installs.behind⟩
  · exact .inl (.quiet rfl)

theorem tells_fail (c : Command) : d.dial.Tells (fail v d c).dial := by
  cases c with
  | answer a =>
    dsimp only [fail]
    refine Dial.Tells.trans (y := Desk.dial (if d.isCurrent a.tx then d.clear else d)) ?_
      (.quiet (dial_resolve ..))
    split
    · exact d.tells_clear
    · exact .quiet rfl
  | direct target k => exact .quiet (dial_resolve ..)
  | initiated token target => exact .quiet (dial_dropInitiated ..)
  | unlocked user | switched source target => exact .quiet rfl

theorem tells_close : d.dial.Tells (d.close v).dial := by
  have refused (d : Desk) (w : Waiting) : d.dial.Tells (refuseWaiting v d w).dial :=
    .quiet ((dial_admitted ..).trans (dial_foldl_refuse ..))
  have waiting := tells_foldl { d with closed := true, waiting := [], queue := [] } refused d.waiting
  exact waiting.trans (tells_foldl _ (fun d c => tells_fail d v c) d.queue)

theorem tells_stop : d.dial.Tells ((d.stop? v).getD d).dial := by
  unfold stop?
  split
  · split
    · exact tells_close d v
    · exact .quiet rfl
  · exact .quiet rfl

/-! ## Moves -/

theorem dial_start : d.start.dial = d.dial := by
  unfold start
  split <;> rfl

theorem dial_setTimeout (t : Duration) : (d.setTimeout t).dial = d.dial := by
  unfold setTimeout
  split <;> rfl

/-- The request is put to the vehicle, if it waits for that, and reported. -/
theorem dial_launch (k : Ticket) : d.launch k = d ∨ (∃ l ∈ d.launching, l.trip.ticket = k) ∧
    (d.launch k).dial = { d.dial with reports := d.dial.reports ++ [true] } := by
  unfold launch
  split
  · exact .inl rfl
  · next l found =>
    have own : l.trip.ticket = k := by simpa using List.find?_some found
    refine .inr ⟨⟨l, List.mem_of_find?_eq_some found, own⟩, ?_⟩
    simp [dial, emit, Effect.tracking?, Note.info]

/-- The switch of the vehicle is reported, if there is one. -/
theorem dial_mark : d.mark = d ∨ d.worker = .marking ∧
    d.mark.dial = { d.dial with reports := d.dial.reports ++ [true] } := by
  unfold mark
  split
  · next marking => exact .inr ⟨marking, by simp [dial, note, emit, Effect.tracking?]⟩
  · exact .inl rfl

end Desk

/-- The moves that report what was installed before. -/
def Move.Reports : Move → Prop
  | launch _ | mark => True
  | _ => False

namespace Desk

variable (d : Desk)

/-- What a desk reports is true: after each move, the last report, if there is one, says whether
    a switch is tracked. Only that one is installed is reported by a move of its own. -/
theorem tells_move {q : Move} (other : ¬q.Reports) :
    d.dial.Tells (d.move q).dial ∨ d.Installs (d.move q) := by
  cases q with
  | request v p k target timeout => exact (dial_request d v p k target timeout).imp_left .quiet
  | launch | mark => exact absurd trivial other
  | tripEnded v k response fault => exact .inl (.quiet (dial_tripEnded ..))
  | initiate v p token target => exact .inl (.quiet (dial_post ..))
  | events v p es => exact .inl (.quiet (dial_post ..))
  | start => exact .inl (.quiet (dial_start d))
  | work v => exact .inl (tells_work d v)
  | committed v fault => exact tells_committed d v fault
  | endContext => exact .inl (.quiet rfl)
  | stop v => exact .inl (tells_stop d v)
  | close v => exact .inl (tells_close d v)
  | setTimeout t => exact .inl (.quiet (dial_setTimeout d t))
  | setPanel p => exact .inl (.quiet rfl)

/-- A desk that has stopped and is asked for nothing leaves its dial alone, unless it reports what
    was installed before. -/
theorem dial_move_of_stopped {d : Desk} (stopped : d.worker = .stopped) {q : Move}
    (unasked : q.ticket? = none) (unclosed : ∀ v, q ≠ .close v) (other : ¬q.Reports) :
    (d.move q).dial = d.dial := by
  cases q with
  | request v p k target timeout => cases unasked
  | launch | mark => exact absurd trivial other
  | tripEnded v k response fault => exact dial_tripEnded ..
  | initiate v p token target => exact dial_post ..
  | events v p es => exact dial_post ..
  | start => exact dial_start d
  | work v => simp only [move, work?, stopped, Option.getD_none]
  | committed v fault => simp only [move, committed, stopped]
  | endContext => rfl
  | stop v => simp only [move, stop?, stopped, Option.getD_none]
  | close v => exact absurd rfl (unclosed v)
  | setTimeout t => exact dial_setTimeout d t
  | setPanel p => rfl

end Desk

/-! ## Being behind -/

/-- What waits to be launched still does after a change that launches nothing. -/
theorem Change.launching_le {d : Desk} {q : Move} {s : Standing} (change : Change d q s)
    (other : ¬q.Reports) : d.standing.launching ≤ s.launching := by
  cases change with
  | installed => exact Multiset.le_cons_self ..
  | launched => exact absurd trivial other
  | direct | initiated | events | tripEnded => exact (Standing.post_launching ..).ge
  | _ => exact le_refl _

namespace Desk

variable {d : Desk} {q : Move}

theorem launching_move (other : ¬q.Reports) :
    d.standing.launching ≤ (d.move q).standing.launching := by
  have posted (d : Desk) (v : View) (p : Poster) (cs : List Command) :
      d.standing.launching ≤ (d.post v p cs).standing.launching := by
    rw [standing_post, Standing.post_launching]
  have closed (v : View) : d.standing.launching ≤ (d.close v).standing.launching := by
    obtain ⟨tx, _, e⟩ := d.standing_close v
    exact (congrArg Standing.launching e).ge
  cases q with
  | request v p k target timeout => exact (change_request d v p k target timeout).launching_le other
  | launch | mark => exact absurd trivial other
  | tripEnded v k response fault =>
    simp only [move, tripEnded]
    split
    · exact le_refl _
    · exact posted ..
  | initiate v p token target | events v p es => exact posted ..
  | start =>
    simp only [move, start]
    split <;> exact le_refl _
  | work v =>
    by_cases able : d.worker = .idle ∧ d.queue ≠ []
    · exact (change_work d v able.1 able.2).launching_le other
    · rw [move, d.work_of_unable v able, Option.getD_none]
  | committed v fault =>
    by_cases busy : d.worker.commit?.isSome
    · exact (change_committed d v busy).launching_le other
    · rw [move, d.committed_of_unable v fault busy]
  | stop v =>
    simp only [move, stop?]
    split
    · split
      · exact closed v
      · exact le_refl _
    · exact le_refl _
  | close v => exact closed v
  | setTimeout t =>
    simp only [move, setTimeout]
    split <;> exact le_refl _
  | endContext | setPanel => exact le_refl _

/-- A desk that is behind stays so until it reports. -/
theorem isBehind_move (behind : d.IsBehind) (other : ¬q.Reports) : (d.move q).IsBehind := by
  rcases behind with waits | marking
  · refine .inl fun none => waits ?_
    have less := launching_move (d := d) other
    rw [standing, standing, none] at less
    simpa [Multiset.le_zero] using less
  · have stays := worker_move_of_held (.inr marking) fun is : q = .mark => other (is ▸ trivial)
    exact .inr (stays.trans marking)

end Desk

end HeadUnit.Switching
