import HeadUnit.Proofs.Switching.Change

/-!
# The line in front of the worker

The commands in the queue, and behind them those whose posters wait for room, stand in a *line*
(`Desk.line`). Posters wait only while the queue is full, and each with one command (`IsTidy`), so
nobody jumps the line: the worker takes the commands in the order in which they were posted
(`line_move`), and the news among them in the order in which they arrived (`news_move`).
-/

namespace HeadUnit.Switching

instance (c : Command) : Decidable c.IsNews :=
  match c with
  | .unlocked _ | .switched .. => .isTrue trivial
  | .answer _ | .direct .. | .initiated .. => .isFalse id

namespace Desk

/-- The commands that the worker has yet to take, in the order in which it will. -/
def line (d : Desk) : List Command := d.queue ++ d.waiting.flatMap (·.commands)

/-- The news that the worker has yet to take. -/
def news (d : Desk) : List Command := d.line.filter (·.IsNews)

/-- Posters wait only while the queue is full, and each with one command. -/
structure IsTidy (d : Desk) : Prop where
  full : d.waiting ≠ [] → queueSize ≤ d.queue.length
  single : ∀ w ∈ d.waiting, ∃ c, w.commands = [c]

/-- Nothing is posted, and nothing is taken. -/
structure SameLine (d d' : Desk) : Prop where
  queue : d'.queue = d.queue
  waiting : d'.waiting = d.waiting
  closed : d'.closed = d.closed

namespace SameLine

variable {d d' d'' : Desk}

theorem refl (d : Desk) : SameLine d d := ⟨rfl, rfl, rfl⟩

theorem trans (one : SameLine d d') (other : SameLine d' d'') : SameLine d d'' :=
  ⟨other.queue.trans one.queue, other.waiting.trans one.waiting, other.closed.trans one.closed⟩

theorem line_eq (same : SameLine d d') : d'.line = d.line := by
  rw [line, same.queue, same.waiting, line]

theorem news_eq (same : SameLine d d') : d'.news = d.news := by
  rw [news, same.line_eq, news]

theorem isTidy (same : SameLine d d') (tidy : d.IsTidy) : d'.IsTidy where
  full waits := by
    rw [same.queue]
    exact tidy.full (same.waiting ▸ waits)
  single w mem := tidy.single w (same.waiting ▸ mem)

end SameLine

variable (d : Desk)

/-! ## Operations -/

theorem sameLine_emit (es : List Effect) : SameLine d (d.emit es) := ⟨rfl, rfl, rfl⟩

theorem sameLine_advance (f : Transaction → Transaction) : SameLine d (d.advance f) :=
  ⟨rfl, rfl, rfl⟩

theorem sameLine_signalPanel (target : UserId) : SameLine d (d.signalPanel target) := by
  unfold signalPanel
  split
  · exact .refl d
  · dsimp only
    split <;> exact ⟨rfl, rfl, rfl⟩

theorem sameLine_applyAnswer (a : Answer) : SameLine d (d.applyAnswer a) := by
  unfold applyAnswer
  dsimp only
  split
  · exact ⟨rfl, rfl, rfl⟩
  · split
    · exact ⟨rfl, rfl, rfl⟩
    · split <;> exact ⟨rfl, rfl, rfl⟩

theorem sameLine_apply (v : View) (c : Command) : SameLine d (d.apply v c) := by
  cases c with
  | answer a => exact sameLine_applyAnswer d a
  | direct target ticket | initiated token target => exact ⟨rfl, rfl, rfl⟩
  | unlocked user =>
    simp only [apply, applyUnlocked]
    split
    · exact .refl d
    · split <;> exact ⟨rfl, rfl, rfl⟩
  | switched source target =>
    simp only [apply, applySwitched]
    split
    · exact .refl d
    · split <;> exact ⟨rfl, rfl, rfl⟩

theorem sameLine_committed (v : View) (fault : Option Fault) :
    SameLine d (d.committed v fault) := by
  unfold committed
  split
  · next c _ =>
    have idle : SameLine d { d with worker := .idle } := ⟨rfl, rfl, rfl⟩
    refine idle.trans ?_
    dsimp only
    split
    · next a =>
      unfold answerCommitted
      dsimp only
      split
      · exact ⟨rfl, rfl, rfl⟩
      · split
        · exact ⟨rfl, rfl, rfl⟩
        · exact ((sameLine_advance _ _).trans (sameLine_signalPanel _ _)).trans (sameLine_emit _ _)
    · unfold directCommitted
      split
      · exact ⟨rfl, rfl, rfl⟩
      · exact (sameLine_signalPanel _ _).trans (sameLine_emit _ _)
    · unfold initiatedCommitted
      split
      · exact ⟨rfl, rfl, rfl⟩
      · dsimp only
        split
        · split <;> exact ⟨rfl, rfl, rfl⟩
        · exact ⟨rfl, rfl, rfl⟩
  · exact .refl d

theorem sameLine_launch (k : Ticket) : SameLine d (d.launch k) := by
  unfold launch
  split
  · exact .refl d
  · exact ⟨rfl, rfl, rfl⟩

theorem sameLine_mark : SameLine d d.mark := by
  unfold mark
  split
  · exact ⟨rfl, rfl, rfl⟩
  · exact .refl d

variable {d}

/-- One command at most is put at the end of the line. -/
theorem line_post (tidy : d.IsTidy) (isOpen : d.closed = false) (v : View) (p : Poster)
    {cs : List Command} (few : cs.length ≤ 1) :
    (d.post v p cs).line = d.line ++ cs ∧ (d.post v p cs).IsTidy ∧
      (d.post v p cs).closed = false := by
  unfold post
  rw [if_neg (by simp [isOpen])]
  dsimp only
  split
  · next room =>
    -- There is room, so nobody waits, unless nothing is posted.
    rw [List.take_of_length_le room]
    have either : cs = [] ∨ d.waiting = [] := by
      by_contra both
      rw [not_or] at both
      have full := tidy.full both.2
      have some : 0 < cs.length := List.length_pos_iff.2 both.1
      omega
    rcases either with rfl | free
    · exact ⟨by simp [line, emit], ⟨by simpa [emit] using tidy.full, tidy.single⟩, isOpen⟩
    · refine ⟨by simp [line, emit, free], ⟨fun waits => absurd free waits, ?_⟩, isOpen⟩
      exact fun w mem => absurd (free ▸ mem) List.not_mem_nil
  · next crowded =>
    have none : queueSize - d.queue.length = 0 := by omega
    obtain ⟨c, rfl⟩ : ∃ c, cs = [c] := List.length_eq_one_iff.1 (by omega)
    simp only [none, List.take_zero, List.drop_zero, List.append_nil]
    refine ⟨by simp [line], ⟨fun _ => by simpa using Nat.le_of_sub_eq_zero none, ?_⟩, isOpen⟩
    intro w mem
    rcases List.mem_append.1 mem with old | new
    · exact tidy.single w old
    · exact ⟨c, by rw [List.mem_singleton.1 new]⟩

/-- The room that came free goes to the first who waits. -/
theorem line_admitWaiting (room : d.waiting ≠ [] → queueSize ≤ d.queue.length + 1)
    (single : ∀ w ∈ d.waiting, ∃ c, w.commands = [c]) :
    d.admitWaiting.line = d.line ∧ d.admitWaiting.IsTidy ∧ d.admitWaiting.closed = d.closed := by
  cases waiting : d.waiting with
  | nil =>
    have same : d.admitWaiting = d := by simp only [admitWaiting, waiting]
    rw [same]
    exact ⟨rfl, ⟨fun waits => absurd waiting waits, single⟩, rfl⟩
  | cons w ws =>
    obtain ⟨c, one⟩ := single w (waiting ▸ List.mem_cons_self)
    have moved : d.admitWaiting =
        { d with queue := d.queue ++ [c], waiting := ws }.emit [.admitted w.poster] := by
      simp only [admitWaiting, waiting, one]
    rw [moved]
    refine ⟨by simp [line, emit, waiting, one], ⟨fun _ => ?_, fun w' mem => ?_⟩, rfl⟩
    · simpa [emit] using room (by simp [waiting])
    · exact single w' (waiting ▸ List.mem_cons_of_mem w mem)

/-- A request posts a switch that needs no approval, or nothing. -/
theorem sameLine_or_post_request (d : Desk) (v : View) (p : Poster) (k : Ticket) (target : UserId)
    (timeout : Duration) : SameLine d (d.request v p k target timeout) ∨
      d.request v p k target timeout = d.post v p [.direct target k] := by
  unfold request
  split
  · exact .inl ⟨rfl, rfl, rfl⟩
  split
  · exact .inl ⟨rfl, rfl, rfl⟩
  split
  · exact .inl ⟨rfl, rfl, rfl⟩
  split
  · exact .inr rfl
  split
  · exact .inl ⟨rfl, rfl, rfl⟩
  · cases d.tx <;> exact .inl ⟨rfl, rfl, rfl⟩

end Desk

/-! ## Moves -/

/-- The news that a move brings. -/
def Move.tells : Move → List Command
  | events _ _ es => es.filterMap Desk.commandOf?
  | _ => []

namespace Desk

/-- The command that the worker takes next. -/
def next? (d : Desk) : Option Command := if d.worker = .idle then d.queue.head? else none

/-- The command that the worker takes by a move. -/
def takes (d : Desk) : Move → List Command
  | .work _ => d.next?.toList
  | _ => []

/-- The worker takes the first command of the queue, or does nothing. -/
theorem work_cases (d : Desk) (v : View) :
    (∃ c rest, d.takes (.work v) = [c] ∧ d.queue = c :: rest ∧
      d.move (.work v) = ({ d with queue := rest }.admitWaiting).apply v c) ∨
    d.takes (.work v) = [] ∧ d.move (.work v) = d := by
  by_cases idle : d.worker = .idle
  · cases queue : d.queue with
    | nil => exact .inr ⟨by simp [takes, next?, queue], by simp [move, work?, queue]⟩
    | cons c rest =>
      refine .inl ⟨c, rest, by simp [takes, next?, idle, queue], rfl, ?_⟩
      simp only [move, work?, idle, queue, Option.getD_some]
  · refine .inr ⟨by simp [takes, next?, idle], ?_⟩
    rw [move, work?]
    split
    · next is _ => exact absurd is idle
    · rfl

variable {d : Desk}

/-- By a move that does not shut the desk down, the worker takes the first command of the line at
    most, and one is put at its end at most, which is none of the news unless it was brought. -/
theorem line_move (tidy : d.IsTidy) (isOpen : d.closed = false) {q : Move}
    (stays : ∀ v, q ≠ .stop v ∧ q ≠ .close v) (few : q.tells.length ≤ 1) :
    (∃ cs, d.takes q ++ (d.move q).line = d.line ++ cs ∧ cs.filter (·.IsNews) = q.tells) ∧
      (d.move q).IsTidy ∧ (d.move q).closed = false := by
  -- The move posts what is given, or does not touch the line at all.
  have posts {d' : Desk} (same : SameLine d d') {v : View} {p : Poster} {cs : List Command}
      (moved : d.move q = d'.post v p cs) (short : cs.length ≤ 1) (none : d.takes q = [])
      (told : cs.filter (·.IsNews) = q.tells) :
      (∃ cs, d.takes q ++ (d.move q).line = d.line ++ cs ∧ cs.filter (·.IsNews) = q.tells) ∧
        (d.move q).IsTidy ∧ (d.move q).closed = false := by
    obtain ⟨line, tidy', open'⟩ := line_post (same.isTidy tidy) (same.closed.trans isOpen) v p short
    rw [moved, none]
    exact ⟨⟨cs, by rw [List.nil_append, line, same.line_eq], told⟩, tidy', open'⟩
  have keeps (same : SameLine d (d.move q)) (none : d.takes q = []) (quiet : q.tells = []) :
      (∃ cs, d.takes q ++ (d.move q).line = d.line ++ cs ∧ cs.filter (·.IsNews) = q.tells) ∧
        (d.move q).IsTidy ∧ (d.move q).closed = false :=
    ⟨⟨[], by rw [none, same.line_eq, List.nil_append, List.append_nil], quiet.symm⟩,
      same.isTidy tidy, same.closed.trans isOpen⟩
  cases q with
  | request v p k target timeout =>
    rcases sameLine_or_post_request d v p k target timeout with same | posted
    · exact keeps same rfl rfl
    · exact posts (.refl d) posted (Nat.le_refl 1) rfl rfl
  | launch k => exact keeps (sameLine_launch d k) rfl rfl
  | tripEnded v k response fault =>
    cases found : d.trips.find? (·.ticket == k) with
    | none =>
      refine keeps ?_ rfl rfl
      simp only [move, tripEnded, found]
      exact .refl d
    | some o =>
      have moved : d.move (.tripEnded v k response fault) =
          { d with trips := d.trips.filter (·.ticket != k) }.post v .trip
            [.answer ⟨o.tx, response, fault, k⟩] := by
        simp only [move, tripEnded, found]
      have same : SameLine d { d with trips := d.trips.filter (·.ticket != k) } := ⟨rfl, rfl, rfl⟩
      exact posts same moved (Nat.le_refl 1) rfl rfl
  | initiate v p token target => exact posts (.refl d) rfl (Nat.le_refl 1) rfl rfl
  | events v p es =>
    refine posts (.refl d) rfl few rfl (List.filter_eq_self.2 fun c mem => ?_)
    exact decide_eq_true (Command.isNews_of_mem_events mem)
  | start =>
    refine keeps ?_ rfl rfl
    simp only [move, start]
    split
    · exact ⟨rfl, rfl, rfl⟩
    · exact .refl d
  | work v =>
    rcases d.work_cases v with ⟨c, rest, taken, queue, moved⟩ | ⟨none, same⟩
    · obtain ⟨line, tidy', closed⟩ := line_admitWaiting (d := { d with queue := rest })
        (fun waits => by simpa [queue] using tidy.full waits) tidy.single
      have applied := sameLine_apply ({ d with queue := rest }.admitWaiting) v c
      rw [moved, taken]
      refine ⟨⟨[], ?_, rfl⟩, applied.isTidy tidy', applied.closed.trans (closed.trans isOpen)⟩
      rw [applied.line_eq, line, List.append_nil, Desk.line, Desk.line, queue]
      rfl
    · exact keeps (same.symm ▸ .refl d) none rfl
  | committed v fault => exact keeps (sameLine_committed d v fault) rfl rfl
  | mark => exact keeps (sameLine_mark d) rfl rfl
  | stop v => exact absurd rfl (stays v).1
  | close v => exact absurd rfl (stays v).2
  | endContext | setPanel => exact keeps ⟨rfl, rfl, rfl⟩ rfl rfl
  | setTimeout t =>
    refine keeps ?_ rfl rfl
    simp only [move, setTimeout]
    split
    · exact .refl d
    · exact ⟨rfl, rfl, rfl⟩

/-- A desk that is closed stays so, and only a stop closes one. -/
theorem closed_move (d : Desk) (q : Move) : (d.move q).closed = d.closed ∨
    (d.move q).closed = true ∧ (d.contextDone = true ∨ ∃ v, q = .close v) := by
  have posted (d : Desk) (v : View) (p : Poster) (cs : List Command) :
      (d.post v p cs).closed = d.closed := by
    have same := congrArg Standing.closed (standing_post d v p cs)
    rw [Standing.post] at same
    split at same <;> exact same
  cases q with
  | request v p k target timeout =>
    rcases sameLine_or_post_request d v p k target timeout with same | post
    · exact .inl same.closed
    · exact .inl ((congrArg Desk.closed post).trans (posted ..))
  | launch k => exact .inl (sameLine_launch d k).closed
  | tripEnded v k response fault =>
    refine .inl ?_
    simp only [move, tripEnded]
    split
    · rfl
    · exact posted ..
  | initiate v p token target | events v p es => exact .inl (posted ..)
  | start =>
    refine .inl ?_
    simp only [move, start]
    split <;> rfl
  | work v =>
    refine .inl ?_
    rcases d.work_cases v with ⟨c, rest, _, _, moved⟩ | ⟨_, same⟩
    · rw [moved, (sameLine_apply _ v c).closed]
      unfold admitWaiting
      split
      · rfl
      · split <;> rfl
    · rw [same]
  | committed v fault => exact .inl (sameLine_committed d v fault).closed
  | mark => exact .inl (sameLine_mark d).closed
  | stop v =>
    obtain ⟨tx, _, down⟩ := d.standing_close v
    have closed : (d.close v).closed = true := congrArg Standing.closed down
    simp only [move, stop?]
    split
    · split
      · next ended => exact .inr ⟨closed, .inl ended⟩
      · exact .inl rfl
    · exact .inl rfl
  | close v =>
    obtain ⟨tx, _, down⟩ := d.standing_close v
    exact .inr ⟨congrArg Standing.closed down, .inr ⟨v, rfl⟩⟩
  | endContext | setPanel => exact .inl rfl
  | setTimeout t =>
    refine .inl ?_
    simp only [move, setTimeout]
    split <;> rfl

/-- The worker of a desk that is open takes the news in the order in which they arrive. -/
theorem news_move (tidy : d.closed = false → d.IsTidy) {q : Move} (unclosed : ∀ v, q ≠ .close v)
    (few : q.tells.length ≤ 1) (isOpen : (d.move q).closed = false) : (d.move q).IsTidy ∧
      (d.takes q).filter (·.IsNews) ++ (d.move q).news = d.news ++ q.tells := by
  have before : d.closed = false := by
    rcases d.closed_move q with same | ⟨shut, _⟩
    · exact same.symm.trans isOpen
    · exact nomatch shut.symm.trans isOpen
  by_cases stops : ∃ v, q = .stop v
  · -- The desk is still open, so the worker has not stopped.
    obtain ⟨v, rfl⟩ := stops
    have same : d.move (.stop v) = d := by
      obtain ⟨tx, _, down⟩ := d.standing_close v
      have closed : (d.close v).closed = true := congrArg Standing.closed down
      simp only [move, stop?] at isOpen ⊢
      split at isOpen
      · split at isOpen
        · exact nomatch closed.symm.trans isOpen
        · next context =>
          rw [if_neg context]
          rfl
      · rfl
    rw [same]
    exact ⟨tidy before, by simp [takes, Move.tells]⟩
  · obtain ⟨⟨cs, line, told⟩, tidy', _⟩ := line_move (tidy before) before
      (fun v => ⟨fun is => stops ⟨v, is⟩, unclosed v⟩) few
    have both := congrArg (List.filter (·.IsNews)) line
    rw [List.filter_append, List.filter_append, told] at both
    exact ⟨tidy', both⟩

end Desk

end HeadUnit.Switching
