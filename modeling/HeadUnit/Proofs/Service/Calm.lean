import HeadUnit.Proofs.Service.Listening
import HeadUnit.Proofs.Service.Pending
import HeadUnit.Proofs.Service.Undisturbed

/-!
# Calm systems

A system is *calm* (`System.Calm`) if its registry has no event to deal with, in any of its runs; so
it is once its buses have settled (`IsRun.calm`). As long as nobody posts one, it stays calm,
whatever its workers do, and whether it is stopped or started: `Calm.power` is about such moves
(`Move.IsPower`), one after the other. What they make of the registry is that a start restores
the state that it has read, and nothing else (`System.Resumes`).
-/

namespace HeadUnit.Service

open HeadUnit.Service.System

/-- The registry has no event to deal with, in any run. -/
def System.Calm (s : System) : Prop := s.Expects fun _ => False

/-- Nothing is queued at any bus, nothing is being delivered, nobody has still to be recorded, and
    nobody is about to change the bound. -/
structure System.Settled (s : System) : Prop where
  buses : ∀ r ∈ s.runs, r.bus.queue = [] ∧ (r.bus.worker = .idle ∨ r.bus.worker = .finished)
  recorded : ∀ r ∈ s.runs, r.found = none
  unbound : s.scene.bounding = []

instance System.decidableSettled (s : System) : Decidable s.Settled :=
  decidable_of_iff ((∀ r ∈ s.runs, r.bus.queue = [] ∧
      (r.bus.worker = .idle ∨ r.bus.worker = .finished)) ∧
    (∀ r ∈ s.runs, r.found = none) ∧ s.scene.bounding = [])
    ⟨fun ⟨buses, recorded, unbound⟩ => ⟨buses, recorded, unbound⟩,
      fun ⟨buses, recorded, unbound⟩ => ⟨buses, recorded, unbound⟩⟩

/-- A system that has settled is calm. -/
theorem IsRun.calm {h : History} {s : System} (run : IsRun h s) (settled : s.Settled) : s.Calm := by
  intro r mem
  refine ⟨fun e due => ?_, fun u found => ?_⟩
  · obtain ⟨queue, worker⟩ := settled.buses r mem
    obtain ⟨i, here⟩ := List.mem_iff_getElem?.1 mem
    rcases due with queued | turn | asked
    · simp [Bus.standing, queue] at queued
    · rcases worker with rest | rest
      all_goals
        rw [show r.bus.standing.worker = _ from rest] at turn
        exact absurd turn List.not_mem_nil
    · rw [run.silent here] at asked
      exact absurd asked List.not_mem_nil
  · cases found.symm.trans (settled.recorded r mem)

theorem System.Calm.of_runs {s t : System} (calm : s.Calm) (runs : t.runs = s.runs) : t.Calm :=
  Expects.of_runs calm runs

/-! ## Power cycles -/

/-- What the service does by itself, and what turns it on and off. -/
def Move.IsPower : Move → Prop
  | .act (.start _) | .act .stop | .act .nextControl | .act (.pluginReady ..) => True
  | .act (.elapse _) | .act (.settleWait _) | .act (.goOn _) | .act (.notice _) => True
  | .act (.busStep _) | .act (.deskWork _) | .act (.deskStop _) | .act (.reap _) => True
  | .act (.launch ..) | .act (.deskMark _) | .act (.record _) => True
  | _ => False

theorem Move.proper_of_isPower {m : Move} (power : m.IsPower) : m.Proper := by
  refine Move.proper_of_offered ?_
  cases m with
  | act a => cases a <;> first | rfl | cases power
  | _ => cases power

/-- From `s` to `t`, the registry is left alone, or a start takes over the state that it has read. -/
inductive System.Resumes (s t : System) : Prop
  | same (registry : t.registry = s.registry) (repository : t.repository = s.repository)
  | restored {st : Snapshot} (holds : s.Holds st)
      (registry : t.registry = (s.registry.restore st).registry)
      (repository : t.repository = s.repository)

theorem System.Undisturbed.resumes {s t : System} {P : Event → Prop}
    (undisturbed : Undisturbed P s t) : s.Resumes t :=
  .same undisturbed.registry undisturbed.repository

theorem System.Resumes.of_books {s t : System} (books : t.books = s.books) : s.Resumes t :=
  .same (congrArg Books.registry books) (congrArg Books.repository books)

/-- A call goes on, which does not change the bound. -/
theorem System.Calm.goOn {s : System} (calm : s.Calm) (unbound : s.scene.bounding = []) (id : Nat) :
    (s.move (.act (.goOn id))).Calm ∧ s.Resumes (s.move (.act (.goOn id))) := by
  by_cases passive : ∀ c, s.call? id = some c → c.work.IsPassive
  · have undisturbed := Undisturbed.goOn calm passive
    exact ⟨undisturbed.expects, undisturbed.resumes⟩
  · simp only [not_forall] at passive
    obtain ⟨c, found, active⟩ := passive
    have mem := List.mem_of_find?_eq_some found
    cases work : c.work with
    | bounding n =>
      have binds : c ∈ s.scene.bounding := List.mem_filter.2 ⟨mem, by rw [work]; rfl⟩
      exact absurd (unbound ▸ binds) List.not_mem_nil
    | restoring st =>
      have moved : s.move (.act (.goOn id)) = s.restoreState id st := by
        simp [System.move, System.step, System.goOn?, found, work]
      have books := (books_restoreState s id st).trans (books_change_restore s.books st)
      rw [moved]
      exact ⟨Expects.quiet calm (quiet_restoreState s id st), .restored ⟨c, mem, by rw [work]; rfl⟩
        (congrArg Books.registry books) (congrArg Books.repository books)⟩
    | _ =>
      rw [work] at active
      exact absurd trivial active

/-- As long as nobody changes the bound, a calm system stays calm, and its registry is restored at
    most. -/
theorem System.Calm.power {s : System} (calm : s.Calm) (unbound : s.scene.bounding = []) {m : Move}
    (power : m.IsPower) : (s.move m).Calm ∧ s.Resumes (s.move m) := by
  -- The system expects nothing at all, and there is nothing that the registry does not know.
  have none : s.Expects fun _ => False := calm
  have knows : s.Knows fun _ => False := nofun
  have alone {t : System} (undisturbed : Undisturbed (fun _ => False) s t) :
      t.Calm ∧ s.Resumes t := ⟨undisturbed.expects, undisturbed.resumes⟩
  cases m with
  | act a =>
    cases a with
    | start parentDone =>
      exact ⟨(none.quiet (quiet_freshId s)).request _, .of_books (books_request s.freshId.2 _)⟩
    | stop =>
      exact ⟨(none.quiet (quiet_freshId s)).request _, .of_books (books_request s.freshId.2 _)⟩
    | nextControl => exact ⟨none.nextControl, .of_books (books_nextControl s)⟩
    | goOn id => exact calm.goOn unbound id
    | pluginReady | elapse | settleWait | notice | reap | busStep | deskWork | deskStop | launch
    | deskMark | record =>
      exact alone (.passive none knows trivial)
    | _ => exact power.elim
  | _ => exact power.elim

end HeadUnit.Service
