import HeadUnit.Proofs.Bus.Change

/-!
# The registry is what the trace says

Who is registered follows from the trace alone, by the rule that something
happened and nothing undid it *since* (`Since`):

* a listener is registered if its registration was applied and no removal of it
  since (`Registered`);
* a remote entry is registered if its registration was applied, as the one with
  the number on its stamp, and nothing that ends this very entry occurred since
  (`Remote.Entered`). Only a notice with its own stamp ends it.

The *books* (`Books`) of a bus say so of a trace and a standing, and that no order
is lost: those accepted are those applied, followed by those in the mailbox.
Every change keeps the books (`Change.books`).

As the mailbox is emptied before every delivery, accepted orders are applied by
then. `Lawful` says what this means for the occurrences of a trace: when the turn
of a listener comes, it is called if it is registered by the orders *accepted* so
far, and passed over if not; and when an event is sent, it is to an entry that is
registered by then.
-/

namespace HeadUnit.Bus

/-! ## Since -/

section Since

variable {α : Type} {p : List α → α → Prop} {q : α → Prop}

/-- At some point `p` held, given what came before, and `q` of nothing since. -/
def Since (p : List α → α → Prop) (q : α → Prop) (xs : List α) : Prop :=
  ∃ before x after, xs = before ++ x :: after ∧ p before x ∧ ∀ y ∈ after, ¬q y

theorem not_since_nil : ¬Since p q [] := by
  rintro ⟨before, x, after, e, -⟩
  simp at e

theorem since_snoc {xs : List α} {y : α} :
    Since p q (xs ++ [y]) ↔ p xs y ∨ Since p q xs ∧ ¬q y := by
  constructor
  · rintro ⟨before, x, after, e, now, none⟩
    rcases after.eq_nil_or_concat with rfl | ⟨after, z, rfl⟩
    · obtain ⟨rfl, rfl⟩ := List.append_singleton_inj.1 e
      exact .inl now
    · rw [List.concat_eq_append, ← List.cons_append, ← List.append_assoc] at e
      obtain ⟨rfl, rfl⟩ := List.append_singleton_inj.1 e
      refine .inr ⟨⟨before, x, after, rfl, now, fun z hz => none z ?_⟩, none y ?_⟩ <;> simp [*]
  · rintro (now | ⟨⟨before, x, after, rfl, now, none⟩, quiet⟩)
    · exact ⟨xs, y, [], rfl, now, nofun⟩
    · refine ⟨before, x, after ++ [y], by simp, now, fun z hz => ?_⟩
      rcases List.mem_append.1 hz with hz | hz
      · exact none z hz
      · rwa [List.mem_singleton.1 hz]

theorem Since.append {xs : List α} (since : Since p q xs) {ys : List α} (none : ∀ y ∈ ys, ¬q y) :
    Since p q (xs ++ ys) := by
  obtain ⟨before, x, after, rfl, now, quiet⟩ := since
  refine ⟨before, x, after ++ ys, by simp, now, fun y hy => ?_⟩
  exact (List.mem_append.1 hy).elim (quiet y) (none y)

/-- What `q` undid has happened again. -/
theorem Since.again {xs ys : List α} {y : α} (since : Since p q (xs ++ y :: ys)) (undone : q y)
    (other : ¬p xs y) : ∃ before x after, ys = before ++ x :: after ∧ p (xs ++ y :: before) x := by
  obtain ⟨before, x, after, e, now, quiet⟩ := since
  rcases List.append_eq_append_iff.1 e with ⟨mid, rfl, rest⟩ | ⟨mid, rfl, rest⟩
  · cases mid with
    | nil =>
      obtain ⟨rfl, rfl⟩ := List.cons.inj rest
      exact absurd (List.append_nil xs ▸ now) other
    | cons z mid =>
      obtain ⟨rfl, rfl⟩ := List.cons.inj rest
      exact ⟨mid, x, after, rfl, now⟩
  · cases mid with
    | nil =>
      obtain ⟨rfl, rfl⟩ := List.cons.inj rest
      exact absurd ((List.append_nil before).symm ▸ now) other
    | cons z mid =>
      obtain ⟨rfl, rfl⟩ := List.cons.inj rest
      exact absurd undone (quiet y (by simp))

end Since

variable {L H : Type}

/-! ## Listeners -/

/-- A listener was added, and not removed since. -/
def Registered (l : L) (cs : List (Command L H)) : Prop :=
  Since (fun _ c => c = .addLocal l) (· = .removeLocal l) cs

/-- The listeners `ls` are those that the orders `cs` have registered. -/
structure Lists (cs : List (Command L H)) (ls : List L) : Prop where
  nodup : ls.Nodup
  mem_iff : ∀ l, l ∈ ls ↔ Registered l cs

theorem lists_nil : Lists (H := H) [] ([] : List L) where
  nodup := List.nodup_nil
  mem_iff _ := iff_of_false List.not_mem_nil not_since_nil

theorem registered_snoc {l : L} {cs : List (Command L H)} {c : Command L H} :
    Registered l (cs ++ [c]) ↔ c = .addLocal l ∨ Registered l cs ∧ c ≠ .removeLocal l :=
  since_snoc

/-! ## Remote entries -/

/-- Whether a handle was registered. -/
def Occurrence.isRegistration : Occurrence L H → Bool
  | applied (.addRemote ..) => true
  | _ => false

/-- How many handles were registered. -/
def Trace.registrations (t : Trace L H) : Nat := t.countP (·.isRegistration)

/-- What ends an entry: another handle takes its place, its uid is removed, a
    notice with its own stamp is applied, it fails or is found dead at its turn, or
    the worker finishes. -/
def Occurrence.Ends (r : Remote H) : Occurrence L H → Prop
  | applied (.addRemote uid _) | applied (.removeRemote uid) => uid = r.uid
  | applied (.remoteDied uid stamp) | refused uid stamp | foundDead uid stamp =>
    uid = r.uid ∧ stamp = r.stamp
  | finished => True
  | _ => False

/-- An occurrence registers an entry, which gets the next stamp. -/
def Occurrence.Enters (r : Remote H) (t : Trace L H) (o : Occurrence L H) : Prop :=
  o = .applied (.addRemote r.uid r.handle) ∧ r.stamp = t.registrations

/-- An entry was registered, and nothing has ended it since. -/
def Remote.Entered (r : Remote H) (t : Trace L H) : Prop :=
  Since (Occurrence.Enters r) (Occurrence.Ends r) t

/-- The entries `rs` are those that the trace has registered; the next one gets the
    stamp `n`. -/
structure Enters (t : Trace L H) (rs : List (Remote H)) (n : Nat) : Prop where
  sorted : rs.Pairwise (·.uid < ·.uid)
  mem_iff : ∀ r, r ∈ rs ↔ r.Entered t
  stamp : n = t.registrations

theorem enters_nil : Enters (L := L) [] ([] : List (Remote H)) 0 where
  sorted := List.Pairwise.nil
  mem_iff _ := iff_of_false List.not_mem_nil not_since_nil
  stamp := rfl

theorem Remote.entered_snoc {r : Remote H} {t : Trace L H} {o : Occurrence L H} :
    r.Entered (t ++ [o]) ↔ o.Enters r t ∨ r.Entered t ∧ ¬o.Ends r :=
  since_snoc

theorem Trace.registrations_snoc (t : Trace L H) (o : Occurrence L H) :
    (t ++ [o]).registrations = t.registrations + if o.isRegistration then 1 else 0 := by
  simp [Trace.registrations, List.countP_append, List.countP_cons]

/-- What neither registers nor ends an entry leaves the entries. -/
theorem Enters.snoc_quiet {t : Trace L H} {rs : List (Remote H)} {n : Nat} (enters : Enters t rs n)
    {o : Occurrence L H} (plain : o.isRegistration = false) (quiet : ∀ r, ¬o.Ends r) :
    Enters (t ++ [o]) rs n where
  sorted := enters.sorted
  mem_iff r := by
    have none : ¬o.Enters r t := by
      rintro ⟨rfl, -⟩
      cases plain
    rw [Remote.entered_snoc, enters.mem_iff]
    simp [none, quiet r]
  stamp := by rw [Trace.registrations_snoc, plain, enters.stamp]; rfl

/-- What ends some entries leaves the others. -/
theorem Enters.snoc_filter {t : Trace L H} {rs : List (Remote H)} {n : Nat} (enters : Enters t rs n)
    {o : Occurrence L H} (plain : o.isRegistration = false) {f : Remote H → Bool}
    (ends : ∀ r ∈ rs, f r = true ↔ ¬o.Ends r) : Enters (t ++ [o]) (rs.filter f) n where
  sorted := enters.sorted.filter f
  mem_iff r := by
    have none : ¬o.Enters r t := by
      rintro ⟨rfl, -⟩
      cases plain
    rw [Remote.entered_snoc, List.mem_filter, ← enters.mem_iff]
    constructor
    · rintro ⟨mem, kept⟩
      exact .inr ⟨mem, (ends r mem).1 kept⟩
    · rintro (now | ⟨mem, kept⟩)
      · exact absurd now none
      · exact ⟨mem, (ends r mem).2 kept⟩
  stamp := by rw [Trace.registrations_snoc, plain, enters.stamp]; rfl

/-! ## Entries in order -/

theorem mem_insertRemote {r s : Remote H} {rs : List (Remote H)}
    (sorted : rs.Pairwise (·.uid < ·.uid)) :
    s ∈ insertRemote r rs ↔ s = r ∨ s ∈ rs ∧ s.uid ≠ r.uid := by
  induction rs with
  | nil => simp [insertRemote]
  | cons q rs ih =>
    rw [List.pairwise_cons] at sorted
    have larger := sorted.1
    have ih := ih sorted.2
    unfold insertRemote
    split
    · -- The new entry comes first, as all others have larger uids.
      have others : ∀ x ∈ q :: rs, x.uid ≠ r.uid := by
        intro x hx
        rcases List.mem_cons.1 hx with rfl | hx
        · grind
        · have := larger x hx
          grind
      rw [List.mem_cons]
      constructor
      · rintro (rfl | mem)
        · exact .inl rfl
        · exact .inr ⟨mem, others s mem⟩
      · rintro (rfl | ⟨mem, -⟩)
        · exact .inl rfl
        · exact .inr mem
    · split
      · next same =>
        have others : ∀ x ∈ rs, x.uid ≠ r.uid := by
          intro x hx
          have := larger x hx
          grind
        simp only [List.mem_cons]
        constructor
        · rintro (rfl | mem)
          · exact .inl rfl
          · exact .inr ⟨.inr mem, others s mem⟩
        · rintro (rfl | ⟨rfl | mem, ne⟩)
          · exact .inl rfl
          · exact absurd same.symm ne
          · exact .inr mem
      · next less differ =>
        simp only [List.mem_cons, ih]
        constructor
        · rintro (rfl | rfl | ⟨mem, ne⟩)
          · exact .inr ⟨.inl rfl, Ne.symm differ⟩
          · exact .inl rfl
          · exact .inr ⟨.inr mem, ne⟩
        · rintro (rfl | ⟨rfl | mem, ne⟩)
          · exact .inr (.inl rfl)
          · exact .inl rfl
          · exact .inr (.inr ⟨mem, ne⟩)

theorem sorted_insertRemote (r : Remote H) {rs : List (Remote H)}
    (sorted : rs.Pairwise (·.uid < ·.uid)) : (insertRemote r rs).Pairwise (·.uid < ·.uid) := by
  induction rs with
  | nil => exact List.pairwise_singleton _ _
  | cons q rs ih =>
    have ⟨larger, rest⟩ := List.pairwise_cons.1 sorted
    unfold insertRemote
    split
    · next less =>
      refine List.pairwise_cons.2 ⟨fun x hx => ?_, sorted⟩
      rcases List.mem_cons.1 hx with rfl | hx
      · exact less
      · exact Int64.lt_trans less (larger x hx)
    · split
      · next same => exact List.pairwise_cons.2 ⟨fun x hx => same ▸ larger x hx, rest⟩
      · next less differ =>
        refine List.pairwise_cons.2 ⟨fun x hx => ?_, ih rest⟩
        rcases (mem_insertRemote rest).1 hx with rfl | ⟨mem, -⟩
        · grind
        · exact larger x mem

/-- In a sorted list the uid tells the entry. -/
theorem eq_of_uid_eq {rs : List (Remote H)} (sorted : rs.Pairwise (·.uid < ·.uid)) {r s : Remote H}
    (hr : r ∈ rs) (hs : s ∈ rs) (same : r.uid = s.uid) : r = s := by
  induction rs with
  | nil => exact absurd hr List.not_mem_nil
  | cons q rs ih =>
    have ⟨larger, rest⟩ := List.pairwise_cons.1 sorted
    rcases List.mem_cons.1 hr with rfl | hr' <;> rcases List.mem_cons.1 hs with rfl | hs'
    · rfl
    · exact absurd (same ▸ larger s hs') Int64.lt_irrefl
    · exact absurd (same ▸ larger r hr') Int64.lt_irrefl
    · exact ih rest hr' hs'

/-! ## Applying commands -/

@[simp]
theorem locals_postDeaths (b : Bus L H) (rs : List (Remote H)) :
    (b.postDeaths rs).locals = b.locals := by
  unfold postDeaths
  split <;> rfl

@[simp]
theorem remotes_postDeaths (b : Bus L H) (rs : List (Remote H)) :
    (b.postDeaths rs).remotes = b.remotes := by
  unfold postDeaths
  split <;> rfl

@[simp]
theorem nextStamp_postDeaths (b : Bus L H) (rs : List (Remote H)) :
    (b.postDeaths rs).nextStamp = b.nextStamp := by
  unfold postDeaths
  split <;> rfl

variable [DecidableEq L] [DecidableEq H]

theorem locals_addRemote (b : Bus L H) (uid : Int64) (h : H) :
    (b.applyOne (.addRemote uid h)).locals = b.locals := by
  simp only [applyOne]
  split <;> split <;> simp [note, emit]

theorem remotes_addRemote (b : Bus L H) (uid : Int64) (h : H) :
    (b.applyOne (.addRemote uid h)).remotes = insertRemote ⟨uid, b.nextStamp, h⟩ b.remotes := by
  simp only [applyOne]
  split <;> split <;> simp [note, emit]

theorem nextStamp_addRemote (b : Bus L H) (uid : Int64) (h : H) :
    (b.applyOne (.addRemote uid h)).nextStamp = b.nextStamp + 1 := by
  simp only [applyOne]
  split <;> split <;> simp [note, emit]

theorem locals_remoteDied (b : Bus L H) (uid : Int64) (stamp : Nat) :
    (b.applyOne (.remoteDied uid stamp)).locals = b.locals := by
  rw [applyOne]
  split <;> rfl

theorem nextStamp_remoteDied (b : Bus L H) (uid : Int64) (stamp : Nat) :
    (b.applyOne (.remoteDied uid stamp)).nextStamp = b.nextStamp := by
  rw [applyOne]
  split <;> rfl

/-- A notice removes the entry with its uid and its stamp, and no other. -/
theorem remotes_remoteDied {b : Bus L H} (sorted : b.remotes.Pairwise (·.uid < ·.uid)) (uid : Int64)
    (stamp : Nat) : (b.applyOne (.remoteDied uid stamp)).remotes =
      b.remotes.filter fun r => !(r.uid == uid && r.stamp == stamp) := by
  rw [applyOne]
  split
  · rfl
  · next other =>
    -- The entry of the uid, if there is one, has another stamp.
    refine (List.filter_eq_self.2 fun r mem => ?_).symm
    have found : b.remote? r.uid = some r := by
      cases e : b.remote? r.uid with
      | none => simpa using List.find?_eq_none.1 e r mem
      | some q =>
        have uid : q.uid = r.uid := by simpa using List.find?_some e
        rw [eq_of_uid_eq sorted (List.mem_of_find?_eq_some e) mem uid]
    by_cases same : r.uid = uid
    · rw [← same, found] at other
      simpa [same] using other
    · simp [same]

theorem Lists.applyOne {cs : List (Command L H)} {b : Bus L H} (lists : Lists cs b.locals)
    (c : Command L H) : Lists (cs ++ orders [c]) (b.applyOne c).locals := by
  cases c with
  | addLocal l =>
    rw [orders_singleton rfl, Bus.applyOne]
    have mem (k : L) : Registered k (cs ++ [.addLocal l]) ↔ l = k ∨ k ∈ b.locals := by
      rw [registered_snoc, lists.mem_iff]
      simp
    split
    · next there =>
      have there : l ∈ b.locals := List.contains_iff_mem.1 there
      refine ⟨lists.nodup, fun k => ?_⟩
      rw [mem]
      constructor
      · exact .inr
      · rintro (rfl | there)
        · assumption
        · exact there
    · next gone =>
      have gone : l ∉ b.locals := mt List.contains_iff_mem.2 gone
      refine ⟨?_, fun k => ?_⟩
      · simpa [List.nodup_append] using ⟨lists.nodup, fun a ha e => gone (e ▸ ha)⟩
      · rw [mem, List.mem_append, List.mem_singleton, or_comm, eq_comm]
  | removeLocal l =>
    rw [orders_singleton rfl]
    refine ⟨lists.nodup.erase l, fun k => ?_⟩
    rw [registered_snoc, ← lists.mem_iff]
    simp only [Bus.applyOne, lists.nodup.mem_erase_iff]
    constructor
    · rintro ⟨ne, mem⟩
      exact .inr ⟨mem, by simpa using Ne.symm ne⟩
    · rintro (e | ⟨mem, ne⟩)
      · cases e
      · exact ⟨fun e => ne (by rw [e]), mem⟩
  | addRemote uid h =>
    rw [orders_singleton rfl, locals_addRemote]
    refine ⟨lists.nodup, fun k => ?_⟩
    rw [registered_snoc, lists.mem_iff]
    simp
  | removeRemote uid =>
    rw [orders_singleton rfl]
    refine ⟨lists.nodup, fun k => ?_⟩
    rw [registered_snoc, ← lists.mem_iff]
    simp [Bus.applyOne, dropRemote]
  | remoteDied uid stamp =>
    have none : orders [(.remoteDied uid stamp : Command L H)] = [] := rfl
    rwa [none, List.append_nil, locals_remoteDied]

theorem Lists.foldl_applyOne {cs : List (Command L H)} {b : Bus L H} (lists : Lists cs b.locals)
    (more : List (Command L H)) : Lists (cs ++ orders more) (more.foldl Bus.applyOne b).locals := by
  induction more generalizing cs b with
  | nil => simpa [orders] using lists
  | cons c more ih =>
    have := ih (lists.applyOne c)
    rwa [List.append_assoc, ← orders_append, List.singleton_append] at this

theorem Enters.applyOne {t : Trace L H} {b : Bus L H} (enters : Enters t b.remotes b.nextStamp)
    (c : Command L H) :
    Enters (t ++ [.applied c]) (b.applyOne c).remotes (b.applyOne c).nextStamp := by
  cases c with
  | addLocal l =>
    have same : (b.applyOne (.addLocal l)).remotes = b.remotes ∧
        (b.applyOne (.addLocal l)).nextStamp = b.nextStamp := by
      rw [Bus.applyOne]
      split <;> exact ⟨rfl, rfl⟩
    rw [same.1, same.2]
    exact enters.snoc_quiet rfl fun _ => id
  | removeLocal l => exact enters.snoc_quiet rfl fun _ => id
  | addRemote uid h =>
    rw [remotes_addRemote, nextStamp_addRemote]
    refine ⟨sorted_insertRemote _ enters.sorted, fun r => ?_, ?_⟩
    · rw [mem_insertRemote enters.sorted, Remote.entered_snoc, ← enters.mem_iff]
      have now : Occurrence.Enters r t (.applied (.addRemote uid h) : Occurrence L H) ↔
          r = ⟨uid, b.nextStamp, h⟩ := by
        obtain ⟨u, n, k⟩ := r
        simp [Occurrence.Enters, enters.stamp]
        constructor
        · rintro ⟨⟨rfl, rfl⟩, rfl⟩
          exact ⟨rfl, rfl, rfl⟩
        · rintro ⟨rfl, rfl, rfl⟩
          exact ⟨⟨rfl, rfl⟩, rfl⟩
      have ends : Occurrence.Ends r (.applied (.addRemote uid h) : Occurrence L H) ↔
          uid = r.uid := Iff.rfl
      rw [now, ends, eq_comm (a := uid)]
    · rw [Trace.registrations_snoc, enters.stamp]
      rfl
  | removeRemote uid =>
    refine enters.snoc_filter rfl fun r _ => ?_
    have ends : Occurrence.Ends r (.applied (.removeRemote uid) : Occurrence L H) ↔
        uid = r.uid := Iff.rfl
    rw [ends, eq_comm (a := uid)]
    simp
  | remoteDied uid stamp =>
    rw [remotes_remoteDied enters.sorted, nextStamp_remoteDied]
    refine enters.snoc_filter rfl fun r _ => ?_
    have ends : Occurrence.Ends r (.applied (.remoteDied uid stamp) : Occurrence L H) ↔
        uid = r.uid ∧ stamp = r.stamp := Iff.rfl
    rw [ends, eq_comm (a := uid), eq_comm (a := stamp)]
    simp [imp_iff_not_or]

theorem Enters.foldl_applyOne {t : Trace L H} {b : Bus L H}
    (enters : Enters t b.remotes b.nextStamp) (cs : List (Command L H)) :
    Enters (t ++ cs.map .applied) (cs.foldl Bus.applyOne b).remotes
      (cs.foldl Bus.applyOne b).nextStamp := by
  induction cs generalizing t b with
  | nil => simpa using enters
  | cons c cs ih =>
    have := ih (enters.applyOne c)
    rwa [List.append_assoc] at this

/-! ## What an occurrence says of those before it -/

/-- What holds of the trace `t` when an occurrence follows it. -/
def Law (t : Trace L H) : Occurrence L H → Prop
  | .started _ ls => Lists t.posted ls
  | .called l _ => Registered l t.posted
  | .passed l _ => ¬Registered l t.posted
  | .sent r _ => t.posted = orders t.applied ∧ r.Entered t
  | .posted _ => orders t.applied <+: t.posted
  | _ => True

/-- Every occurrence has its law. -/
def Lawful (t : Trace L H) : Prop := ∀ t₁ o t₂, t = t₁ ++ o :: t₂ → Law t₁ o

omit [DecidableEq L] [DecidableEq H] in
theorem lawful_nil : Lawful ([] : Trace L H) := by
  intro t₁ o t₂ e
  simp at e

omit [DecidableEq L] [DecidableEq H] in
theorem Lawful.snoc {t : Trace L H} (lawful : Lawful t) {o : Occurrence L H} (law : Law t o) :
    Lawful (t ++ [o]) := by
  intro t₁ x t₂ e
  rcases t₂.eq_nil_or_concat with rfl | ⟨t₂, y, rfl⟩
  · obtain ⟨rfl, rfl⟩ := List.append_singleton_inj.1 e
    exact law
  · rw [List.concat_eq_append, ← List.cons_append, ← List.append_assoc] at e
    exact lawful t₁ x t₂ (List.append_singleton_inj.1 e).1

omit [DecidableEq L] [DecidableEq H] in
theorem Lawful.applied {t : Trace L H} (lawful : Lawful t) (cs : List (Command L H)) :
    Lawful (t ++ cs.map .applied) := by
  induction cs generalizing t with
  | nil => simpa using lawful
  | cons c cs ih =>
    have := ih (lawful.snoc (o := .applied c) trivial)
    rwa [List.append_assoc] at this

/-! ## The books of a bus -/

/-- The standing `s` is what the trace `t` says. -/
structure Books (t : Trace L H) (s : Standing L H) : Prop where
  posted : t.posted = orders t.applied ++ s.orders
  locals : s.worker ≠ .finished → Lists (orders t.applied) s.locals
  remotes : Enters t s.remotes s.nextStamp
  lawful : Lawful t

namespace Books

section

omit [DecidableEq L] [DecidableEq H]

variable {t : Trace L H} {s s' : Standing L H}

/-- The books do not depend on what else the standing holds. -/
theorem of_same (books : Books t s) (works : s.worker ≠ .finished)
    (orders : s'.orders = s.orders) (locals : s'.locals = s.locals)
    (remotes : s'.remotes = s.remotes) (stamp : s'.nextStamp = s.nextStamp) : Books t s' where
  posted := by rw [orders, books.posted]
  locals _ := locals ▸ books.locals works
  remotes := by
    rw [remotes, stamp]
    exact books.remotes
  lawful := books.lawful

/-- What posts, applies and registers nothing keeps the books, if it ends the entries that
    are dropped. -/
theorem snoc (books : Books t s) {o : Occurrence L H} (law : Law t o)
    (posts : o.posted? = none) (applies : o.applied? = none) {f : Remote H → Bool}
    (ends : ∀ r ∈ s.remotes, f r = true ↔ ¬o.Ends r) (orders : s'.orders = s.orders)
    (locals : s'.worker ≠ .finished → s.worker ≠ .finished ∧ s'.locals = s.locals)
    (remotes : s'.remotes = s.remotes.filter f) (stamp : s'.nextStamp = s.nextStamp) :
    Books (t ++ [o]) s' where
  posted := by
    have posted : Trace.posted [o] = [] := List.filterMap_cons_none posts
    have applied : Trace.applied [o] = [] := List.filterMap_cons_none applies
    rw [Trace.posted_append, Trace.applied_append, posted, applied, List.append_nil,
      List.append_nil, books.posted, orders]
  locals works := by
    have applied : Trace.applied [o] = [] := List.filterMap_cons_none applies
    rw [Trace.applied_append, applied, List.append_nil, (locals works).2]
    exact books.locals (locals works).1
  remotes := by
    have plain : o.isRegistration = false := by
      cases o <;> first | rfl | cases applies
    rw [remotes, stamp]
    exact books.remotes.snoc_filter plain ends
  lawful := books.lawful.snoc law

/-- News with their law keep the books: they end no entry. -/
theorem news (books : Books t s) {o : Occurrence L H} (law : Law t o) (posts : o.posted? = none)
    (applies : o.applied? = none) (ends : ∀ r, ¬o.Ends r) (orders : s'.orders = s.orders)
    (locals : s'.worker ≠ .finished → s.worker ≠ .finished ∧ s'.locals = s.locals)
    (remotes : s'.remotes = s.remotes) (stamp : s'.nextStamp = s.nextStamp) :
    Books (t ++ [o]) s' :=
  books.snoc law posts applies (f := fun _ => true) (fun r _ => iff_of_true rfl (ends r)) orders
    locals (remotes.trans (List.filter_eq_self.2 fun _ _ => rfl).symm) stamp

end

variable {t : Trace L H} {b : Bus L H}

/-- Emptying the mailbox keeps the books. -/
theorem applied (books : Books t b.standing) (works : b.worker ≠ .finished) :
    Books (t ++ b.control.map .applied) b.applied where
  posted := by
    rw [Trace.posted_append, Trace.posted_map_applied, Trace.applied_append,
      Trace.applied_map_applied, orders_append, books.posted, (emptied_applied b).orders]
    rfl
  locals _ := by
    rw [Trace.applied_append, Trace.applied_map_applied, orders_append]
    exact (books.locals works).foldl_applyOne (b := { b with control := [] }) b.control
  remotes := books.remotes.foldl_applyOne (b := { b with control := [] }) b.control
  lawful := books.lawful.applied b.control

/-- Once the mailbox is emptied, the accepted orders are applied. -/
theorem posted_eq_applied (books : Books t b.applied) : t.posted = orders t.applied := by
  rw [books.posted, (emptied_applied b).orders, List.append_nil]

/-- Once the mailbox is emptied, the listeners are those of the accepted orders. -/
theorem lists_posted (books : Books t b.standing) (works : b.worker ≠ .finished) :
    Lists t.posted b.applied.locals := by
  have empty := books.applied works
  have lists := empty.locals ((emptied_applied b).worker ▸ works)
  rwa [← empty.posted_eq_applied, Trace.posted_append, Trace.posted_map_applied,
    List.append_nil] at lists

end Books

/-- Every change keeps the books. -/
theorem Change.books {b : Bus L H} {s : Standing L H} {t os : Trace L H} (change : Change b s os)
    (books : Books t b.standing) : Books (t ++ os) s := by
  have working {w : Worker L} (doing : b.worker = w) (not : w ≠ .finished) :
      b.worker ≠ .finished := fun e => not (doing ▸ e)
  have same {w : Worker L} (doing : b.worker = w) (not : w ≠ .finished) :
      b.applied.worker ≠ .finished := (emptied_applied b).worker ▸ working doing not
  have posted : Trace.posted (t ++ b.control.map .applied) = t.posted := by simp
  cases change with
  | nothing => simpa using books
  | accepted e =>
    exact books.news (o := .accepted e) trivial rfl rfl (fun _ => id) rfl
      (fun works => ⟨works, rfl⟩) rfl rfl
  | posted c order =>
    have applied : Trace.applied [(.posted c : Occurrence L H)] = [] := rfl
    have posted : Trace.posted [(.posted c : Occurrence L H)] = [c] := rfl
    have law : orders t.applied <+: t.posted := ⟨_, books.posted.symm⟩
    refine ⟨?_, ?_, books.remotes.snoc_quiet rfl fun _ => id, books.lawful.snoc law⟩
    · rw [Trace.posted_append, Trace.applied_append, posted, applied, books.posted,
        List.append_nil, List.append_assoc]
    · rw [Trace.applied_append, applied, List.append_nil]
      exact books.locals
  | roused rest =>
    rw [List.append_nil]
    refine books.of_same ?_ rfl rfl rfl rfl
    rcases rest with new | idle
    · exact working new nofun
    · exact working idle nofun
  | returned doing | taken doing | turned doing | completed doing =>
    rw [List.append_nil]
    exact books.of_same (working doing nofun) rfl rfl rfl rfl
  | @refused uid stamp e todo doing =>
    refine books.snoc (o := .refused uid stamp) trivial rfl rfl (fun r _ => ?_) rfl
      (fun _ => ⟨working doing nofun, rfl⟩) rfl rfl
    have ends : Occurrence.Ends r (.refused uid stamp : Occurrence L H) ↔
        uid = r.uid ∧ stamp = r.stamp := Iff.rfl
    rw [ends, eq_comm (a := uid), eq_comm (a := stamp)]
    simp [imp_iff_not_or]
  | looked w doing next =>
    exact (books.applied (working doing nofun)).of_same (same doing nofun) rfl rfl rfl rfl
  | absent doing =>
    exact (books.applied (working doing nofun)).of_same (same doing nofun) rfl rfl rfl rfl
  | @started e es doing first =>
    have empty := books.applied (working doing nofun)
    have lists := posted ▸ books.lists_posted (working doing nofun)
    rw [← List.append_assoc]
    exact empty.news (o := .started e b.applied.locals) lists rfl rfl (fun _ => id) rfl
      (fun _ => ⟨same doing nofun, rfl⟩) rfl rfl
  | finished doing none =>
    have empty := books.applied (working doing nofun)
    rw [← List.append_assoc]
    exact empty.snoc (o := .finished) trivial rfl rfl (f := fun _ => false)
      (fun _ _ => iff_of_false nofun fun not => not trivial) rfl (fun not => absurd rfl not)
      (by simp) rfl
  | @called l e todo doing there =>
    have empty := books.applied (working doing nofun)
    have registered := posted ▸ ((books.lists_posted (working doing nofun)).mem_iff l).1 there
    rw [← List.append_assoc]
    exact empty.news (o := .called l e) registered rfl rfl (fun _ => id) rfl
      (fun _ => ⟨same doing nofun, rfl⟩) rfl rfl
  | @passed l e todo doing gone =>
    have empty := books.applied (working doing nofun)
    have removed := posted ▸ mt ((books.lists_posted (working doing nofun)).mem_iff l).2 gone
    rw [← List.append_assoc]
    exact empty.news (o := .passed l e) removed rfl rfl (fun _ => id) rfl
      (fun _ => ⟨same doing nofun, rfl⟩) rfl rfl
  | @sent r e todo doing there alive =>
    have empty := books.applied (working doing nofun)
    have entered := (empty.remotes.mem_iff r).1 there
    rw [← List.append_assoc]
    exact empty.news (o := .sent r e) ⟨empty.posted_eq_applied, entered⟩ rfl rfl (fun _ => id) rfl
      (fun _ => ⟨same doing nofun, rfl⟩) rfl rfl
  | @foundDead r e todo doing there =>
    have empty := books.applied (working doing nofun)
    rw [← List.append_assoc]
    refine empty.snoc (o := .foundDead r.uid r.stamp) trivial rfl rfl (fun q mem => ?_) rfl
      (fun _ => ⟨same doing nofun, rfl⟩) rfl rfl
    -- The entry of the uid is the one that was found dead.
    constructor
    · rintro kept ⟨uid, -⟩
      simp [uid] at kept
    · intro not
      rw [bne_iff_ne]
      intro uid
      obtain rfl := eq_of_uid_eq empty.remotes.sorted there mem uid.symm
      exact not ⟨rfl, rfl⟩

/-- In every run the registry is what the trace says. -/
theorem IsRun.books {h : History L H} {b : Bus L H} (run : IsRun h b) :
    Books (History.trace h) b.standing := by
  induction run with
  | fresh => exact ⟨rfl, fun _ => lists_nil, enters_nil, lawful_nil⟩
  | @step h b m run ih =>
    rw [History.trace_snoc]
    have next := (Moment.mk b m).change.books ih
    exact ⟨next.posted, next.locals, next.remotes, next.lawful⟩

end HeadUnit.Bus
