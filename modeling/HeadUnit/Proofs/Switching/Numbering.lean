import HeadUnit.Proofs.Switching.Provenance

/-!
# Sequence numbers

Every transaction that is installed gets the next number of a counter of 64
bits. So the counter tells how many there were (`IsRun.seq_eq`), and the tracked
transaction always has its value (`IsRun.tx_seq`). As long as the counter has
not run out, a number tells its transaction (`IsRun.eq_of_seq_eq`): an answer
that passes as current belongs to the very transaction that is tracked
(`IsRun.sameSwitch_of_isCurrent`).
-/

namespace HeadUnit.Switching

open History

/-- The same switch, maybe further on. -/
structure SameSwitch (t t' : Transaction) : Prop where
  target : t.target = t'.target
  prior : t.prior = t'.prior
  seq : t.seq = t'.seq

theorem SameSwitch.refl (t : Transaction) : SameSwitch t t := ⟨rfl, rfl, rfl⟩

theorem SameSwitch.trans {t t' t'' : Transaction} (one : SameSwitch t t')
    (other : SameSwitch t' t'') : SameSwitch t t'' :=
  ⟨one.target.trans other.target, one.prior.trans other.prior, one.seq.trans other.seq⟩

/-- No transaction is tracked but the one that was before. -/
def Keeps (d : Desk) (s : Standing) : Prop :=
  s.seq = d.seq ∧ ∀ t, s.tx = some t → ∃ t₀, d.tx = some t₀ ∧ SameSwitch t t₀

/-- A transaction with the next number is tracked. -/
def Renews (d : Desk) (s : Standing) : Prop :=
  s.seq = d.seq + 1 ∧ ∃ t, s.tx = some t ∧ t.seq = d.seq + 1

/-- A move keeps the tracked transaction or drops it, unless a new one is
    installed. -/
theorem Change.keeps_or_renews {d : Desk} {m : Move} {s : Standing} (change : Change d m s) :
    Keeps d s ∨ Renews d s := by
  have same (seq : s.seq = d.seq) (tx : s.tx = d.tx) : Keeps d s :=
    ⟨seq, fun t ht => ⟨t, tx ▸ ht, .refl t⟩⟩
  have dropped (seq : s.seq = d.seq) (tx : s.tx = none) : Keeps d s :=
    ⟨seq, fun t ht => nomatch tx.symm.trans ht⟩
  cases change with
  | installed tx new => exact .inr ⟨rfl, tx, rfl, new ▸ rfl⟩
  | initiatedDone => exact .inr ⟨rfl, _, rfl, rfl⟩
  | rejected | launched | started | superseded | directTaken | initiatedTaken | noted
  | commitSuperseded | directFailed | directDone | initiatedFailed | marked | adjusted =>
    exact .inl (same rfl rfl)
  | direct | tripEnded | initiated | events =>
    exact .inl (same (Standing.post_seq ..) (Standing.post_tx ..))
  | denied | unlocked | commitFailed => exact .inl (dropped rfl rfl)
  | approved | commitDone =>
    refine .inl ⟨rfl, fun t ht => ?_⟩
    obtain ⟨t₀, tracked, rfl⟩ := Option.map_eq_some_iff.1 ht
    exact ⟨t₀, tracked, rfl, rfl, rfl⟩
  | closed tx w down less =>
    rcases less with rfl | rfl
    · exact .inl (same rfl rfl)
    · exact .inl (dropped rfl rfl)

theorem Desk.isCurrent_iff {d : Desk} {t : Transaction} :
    d.isCurrent t = true ↔ ∃ t', d.tx = some t' ∧ t'.seq = t.seq := by
  unfold Desk.isCurrent
  cases d.tx <;> simp

theorem Desk.seq_eq_of_isCurrent {d : Desk} {t t₀ : Transaction} (current : d.isCurrent t = true)
    (tracked : d.tx = some t₀) : t₀.seq = t.seq := by
  obtain ⟨t', tracked', same⟩ := isCurrent_iff.1 current
  obtain rfl : t' = t₀ := Option.some.inj (tracked'.symm.trans tracked)
  exact same

/-- The first numbers do not wrap. -/
theorem toNat_number {i n : Nat} (hi : i < n) (few : n < 2 ^ 64) :
    (UInt64.ofNat (i + 1)).toNat = i + 1 :=
  UInt64.toNat_ofNat_of_lt' (show i + 1 < 2 ^ 64 by omega)

namespace IsRun

variable {h : History} {d : Desk}

/-- The tracked transaction has the last number, and was installed. -/
theorem tracked (run : IsRun h d) : ∀ t, d.tx = some t →
    t.seq = d.seq ∧ ∃ t₀ ∈ transactions h, SameSwitch t t₀ := by
  induction run with
  | fresh => exact nofun
  | @step h d m run able ih =>
    intro t ht
    rw [transactions_snoc]
    rcases (run.change able).keeps_or_renews with ⟨seq, kept⟩ | ⟨seq, t', tx, number⟩
    · obtain ⟨t₀, tracked, same⟩ := kept t ht
      obtain ⟨last, t₁, mem, same'⟩ := ih t₀ tracked
      exact ⟨same.seq.trans (last.trans seq.symm), t₁, List.mem_append_left _ mem,
        same.trans same'⟩
    · obtain rfl : t' = t := Option.some.inj (tx.symm.trans ht)
      refine ⟨number.trans seq.symm, t', List.mem_append_right _ ?_, .refl t'⟩
      rw [Moment.installed?_of_seq_next seq, tx]
      exact List.mem_cons_self

theorem tx_seq (run : IsRun h d) {t : Transaction} (tracked : d.tx = some t) : t.seq = d.seq :=
  (run.tracked t tracked).1

/-- The counter tells how many transactions were installed, and each has got the
    next number. -/
theorem numbers (run : IsRun h d) :
    d.seq = UInt64.ofNat (transactions h).length ∧
      (transactions h).map (·.seq) =
        (List.range (transactions h).length).map fun i => UInt64.ofNat (i + 1) := by
  induction run with
  | fresh => exact ⟨rfl, rfl⟩
  | @step h d m run able ih =>
    rw [transactions_snoc]
    rcases (run.change able).keeps_or_renews with ⟨seq, _⟩ | ⟨seq, t, tx, number⟩
    · rw [Moment.installed?_of_seq_eq seq, Option.toList_none, List.append_nil]
      exact ⟨seq.trans ih.1, ih.2⟩
    · have next : d.seq + 1 = UInt64.ofNat ((transactions h).length + 1) := by
        rw [ih.1, UInt64.ofNat_add]
        rfl
      rw [Moment.installed?_of_seq_next seq, tx, Option.toList_some, List.length_append,
        List.length_singleton, List.map_append, ih.2, List.range_succ, List.map_append]
      exact ⟨seq.trans next, congrArg (_ ++ [·]) (number.trans next)⟩

theorem seq_eq (run : IsRun h d) : d.seq = UInt64.ofNat (transactions h).length := run.numbers.1

theorem toNat_seq (run : IsRun h d) (few : (transactions h).length < 2 ^ 64) :
    d.seq.toNat = (transactions h).length := by
  rw [run.seq_eq, UInt64.toNat_ofNat_of_lt' few]

/-- Until the counter runs out, no two transactions have the same number. -/
theorem nodup_seqs (run : IsRun h d) (few : (transactions h).length < 2 ^ 64) :
    ((transactions h).map (·.seq)).Nodup := by
  rw [run.numbers.2]
  refine List.Nodup.map_on (fun i hi j hj e => ?_) List.nodup_range
  have e := congrArg UInt64.toNat e
  rw [List.mem_range] at hi hj
  rw [toNat_number hi few, toNat_number hj few] at e
  exact Nat.succ.inj e

theorem exists_number (run : IsRun h d) {t : Transaction} (mem : t ∈ transactions h) :
    ∃ i < (transactions h).length, UInt64.ofNat (i + 1) = t.seq := by
  have given := List.mem_map_of_mem (f := Transaction.seq) mem
  rw [run.numbers.2] at given
  obtain ⟨i, hi, e⟩ := List.mem_map.1 given
  exact ⟨i, List.mem_range.1 hi, e⟩

/-- Until the counter runs out, no number is above it. -/
theorem seq_le (run : IsRun h d) (few : (transactions h).length < 2 ^ 64) {t : Transaction}
    (mem : t ∈ transactions h) : t.seq ≤ d.seq := by
  obtain ⟨i, hi, e⟩ := run.exists_number mem
  rw [UInt64.le_iff_toNat_le, ← e, run.toNat_seq few, toNat_number hi few]
  exact hi

/-- Until the counter runs out, the next number is new. -/
theorem seq_ne_next (run : IsRun h d) (few : (transactions h).length < 2 ^ 64) {t : Transaction}
    (mem : t ∈ transactions h) : t.seq ≠ d.seq + 1 := by
  obtain ⟨i, hi, e⟩ := run.exists_number mem
  intro next
  have next := congrArg UInt64.toNat next
  rw [← e, toNat_number hi few, UInt64.toNat_add, run.toNat_seq few, UInt64.toNat_one] at next
  omega

/-- Until the counter runs out, a number tells its transaction. -/
theorem eq_of_seq_eq (run : IsRun h d) (few : (transactions h).length < 2 ^ 64)
    {t t' : Transaction} (one : t ∈ transactions h) (other : t' ∈ transactions h)
    (same : t.seq = t'.seq) : t = t' :=
  List.inj_on_of_nodup_map (run.nodup_seqs few) one other same

end IsRun

theorem History.Installed.mem_transactions {h : History} {k : Ticket} {t : Transaction}
    (one : Installed h k t) : t ∈ transactions h := by
  obtain ⟨m, mem, _, _, _, _, _, e⟩ := one
  exact List.mem_filterMap.2 ⟨m, mem, e⟩

/-- Until the counter runs out, what passes as current is what is tracked. -/
theorem IsRun.sameSwitch_of_isCurrent {h : History} {d : Desk} (run : IsRun h d)
    (few : (transactions h).length < 2 ^ 64) {k : Ticket} {t : Transaction}
    (one : Installed h k t) (current : d.isCurrent t = true) :
    ∃ t', d.tx = some t' ∧ SameSwitch t' t := by
  obtain ⟨t', tracked, same⟩ := Desk.isCurrent_iff.1 current
  -- What is tracked was installed, and so was `t`: with the same number they are the same.
  obtain ⟨_, t₀, mem, same₀⟩ := run.tracked t' tracked
  have eq : t₀ = t := run.eq_of_seq_eq few mem one.mem_transactions (same₀.seq.symm.trans same)
  exact ⟨t', tracked, eq ▸ same₀⟩

end HeadUnit.Switching
