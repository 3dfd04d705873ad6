import Mathlib.Data.List.Nodup
import Mathlib.Logic.Function.Iterate
import HeadUnit.Registry

/-!
# Eviction

Which entry leaves the registry next does not depend on the bound, only how many leave
does. So an eviction is a number of single steps (`Registry.shed`), as many as there are
entries too many (`evict_eq_shed`): it never gets stuck as long as no user has two entries,
and evicting to one bound and then to a lower one is evicting to the lower one.

* `exists_victim`: of entries of different users, one can always leave;
* `evict_eq_shed`, `evict_not_broken`: an eviction, step by step;
* `Alike`: two registries with the same entries, which shed the same ones.
-/

namespace HeadUnit.Registry

/-! ## The victim -/

/-- Of several entries, one of them is the one to leave. -/
theorem foldl_lower_mem (c : Ranked × Nat) (cs : List (Ranked × Nat)) :
    cs.foldl lower c ∈ c :: cs := by
  induction cs generalizing c with
  | nil => exact List.mem_singleton.2 rfl
  | cons d cs ih =>
    have first : lower c d = c ∨ lower c d = d := by
      unfold lower
      split
      · exact .inr rfl
      · exact .inl rfl
    rcases List.mem_cons.1 (ih (lower c d)) with e | later
    · rw [List.foldl_cons, e]
      rcases first with e | e
      · rw [e]
        exact List.mem_cons_self
      · rw [e]
        exact List.mem_cons_of_mem c List.mem_cons_self
    · exact List.mem_cons_of_mem c (List.mem_cons_of_mem d later)

/-- The entry to leave is one of the entries. -/
theorem victim?_lt {promoted : UserId} {es : List Ranked} {i : Nat}
    (victim : victim? promoted es = some i) : i < es.length := by
  unfold victim? at victim
  dsimp only at victim
  split at victim
  · cases victim
  · next c cs candidates =>
    obtain rfl := Option.some.inj victim
    have mem := foldl_lower_mem c cs
    rw [← candidates] at mem
    exact List.snd_lt_of_mem_zipIdx (List.mem_filter.1 mem).1

/-- If no user has two entries, at most one entry is spared. -/
theorem exists_victim (promoted : UserId) {es : List Ranked} (distinct : (es.map (·.user)).Nodup)
    (filled : es ≠ []) : ∃ i, victim? promoted es = some i := by
  -- A candidate at index `i`: the promoted user is spared only beside others.
  obtain ⟨i, e, here, free⟩ : ∃ (i : Nat) (e : Ranked), es[i]? = some e ∧
      (e.user ≠ promoted ∨ es.length ≤ 1) := by
    match es, filled with
    | [e], _ => exact ⟨0, e, rfl, .inr (Nat.le_refl 1)⟩
    | e :: e' :: rest, _ =>
      by_cases spared : e.user = promoted
      · refine ⟨1, e', rfl, .inl ?_⟩
        rintro rfl
        simp [spared] at distinct
      · exact ⟨0, e, rfl, .inl spared⟩
  have candidate : (e, i) ∈ es.zipIdx.filter fun e => !(e.1.user == promoted && es.length > 1) := by
    refine List.mem_filter.2 ⟨?_, ?_⟩
    · exact List.mem_zipIdx_iff_getElem?.2 here
    · rcases free with other | alone
      · simp [other]
      · simp [Nat.not_lt.2 alone]
  unfold victim?
  dsimp only
  split
  · next none =>
    rw [none] at candidate
    exact absurd candidate List.not_mem_nil
  · exact ⟨_, rfl⟩

/-! ## One entry leaves -/

/-- The registry after one more entry has left. -/
def shed (r : Registry) : Registry :=
  match victim? r.promoted r.entries with
  | none => r
  | some i => r.drop i

theorem limit_congr {r r' : Registry} (bound : r'.maxRunning = r.maxRunning) :
    r'.limit = r.limit := by
  unfold limit
  rw [bound]

/-- What is left after an entry has left: the promoted user may be the one that left. -/
structure Shrinks (r r' : Registry) : Prop where
  entries : r'.entries.Sublist r.entries
  counter : r'.counter = r.counter
  maxRunning : r'.maxRunning = r.maxRunning
  promoted : r'.promoted = r.promoted ∨ r'.promoted = UserId.null
  /-- Whoever is promoted and had an entry still has it. -/
  listed : r'.promoted ≠ UserId.null → r'.promoted ∈ r.users → r'.promoted ∈ r'.users

namespace Shrinks

variable {r s t : Registry}

theorem refl (r : Registry) : Shrinks r r :=
  ⟨.refl _, rfl, rfl, .inl rfl, fun _ mem => mem⟩

theorem trans (one : Shrinks r s) (other : Shrinks s t) : Shrinks r t where
  entries := other.entries.trans one.entries
  counter := other.counter.trans one.counter
  maxRunning := other.maxRunning.trans one.maxRunning
  promoted := by
    rcases other.promoted with e | e
    · rw [e]
      exact one.promoted
    · exact .inr e
  listed stays mem := by
    rcases other.promoted with e | e
    · rw [e] at stays mem
      refine other.listed (e ▸ stays) ?_
      rw [e]
      exact one.listed stays mem
    · exact absurd e stays

theorem users (shrinks : Shrinks r s) : s.users.Sublist r.users := shrinks.entries.map _

theorem limit (shrinks : Shrinks r s) : s.limit = r.limit := limit_congr shrinks.maxRunning

end Shrinks

theorem shrinks_drop (r : Registry) (i : Nat) : Shrinks r (r.drop i) := by
  unfold drop
  split
  · exact .refl r
  · next e here =>
    refine ⟨List.eraseIdx_sublist .., rfl, rfl, ?_, ?_⟩
    · dsimp only
      split
      · exact .inr rfl
      · exact .inl rfl
    · dsimp only
      split
      · exact fun stays => absurd rfl stays
      · next other =>
        intro _ mem
        -- The entry that left is not the one of the promoted user.
        obtain ⟨x, listed, own⟩ := List.mem_map.1 mem
        refine List.mem_map.2 ⟨x, List.mem_eraseIdx_iff_getElem?.2 ?_, own⟩
        obtain ⟨j, there⟩ := List.mem_iff_getElem?.1 listed
        refine ⟨j, ?_, there⟩
        rintro rfl
        obtain rfl : e = x := Option.some.inj (here.symm.trans there)
        exact other own

theorem shrinks_shed (r : Registry) : Shrinks r r.shed := by
  unfold shed
  split
  · exact .refl r
  · exact shrinks_drop ..

theorem shrinks_iterate (n : Nat) (r : Registry) : Shrinks r (shed^[n] r) := by
  induction n generalizing r with
  | zero => exact .refl r
  | succ n ih => exact (shrinks_shed r).trans (ih r.shed)

/-- As long as no user has two entries, an entry leaves. -/
theorem length_shed {r : Registry} (distinct : r.users.Nodup) :
    r.shed.entries.length = r.entries.length - 1 := by
  unfold shed
  by_cases none : r.entries = []
  · simp [none, victim?]
  · obtain ⟨i, victim⟩ := exists_victim r.promoted distinct none
    have lt := victim?_lt victim
    simp [victim, drop, List.getElem?_eq_getElem lt, List.length_eraseIdx_of_lt lt]

theorem length_iterate {r : Registry} (distinct : r.users.Nodup) (n : Nat) :
    (shed^[n] r).entries.length = r.entries.length - n := by
  induction n generalizing r with
  | zero => rfl
  | succ n ih =>
    rw [Function.iterate_succ_apply, ih ((shrinks_shed r).users.nodup distinct),
      length_shed distinct, Nat.sub_sub, Nat.add_comm 1 n]

/-! ## The whole eviction -/

/-- An eviction lets as many entries leave as there are too many, if there are enough
    rounds. -/
theorem evictRounds_eq {r : Registry} (distinct : r.users.Nodup) {rounds : Nat}
    (enough : r.entries.length ≤ r.limit + rounds) (dropped : List UserId) :
    (evictRounds rounds r dropped).registry = shed^[r.entries.length - r.limit] r ∧
      (evictRounds rounds r dropped).broken = false := by
  induction rounds generalizing r dropped with
  | zero =>
    have fits : r.entries.length ≤ r.limit := enough
    rw [Nat.sub_eq_zero_of_le fits]
    exact ⟨rfl, rfl⟩
  | succ rounds ih =>
    unfold evictRounds
    split
    · next fits =>
      rw [Nat.sub_eq_zero_of_le fits]
      exact ⟨rfl, rfl⟩
    · next many =>
      have lt := Nat.lt_of_not_le many
      have filled : r.entries ≠ [] := by
        rintro none
        simp [none] at lt
      obtain ⟨i, victim⟩ := exists_victim r.promoted distinct filled
      have one : r.shed = r.drop i := by simp only [shed, victim]
      have shrinks := shrinks_shed r
      have shorter := length_shed distinct
      simp only [victim]
      rw [← one]
      have next : r.entries.length - r.limit = r.shed.entries.length - r.shed.limit + 1 := by
        rw [shorter, shrinks.limit]
        omega
      rw [next, Function.iterate_succ_apply]
      refine ih (shrinks.users.nodup distinct) ?_ _
      rw [shorter, shrinks.limit]
      omega

variable {r : Registry}

theorem evict_eq_shed (distinct : r.users.Nodup) :
    r.evict.registry = shed^[r.entries.length - r.limit] r :=
  (evictRounds_eq distinct (Nat.le_add_left ..) []).1

theorem evict_not_broken (distinct : r.users.Nodup) : r.evict.broken = false :=
  (evictRounds_eq distinct (Nat.le_add_left ..) []).2

theorem shrinks_evict (distinct : r.users.Nodup) : Shrinks r r.evict.registry := by
  rw [evict_eq_shed distinct]
  exact shrinks_iterate ..

/-- After an eviction the bound holds, and no more entries have left than had to. -/
theorem length_evict (distinct : r.users.Nodup) :
    r.evict.registry.entries.length = min r.entries.length r.limit := by
  rw [evict_eq_shed distinct, length_iterate distinct]
  omega

/-! ## Registries that shed the same entries -/

/-- The same entries, the same counter and the same promoted user. -/
structure Alike (r s : Registry) : Prop where
  entries : r.entries = s.entries
  counter : r.counter = s.counter
  promoted : r.promoted = s.promoted

namespace Alike

variable {r s t : Registry}

theorem refl (r : Registry) : Alike r r := ⟨rfl, rfl, rfl⟩

theorem symm (alike : Alike r s) : Alike s r :=
  ⟨alike.entries.symm, alike.counter.symm, alike.promoted.symm⟩

theorem trans (one : Alike r s) (other : Alike s t) : Alike r t :=
  ⟨one.entries.trans other.entries, one.counter.trans other.counter,
    one.promoted.trans other.promoted⟩

theorem users (alike : Alike r s) : r.users = s.users := congrArg (List.map _) alike.entries

theorem shed (alike : Alike r s) : Alike r.shed s.shed := by
  unfold Registry.shed
  rw [alike.entries, alike.promoted]
  split
  · exact alike
  · unfold drop
    rw [alike.entries, alike.promoted]
    split
    · exact alike
    · exact ⟨rfl, alike.counter, rfl⟩

theorem iterate (alike : Alike r s) (n : Nat) :
    Alike (Registry.shed^[n] r) (Registry.shed^[n] s) := by
  induction n generalizing r s with
  | zero => exact alike
  | succ n ih => exact ih alike.shed

end Alike

end HeadUnit.Registry
