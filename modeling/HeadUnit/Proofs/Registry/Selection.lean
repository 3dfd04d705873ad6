import HeadUnit.Proofs.Registry.Eviction

/-!
# Who stays

An eviction lets entries leave one by one, and looks for the next one every time anew. What it
comes to can be said at once (`Registry.Stays`): an entry of the promoted user stays unless
nobody may, and another one stays if those that outrank it leave room. An entry outranks another
one by a higher rank, or by the same rank and a later place.

The entries need not be of different users, nor have different ranks. So an eviction can break,
when there are several entries of the promoted user and more of them than there is room for.

Places are kept while entries leave: every lemma is about entries with increasing places, not
about indices, which would shift.

* `outranks_victim`: the entry that leaves next is outranked by all others that could;
* `stays_split`, `not_stays_victim`: it does not stay, and without it the same entries do;
* `selects_evictRounds`: what the rounds of an eviction come to;
* `evict_selects`: what an eviction does.
-/

namespace HeadUnit.Registry

/-! ## Ranks -/

/-- Of two entries with their places, the first one is to be kept rather than the second. -/
def Outranks (a b : Ranked × Nat) : Prop :=
  b.1.rank < a.1.rank ∨ b.1.rank = a.1.rank ∧ b.2 < a.2

instance (a b : Ranked × Nat) : Decidable (Outranks a b) := inferInstanceAs (Decidable (_ ∨ _))

theorem outranks_iff {a b : Ranked × Nat} : Outranks a b ↔
    b.1.rank.toNat < a.1.rank.toNat ∨ b.1.rank.toNat = a.1.rank.toNat ∧ b.2 < a.2 := by
  rw [Outranks, UInt64.lt_iff_toNat_lt, UInt64.toNat_inj]

theorem Outranks.trans {a b c : Ranked × Nat} (one : Outranks a b) (other : Outranks b c) :
    Outranks a c := by
  rw [outranks_iff] at *
  omega

theorem Outranks.asymm {a b : Ranked × Nat} (one : Outranks a b) : ¬Outranks b a := by
  rw [outranks_iff] at *
  omega

/-- Of entries in the order of their places, all outrank the one to leave. -/
theorem outranks_foldl_lower {c : Ranked × Nat} {cs : List (Ranked × Nat)}
    (sorted : (c :: cs).Pairwise (·.2 < ·.2)) :
    ∀ x ∈ c :: cs, x = cs.foldl lower c ∨ Outranks x (cs.foldl lower c) := by
  induction cs generalizing c with
  | nil => exact fun x mem => .inl (List.mem_singleton.1 mem)
  | cons d cs ih =>
    obtain ⟨places, rest⟩ := List.pairwise_cons.1 sorted
    have first : c.2 < d.2 := places d List.mem_cons_self
    -- The one of the first two that goes on is outranked by the other.
    obtain ⟨a, b, step, loses, both, order⟩ : ∃ a b, lower c d = b ∧ Outranks a b ∧
        (∀ x, x = c ∨ x = d → x = a ∨ x = b) ∧ (b :: cs).Pairwise (·.2 < ·.2) := by
      unfold lower
      split
      · next low => exact ⟨c, d, rfl, .inl low, fun x e => e, rest⟩
      · next high =>
        refine ⟨d, c, rfl, ?_, fun x e => e.symm, ?_⟩
        · rw [UInt64.lt_iff_toNat_lt] at high
          rw [outranks_iff]
          omega
        · exact List.pairwise_cons.2 ⟨fun x mem => places x (List.mem_cons_of_mem d mem),
            (List.pairwise_cons.1 rest).2⟩
    rw [List.foldl_cons, step]
    have least := ih order
    intro x mem
    by_cases early : x = c ∨ x = d
    · rcases both x early with rfl | rfl
      · rcases least b List.mem_cons_self with e | outranks
        · exact .inr (e ▸ loses)
        · exact .inr (loses.trans outranks)
      · exact least x List.mem_cons_self
    · have later : x ∈ cs := by
        simp only [List.mem_cons] at mem
        tauto
      exact least x (List.mem_cons_of_mem b later)

/-! ## The victim -/

theorem sorted_zipIdx (es : List Ranked) (start : Nat) :
    (es.zipIdx start).Pairwise (·.2 < ·.2) := by
  induction es generalizing start with
  | nil => exact .nil
  | cons e es ih =>
    rw [List.zipIdx_cons]
    refine List.pairwise_cons.2 ⟨?_, ih (start + 1)⟩
    intro x mem
    exact List.le_snd_of_mem_zipIdx mem

/-- Nobody can leave only if all of several entries are of the promoted user. -/
theorem spared_of_victim?_eq_none {promoted : UserId} {es : List Ranked} (filled : es ≠ [])
    (none : victim? promoted es = none) :
    1 < es.length ∧ ∀ e ∈ es, e.user = promoted := by
  unfold victim? at none
  dsimp only at none
  split at none
  · next candidates =>
    have all : ∀ e ∈ es, e.user = promoted ∧ 1 < es.length := by
      intro e mem
      obtain ⟨i, here⟩ := List.mem_iff_getElem?.1 mem
      have spared := List.filter_eq_nil_iff.1 candidates (e, i)
        (List.mem_zipIdx_iff_getElem?.2 here)
      simpa using spared
    obtain ⟨e, mem⟩ := List.exists_mem_of_ne_nil es filled
    exact ⟨(all e mem).2, fun e mem => (all e mem).1⟩
  · cases none

/-- Among several entries, the victim is of another user, and all others outrank it. -/
theorem outranks_victim {promoted : UserId} {es : List Ranked} (several : 1 < es.length) {i : Nat}
    (victim : victim? promoted es = some i) :
    ∃ e, es[i]? = some e ∧ e.user ≠ promoted ∧
      ∀ x ∈ es.zipIdx, x.1.user ≠ promoted → x = (e, i) ∨ Outranks x (e, i) := by
  unfold victim? at victim
  dsimp only at victim
  split at victim
  · cases victim
  · next c cs candidates =>
    obtain rfl := Option.some.inj victim
    have candidate (x : Ranked × Nat) :
        x ∈ c :: cs ↔ x ∈ es.zipIdx ∧ x.1.user ≠ promoted := by
      rw [← candidates, List.mem_filter]
      simp [several]
    have sorted : (c :: cs).Pairwise (·.2 < ·.2) := by
      rw [← candidates]
      exact (sorted_zipIdx es 0).filter _
    obtain ⟨mem, other⟩ := (candidate _).1 (foldl_lower_mem c cs)
    refine ⟨(cs.foldl lower c).1, List.mem_zipIdx_iff_getElem?.1 mem, other, ?_⟩
    intro x mem other
    exact outranks_foldl_lower sorted x ((candidate x).2 ⟨mem, other⟩)

/-! ## Who stays -/

section Stays

variable (promoted : UserId) (limit : Nat)

/-- How many entries are of the promoted user. -/
def spared (ts : List (Ranked × Nat)) : Nat := ts.countP (·.1.user = promoted)

/-- How many entries of other users outrank one. -/
def rivals (ts : List (Ranked × Nat)) (e : Ranked × Nat) : Nat :=
  ts.countP fun x => x.1.user ≠ promoted ∧ Outranks x e

/-- One of some entries stays when no more than `limit` may. -/
def Stays (ts : List (Ranked × Nat)) (e : Ranked × Nat) : Prop :=
  if e.1.user = promoted then 0 < limit else rivals promoted ts e < limit - spared promoted ts

instance (ts : List (Ranked × Nat)) : DecidablePred (Stays promoted limit ts) :=
  fun _ => inferInstanceAs (Decidable (ite ..))

/-- The entries that stay, in their order. -/
def staying (ts : List (Ranked × Nat)) : List Ranked :=
  (ts.filter (Stays promoted limit ts)).map (·.1)

/-- The users of the entries that leave. -/
def leaving (ts : List (Ranked × Nat)) : List UserId :=
  (ts.filter (¬Stays promoted limit ts ·)).map (·.1.user)

end Stays

section Victim

variable {promoted : UserId} {limit : Nat} {v : Ranked × Nat} {l l' : List (Ranked × Nat)}

theorem spared_le_length (promoted : UserId) (ts : List (Ranked × Nat)) :
    spared promoted ts ≤ ts.length :=
  List.countP_le_length

theorem spared_split (other : v.1.user ≠ promoted) :
    spared promoted (l ++ v :: l') = spared promoted (l ++ l') := by
  simp [spared, other]

/-- The entries are those of the promoted user and the others. -/
theorem length_eq_spared_add (promoted : UserId) (ts : List (Ranked × Nat)) :
    ts.length = spared promoted ts + ts.countP (·.1.user ≠ promoted) := by
  rw [spared, List.length_eq_countP_add_countP (p := fun x => decide (x.1.user = promoted))]
  simp

/-- An entry counts only for those that it outranks. -/
theorem rivals_split {x : Ranked × Nat} (below : ¬Outranks v x) :
    rivals promoted (l ++ v :: l') x = rivals promoted (l ++ l') x := by
  simp [rivals, below]

theorem not_outranks_self (e : Ranked × Nat) : ¬Outranks e e :=
  fun outranks => outranks.asymm outranks

/-- If there is room for all, all stay. -/
theorem stays_of_fits {ts : List (Ranked × Nat)} (fits : ts.length ≤ limit) {x : Ranked × Nat}
    (mem : x ∈ ts) : Stays promoted limit ts x := by
  unfold Stays
  split
  · exact Nat.lt_of_lt_of_le (List.length_pos_of_mem mem) fits
  · next other =>
    obtain ⟨l, l', rfl⟩ := List.append_of_mem mem
    have few : rivals promoted (l ++ l') x ≤ (l ++ l').countP (·.1.user ≠ promoted) := by
      refine List.countP_mono_left fun y _ rival => ?_
      simp only [decide_eq_true_eq] at rival ⊢
      exact rival.1
    have rest := length_eq_spared_add promoted (l ++ l')
    rw [rivals_split (not_outranks_self x), spared_split other]
    simp only [List.length_append, List.length_cons] at *
    omega

/-- If there is no room for all, an entry that all others outrank does not stay. -/
theorem not_stays_victim (other : v.1.user ≠ promoted)
    (least : ∀ x ∈ l ++ l', x.1.user ≠ promoted → Outranks x v)
    (many : limit < (l ++ v :: l').length) : ¬Stays promoted limit (l ++ v :: l') v := by
  have all : (l ++ l').countP (·.1.user ≠ promoted) ≤ rivals promoted (l ++ l') v := by
    refine List.countP_mono_left fun x mem another => ?_
    simp only [decide_eq_true_eq] at another ⊢
    exact ⟨another, least x mem another⟩
  have rest := length_eq_spared_add promoted (l ++ l')
  rw [Stays, if_neg other, rivals_split (not_outranks_self v), spared_split other]
  simp only [List.length_append, List.length_cons] at *
  omega

/-- Without an entry that all others outrank, the same entries stay. -/
theorem stays_split (other : v.1.user ≠ promoted)
    (least : ∀ x ∈ l ++ l', x.1.user ≠ promoted → Outranks x v) {x : Ranked × Nat}
    (mem : x ∈ l ++ l') :
    Stays promoted limit (l ++ v :: l') x ↔ Stays promoted limit (l ++ l') x := by
  unfold Stays
  split
  · exact Iff.rfl
  · next another =>
    rw [rivals_split (least x mem another).asymm, spared_split other]

theorem staying_split (other : v.1.user ≠ promoted)
    (least : ∀ x ∈ l ++ l', x.1.user ≠ promoted → Outranks x v)
    (many : limit < (l ++ v :: l').length) :
    staying promoted limit (l ++ v :: l') = staying promoted limit (l ++ l') := by
  have same : (l ++ l').filter (Stays promoted limit (l ++ v :: l')) =
      (l ++ l').filter (Stays promoted limit (l ++ l')) :=
    List.filter_congr fun x mem => decide_eq_decide.2 (stays_split other least mem)
  rw [staying, staying, ← same, List.filter_append, List.filter_append,
    List.filter_cons_of_neg (by simpa using not_stays_victim other least many)]

theorem mem_leaving_split (other : v.1.user ≠ promoted)
    (least : ∀ x ∈ l ++ l', x.1.user ≠ promoted → Outranks x v)
    (many : limit < (l ++ v :: l').length) (id : UserId) :
    id ∈ leaving promoted limit (l ++ v :: l') ↔
      id = v.1.user ∨ id ∈ leaving promoted limit (l ++ l') := by
  have same : (l ++ l').filter (¬Stays promoted limit (l ++ v :: l') ·) =
      (l ++ l').filter (¬Stays promoted limit (l ++ l') ·) :=
    List.filter_congr fun x mem => decide_eq_decide.2 (not_congr (stays_split other least mem))
  rw [leaving, leaving, ← same, List.filter_append, List.filter_append,
    List.filter_cons_of_pos (by simpa using not_stays_victim other least many)]
  simp only [List.map_append, List.map_cons, List.mem_append, List.mem_cons]
  tauto

/-- The victim of several entries among the entries with their places. -/
theorem exists_least {ts : List (Ranked × Nat)} (sorted : ts.Pairwise (·.2 < ·.2))
    (several : 1 < ts.length) {i : Nat} (victim : victim? promoted (ts.map (·.1)) = some i) :
    ∃ l v l', ts = l ++ v :: l' ∧ l.length = i ∧ v.1.user ≠ promoted ∧
      ∀ x ∈ l ++ l', x.1.user ≠ promoted → Outranks x v := by
  obtain ⟨e, here, other, least⟩ := outranks_victim (by simpa using several) victim
  rw [List.getElem?_map] at here
  obtain ⟨v, found, rfl⟩ := Option.map_eq_some_iff.1 here
  obtain ⟨lt, rfl⟩ := List.getElem?_eq_some_iff.1 found
  refine ⟨ts.take i, ts[i], ts.drop (i + 1), ?_, ?_, other, ?_⟩
  · rw [List.getElem_cons_drop, List.take_append_drop]
  · exact List.length_take_of_le (Nat.le_of_lt lt)
  · intro x mem another
    rw [← List.eraseIdx_eq_take_drop_succ] at mem
    obtain ⟨j, apart, there⟩ := List.mem_eraseIdx_iff_getElem?.1 mem
    obtain ⟨bound, rfl⟩ := List.getElem?_eq_some_iff.1 there
    have placed : (ts[j].1, j) ∈ (ts.map (·.1)).zipIdx :=
      List.mem_zipIdx_iff_getElem?.2 (by rw [List.getElem?_map, there]; rfl)
    rcases least _ placed another with same | higher | ⟨equal, later⟩
    · exact absurd (congrArg Prod.snd same) apart
    · exact .inl higher
    · exact .inr ⟨equal, List.pairwise_iff_getElem.1 sorted i j lt bound later⟩

end Victim

/-! ## The whole eviction -/

/-- What an eviction from a registry did, given the entries with their places. -/
structure Selects (r : Registry) (ts : List (Ranked × Nat)) (e : Evicted) : Prop where
  broken : e.broken = true ↔ 2 ≤ spared r.promoted ts ∧ r.limit < spared r.promoted ts
  registry : e.broken = false → e.registry = { r with
    entries := staying r.promoted r.limit ts
    restarted := r.restarted.filter (· ∉ leaving r.promoted r.limit ts)
    promoted := if r.limit = 0 ∧ 0 < spared r.promoted ts then UserId.null else r.promoted }
  length : e.broken = false → e.registry.entries.length = min ts.length r.limit

namespace Selects

variable {r : Registry} {ts : List (Ranked × Nat)}

/-- Nobody has to leave. -/
theorem fits (listed : ts.map (·.1) = r.entries) (fits : ts.length ≤ r.limit)
    (dropped : List UserId) : Selects r ts ⟨r, dropped, false⟩ := by
  have few := spared_le_length r.promoted ts
  have stays : ∀ x ∈ ts, Stays r.promoted r.limit ts x := fun x mem => stays_of_fits fits mem
  have all : staying r.promoted r.limit ts = r.entries := by
    rw [staying, List.filter_eq_self.2 fun x mem => decide_eq_true (stays x mem), listed]
  have nobody : leaving r.promoted r.limit ts = [] := by
    rw [leaving, List.filter_eq_nil_iff.2 fun x mem => by simpa using stays x mem, List.map_nil]
  refine ⟨?_, fun _ => ?_, fun _ => ?_⟩
  · simp
    omega
  · rw [all, nobody, if_neg (by omega)]
    simp
  · simp [← listed, fits]

/-- Nobody can leave. -/
theorem stuck (filled : ts ≠ []) (listed : ts.map (·.1) = r.entries) (many : r.limit < ts.length)
    (none : victim? r.promoted r.entries = none) (dropped : List UserId) :
    Selects r ts ⟨r, dropped, true⟩ := by
  rw [← listed] at none
  obtain ⟨several, all⟩ := spared_of_victim?_eq_none (by simpa using filled) none
  have spared : spared r.promoted ts = ts.length :=
    List.countP_eq_length.2 fun x mem => by simpa using all x.1 (List.mem_map_of_mem mem)
  rw [List.length_map] at several
  refine ⟨?_, fun intact => ?_, fun intact => ?_⟩
  · simp
    omega
  · cases intact
  · cases intact

/-- One of several entries has left. -/
theorem later {v : Ranked × Nat} {l l' : List (Ranked × Nat)}
    (listed : (l ++ v :: l').map (·.1) = r.entries) (other : v.1.user ≠ r.promoted)
    (least : ∀ x ∈ l ++ l', x.1.user ≠ r.promoted → Outranks x v)
    (many : r.limit < (l ++ v :: l').length) {e : Evicted}
    (selects : Selects (r.drop l.length) (l ++ l') e) : Selects r (l ++ v :: l') e := by
  have here : r.entries[l.length]? = some v.1 := by simp [← listed]
  have promoted : (r.drop l.length).promoted = r.promoted := by simp [drop, here, other]
  have restarted : (r.drop l.length).restarted = r.restarted.filter (· != v.1.user) := by
    simp [drop, here]
  have limit : (r.drop l.length).limit = r.limit := (shrinks_drop r l.length).limit
  obtain ⟨broken, registry, length⟩ := selects
  rw [promoted, limit] at broken registry
  rw [limit] at length
  refine ⟨?_, fun intact => ?_, fun intact => ?_⟩
  · rw [spared_split other]
    exact broken
  · rw [registry intact, staying_split other least many, spared_split other, restarted,
      List.filter_filter]
    have kept : (fun id => decide (id ∉ leaving r.promoted r.limit (l ++ l')) &&
        id != v.1.user) = fun id => decide (id ∉ leaving r.promoted r.limit (l ++ v :: l')) := by
      funext id
      have leaves := mem_leaving_split other least many id
      grind
    rw [kept]
    simp only [drop, here]
  · rw [length intact]
    simp only [List.length_append, List.length_cons] at *
    omega

/-- The only entry has left. -/
theorem last {v : Ranked × Nat} (listed : [v].map (·.1) = r.entries) (nobody : r.limit = 0)
    {e : Evicted} (selects : Selects (r.drop 0) [] e) : Selects r [v] e := by
  have leaves : ¬Stays r.promoted 0 [v] v := by simp [Stays]
  have few := spared_le_length r.promoted [v]
  rw [List.length_singleton] at few
  have intact : e.broken = false := by
    have fits := selects.broken
    simpa [spared] using fits
  have limit : (r.drop 0).limit = r.limit := (shrinks_drop r 0).limit
  refine ⟨?_, fun _ => ?_, fun _ => ?_⟩
  · rw [intact]
    simp
    omega
  · rw [selects.registry intact, nobody]
    simp only [drop, ← listed, staying, leaving]
    by_cases own : v.1.user = r.promoted
    · simp [spared, leaves, own, bne, beq_eq_decide]
    · simp [spared, leaves, own, bne, beq_eq_decide]
  · rw [selects.length intact, limit, nobody]
    rfl

end Selects

/-- An eviction with enough rounds. -/
theorem selects_evictRounds {r : Registry} {ts : List (Ranked × Nat)}
    (sorted : ts.Pairwise (·.2 < ·.2)) (listed : ts.map (·.1) = r.entries) {rounds : Nat}
    (enough : ts.length ≤ r.limit + rounds) (dropped : List UserId) :
    Selects r ts (evictRounds rounds r dropped) := by
  induction rounds generalizing r ts dropped with
  | zero => exact .fits listed enough dropped
  | succ rounds ih =>
    unfold evictRounds
    rw [← listed, List.length_map]
    split
    · next fits => exact .fits listed fits dropped
    · next many =>
      have many : r.limit < ts.length := Nat.lt_of_not_le many
      have filled : ts ≠ [] := List.ne_nil_of_length_pos (Nat.zero_lt_of_lt many)
      split
      · next none => exact .stuck filled listed many (listed ▸ none) dropped
      · next i victim =>
        -- The promoted user is spared beside others, and the last one leaves if nobody may stay.
        have limit : (r.drop i).limit = r.limit := (shrinks_drop r i).limit
        by_cases several : 1 < ts.length
        · obtain ⟨l, v, l', rfl, rfl, other, least⟩ := exists_least sorted several victim
          refine .later listed other least many (ih ?_ ?_ ?_ _)
          · exact sorted.sublist (.append_left (List.sublist_cons_self ..) l)
          · simp [drop, ← listed, List.eraseIdx_append_of_length_le]
          · simp only [limit, List.length_append, List.length_cons] at *
            omega
        · obtain ⟨v, rfl⟩ : ∃ v, ts = [v] := List.length_eq_one_iff.1 (by omega)
          obtain rfl : i = 0 := Nat.lt_one_iff.1 (victim?_lt victim)
          refine .last listed (by simpa using many) (ih .nil ?_ (Nat.zero_le _) _)
          simp [drop, ← listed]

/-! ## Main result -/

theorem users_zipIdx (r : Registry) : r.entries.zipIdx.map (·.1.user) = r.users := by
  rw [users, ← List.zipIdx_map_fst 0 r.entries, List.map_map, List.zipIdx_map_fst]
  rfl

theorem spared_eq_count (promoted : UserId) (ts : List (Ranked × Nat)) :
    spared promoted ts = (ts.map (·.1.user)).count promoted := by
  rw [spared, List.count, List.countP_map]
  congr

/-- If somebody may stay, all entries of the promoted user do. -/
theorem count_staying {promoted : UserId} {limit : Nat} (room : 0 < limit)
    (ts : List (Ranked × Nat)) :
    ((staying promoted limit ts).map (·.user)).count promoted = spared promoted ts := by
  rw [staying, List.count, List.countP_map, List.countP_map, List.countP_filter, spared]
  refine List.countP_congr fun x _ => ?_
  simp only [Function.comp, Bool.and_eq_true, beq_iff_eq, decide_eq_true_eq, and_iff_left_iff_imp]
  intro own
  rw [Stays, if_pos own]
  exact room

theorem staying_zero (promoted : UserId) (ts : List (Ranked × Nat)) :
    staying promoted 0 ts = [] := by
  simp [staying, Stays]

theorem leaving_zero (promoted : UserId) (ts : List (Ranked × Nat)) :
    leaving promoted 0 ts = ts.map (·.1.user) := by
  simp [leaving, Stays]

theorem evict_of_fits {r : Registry} (fits : r.entries.length ≤ r.limit) :
    r.evict.registry = r := by
  unfold evict evictRounds
  split
  · rfl
  · rw [if_pos fits]

/-- What an eviction does, whatever users and ranks the entries have. It breaks if there are
    several entries of the promoted user and more than there is room for. Otherwise it stops
    with no more entries than may stay: the ones of the promoted user and, of the others, those
    that others outrank leave room for. Whoever has an entry that left is no longer restarted. -/
theorem evict_selects (r : Registry) :
    (r.evict.broken = true ↔
      2 ≤ r.users.count r.promoted ∧ r.limit < r.users.count r.promoted) ∧
    (r.evict.broken = false →
      (r.entries.length ≤ r.limit → r.evict.registry = r) ∧
      (0 < r.limit → r.limit < r.entries.length →
        r.evict.registry = { r with
          entries := staying r.promoted r.limit r.entries.zipIdx
          restarted := r.restarted.filter (· ∉ leaving r.promoted r.limit r.entries.zipIdx) } ∧
        r.evict.registry.entries.length = r.limit ∧
        r.evict.registry.users.count r.promoted = r.users.count r.promoted) ∧
      (r.limit = 0 → r.evict.registry = { r with
        entries := []
        restarted := r.restarted.filter (· ∉ r.users)
        promoted := if r.promoted ∈ r.users then UserId.null else r.promoted })) := by
  have selects : Selects r r.entries.zipIdx r.evict :=
    selects_evictRounds (sorted_zipIdx r.entries 0) (List.zipIdx_map_fst 0 r.entries) (by simp) []
  have count : spared r.promoted r.entries.zipIdx = r.users.count r.promoted := by
    rw [spared_eq_count, users_zipIdx]
  obtain ⟨broken, registry, length⟩ := selects
  rw [count] at broken registry
  rw [List.length_zipIdx] at length
  refine ⟨broken, fun intact => ⟨evict_of_fits, fun room many => ⟨?_, ?_, ?_⟩, fun nobody => ?_⟩⟩
  · rw [registry intact, if_neg (by omega)]
  · rw [length intact]
    omega
  · rw [users, registry intact, count_staying room, count]
  · rw [registry intact, nobody, staying_zero, leaving_zero, users_zipIdx]
    simp only [List.count_pos_iff, true_and]

/-- Four of five entries may stay, of users that have two of them. Of those of rank 1 the earlier
    one leaves. -/
theorem evict_selects_of_sample :
    ({ entries := [⟨10, 3⟩, ⟨11, 1⟩, ⟨10, 5⟩, ⟨12, 1⟩, ⟨11, 2⟩], counter := 5, promoted := 10,
       maxRunning := 5, restarted := [12, 11, 13] } : Registry).evict.registry =
      { entries := [⟨10, 3⟩, ⟨10, 5⟩, ⟨12, 1⟩, ⟨11, 2⟩], counter := 5, promoted := 10,
        maxRunning := 5, restarted := [12, 13] } :=
  (((evict_selects _).2 rfl).2.1 (by decide) (by decide)).1.trans (by decide)

end HeadUnit.Registry
