import HeadUnit.Proofs.State.Document
import HeadUnit.State.Repository

/-!
# The state that is saved is the state that is loaded

A state that was saved and can be loaded is the same but for the time stamp, in memory as in
a file (`loaded_of_saved`). For a file, the document that is written is plain (`plain_toJson`),
so it is read back as it is; then its members are read one after the other
(`ofJson?_toJson`), each number as it was (`int64?_numeral`, `uint64?_numeral`).
-/

namespace HeadUnit

open Json (IsPlain IsWhole IsNumeral Plain)

/-! ## Numbers -/

/-- A zero in front of the digits of a number is alone. -/
theorem lead_toDigits (n : Nat) (zero : (Nat.toDigits 10 n).head? = some '0') : n = 0 := by
  induction n using Nat.strongRecOn with
  | ind n ih =>
    by_cases small : n < 10
    · rw [Nat.toDigits_of_lt_base small] at zero
      exact Nat.digitChar_eq_zero.1 (Option.some.inj zero)
    · have big : 10 ≤ n := Nat.le_of_not_lt small
      rw [Nat.toDigits_of_base_le (by decide) big,
        List.head?_append_of_ne_nil _ Nat.toDigits_ne_nil] at zero
      have := ih (n / 10) (by omega) zero
      omega

theorem isWhole_toDigits (n : Nat) : IsWhole (Nat.toDigits 10 n) where
  some := Nat.toDigits_ne_nil
  digits _ mem := Nat.isDigit_of_mem_toDigits (by decide) (by decide) mem
  lead zero := by
    rw [lead_toDigits n zero]
    rfl

/-- An integer is written with its digits, and a sign if it is negative. -/
theorem toList_toString (n : Int) : (toString n).toList =
    if 0 ≤ n then Nat.toDigits 10 n.toNat else '-' :: Nat.toDigits 10 (-n).toNat := by
  have repr : toString n = n.repr := rfl
  rw [repr, Int.repr_eq_if]
  split
  · exact Nat.toList_repr
  · rw [String.toList_append, Nat.toList_repr]
    rfl

theorem isNumeral_toString (n : Int) : IsNumeral (toString n).toList := by
  rw [toList_toString]
  split
  · exact .positive (isWhole_toDigits _)
  · exact .negative (isWhole_toDigits _)

namespace Snapshot

theorem natOf?_toDigits (n : Nat) : natOf? (Nat.toDigits 10 n) = some n := by
  have whole := isWhole_toDigits n
  have value : (Nat.toDigits 10 n).foldl (fun k c => k * 10 + (c.toNat - 48)) 0 = n := by
    simp only [Nat.mul_comm _ 10]
    exact Nat.ofDigitChars_ten_toDigits
  have digits : (Nat.toDigits 10 n).all Char.isDigit = true := List.all_eq_true.2 whole.digits
  unfold natOf?
  rw [if_neg (by simp [digits, whole.some]), value]

theorem int64?_numeral (n : Int64) : int64? (toString n.toInt).toList = some n := by
  have low := n.le_toInt
  have high := n.toInt_lt
  rw [toList_toString]
  split
  · next positive =>
    have small : n.toInt.toNat < Nat.pow 2 63 := by
      show n.toInt.toNat < 2 ^ 63
      omega
    have same : Int64.ofInt n.toInt.toNat = n := by
      rw [Int.toNat_of_nonneg positive, Int64.ofInt_toInt]
    have digit := (isWhole_toDigits n.toInt.toNat).digits
    unfold int64?
    split
    · next ds e =>
      rw [e] at digit
      exact absurd (digit '-' List.mem_cons_self) (by decide)
    · simp only [natOf?_toDigits, Option.bind_eq_bind, Option.bind_some, small, same, if_true]
  · next negative =>
    have small : (-n.toInt).toNat ≤ Nat.pow 2 63 := by
      show (-n.toInt).toNat ≤ 2 ^ 63
      omega
    have same : Int64.ofInt (-((-n.toInt).toNat : Int)) = n := by
      rw [Int.toNat_of_nonneg (by omega), Int.neg_neg, Int64.ofInt_toInt]
    simp only [int64?, natOf?_toDigits, Option.bind_eq_bind, Option.bind_some, small, same, if_true]

theorem uint64?_numeral (n : UInt64) : uint64? (toString (n.toNat : Int)).toList = some n := by
  have small : n.toNat < Nat.pow 2 64 := n.toNat_lt
  rw [toList_toString, if_pos (Int.natCast_nonneg _)]
  simp [uint64?, natOf?_toDigits, small]

/-! ## Documents -/

theorem intOver?_numberOf (old n : Int64) : intOver? old (numberOf n.toInt) = some n :=
  int64?_numeral n

theorem uintOver?_numberOf (old n : UInt64) : uintOver? old (numberOf n.toNat) = some n :=
  uint64?_numeral n

/-- The members of a ranked user are read back. -/
theorem rankedOver?_toJson (old r : Ranked) : rankedOver? old (Ranked.toJson r) = some r := by
  have user (r : Ranked) (v : Json) : rankedMember? r ("user_id".toList, v) =
      (intOver? r.user v).map fun n => { r with user := n } := rfl
  have rank (r : Ranked) (v : Json) : rankedMember? r ("rank".toList, v) =
      (uintOver? r.rank v).map fun n => { r with rank := n } := rfl
  simp only [Ranked.toJson, rankedOver?, List.foldlM_cons, List.foldlM_nil, user, rank,
    intOver?_numberOf, uintOver?_numberOf, Option.map_some, Option.bind_eq_bind, Option.bind_some]
  rfl

theorem rankedListOver?_toJson (old rs : List Ranked) :
    rankedListOver? old (rs.map Ranked.toJson) = some rs := by
  induction rs generalizing old with
  | nil => rfl
  | cons r rs ih => simp [rankedListOver?, rankedOver?_toJson, ih]

/-- All members of the state are read back, if its time stamp is. -/
theorem ofJson?_toJson (s : Snapshot) :
    ofJson? s.toJson =
      (Stamp.parse? s.savedAt.text.toList).map fun t => { s with savedAt := t } := by
  have background (old : Snapshot) : member? old ("background_users".toList,
      if s.background.isEmpty then .null else .list (s.background.map Ranked.toJson)) =
      some { old with background := s.background } := by
    have listed (vs : List Json) : member? old ("background_users".toList, .list vs) =
        (rankedListOver? old.background vs).map fun rs => { old with background := rs } := rfl
    cases s.background with
    | nil => rfl
    | cons r rs => rw [List.isEmpty_cons, if_neg Bool.false_ne_true, listed,
        rankedListOver?_toJson, Option.map_some]
  have promoted (old : Snapshot) (v : Json) : member? old ("promoted".toList, v) =
      (intOver? old.promoted v).map fun n => { old with promoted := n } := rfl
  have counter (old : Snapshot) (v : Json) : member? old ("rank_counter".toList, v) =
      (uintOver? old.counter v).map fun n => { old with counter := n } := rfl
  have initial (old : Snapshot) (v : Json) : member? old ("initial_user".toList, v) =
      (intOver? old.initial v).map fun n => { old with initial := n } := rfl
  have savedAt (old : Snapshot) (text : List Char) : member? old ("saved_at".toList, .string text) =
      (Stamp.parse? text).map fun t => { old with savedAt := t } := rfl
  simp only [toJson, ofJson?, List.foldlM_cons, List.foldlM_nil, background, promoted, counter,
    initial, savedAt, intOver?_numberOf, uintOver?_numberOf, Option.map_some, Option.bind_eq_bind,
    Option.bind_some]
  cases Stamp.parse? s.savedAt.text.toList <;> rfl

/-! ### Plain characters -/

theorem isPlain_of_isDigit {c : Char} (digit : c.isDigit = true) : IsPlain c := by
  have range : 48 ≤ c.toNat ∧ c.toNat ≤ 57 := by
    simp only [Char.isDigit, Bool.and_eq_true, decide_eq_true_eq] at digit
    exact digit
  refine ⟨by omega, ?_, ?_⟩
  all_goals
    rintro rfl
    exact absurd digit (by decide)

/-- Texts are checked by `List.all`: to decide a statement about every character runs through
all characters there are. -/
theorem plain_of_all {cs : List Char} (all : (cs.all fun c => decide (IsPlain c)) = true) :
    ∀ c ∈ cs, IsPlain c :=
  fun c mem => of_decide_eq_true (List.all_eq_true.1 all c mem)

theorem plain_append {a b : String} (first : ∀ c ∈ a.toList, IsPlain c)
    (last : ∀ c ∈ b.toList, IsPlain c) : ∀ c ∈ (a ++ b).toList, IsPlain c := by
  intro c mem
  rw [String.toList_append] at mem
  exact (List.mem_append.1 mem).elim (first c) (last c)

theorem plain_padded (width n : Nat) : ∀ c ∈ (Stamp.padded width n).toList, IsPlain c := by
  refine plain_append (fun c mem => ?_) fun c mem => ?_
  · rw [String.toList_ofList] at mem
    rw [List.eq_of_mem_replicate mem]
    decide
  · rw [Nat.toString_eq_repr, Nat.toList_repr] at mem
    exact isPlain_of_isDigit ((isWhole_toDigits n).digits c mem)

theorem plain_fraction (nanos : Nat) : ∀ c ∈ (Stamp.fraction nanos).toList, IsPlain c := by
  unfold Stamp.fraction
  dsimp only
  split
  · exact plain_of_all (by decide)
  · refine plain_append (plain_of_all (by decide)) fun c mem => ?_
    rw [String.toList_ofList, List.mem_reverse] at mem
    exact plain_padded 9 nanos c (List.mem_reverse.1 (List.dropWhile_subset _ mem))

theorem plain_zone (offset : Int) : ∀ c ∈ (Stamp.zone offset).toList, IsPlain c := by
  unfold Stamp.zone
  split
  · exact plain_of_all (by decide)
  · refine plain_append (plain_append (plain_append ?_ (plain_padded 2 _))
      (plain_of_all (by decide))) (plain_padded 2 _)
    split
    · exact plain_of_all (by decide)
    · exact plain_of_all (by decide)

theorem plain_text (t : Stamp) : ∀ c ∈ t.text.toList, IsPlain c := by
  have sign : ∀ c ∈ (if t.year < 0 then "-" else "").toList, IsPlain c := by
    split
    · exact plain_of_all (by decide)
    · exact plain_of_all (by decide)
  have dash : ∀ c ∈ "-".toList, IsPlain c := plain_of_all (by decide)
  have colon : ∀ c ∈ ":".toList, IsPlain c := plain_of_all (by decide)
  have mark : ∀ c ∈ "T".toList, IsPlain c := plain_of_all (by decide)
  have date := plain_append (plain_append (plain_append (plain_append (plain_append sign
    (plain_padded 4 t.year.natAbs)) dash) (plain_padded 2 t.month)) dash) (plain_padded 2 t.day)
  have time := plain_append (plain_append (plain_append (plain_append (plain_append (plain_append
    date mark) (plain_padded 2 t.hour)) colon) (plain_padded 2 t.minute)) colon)
      (plain_padded 2 t.second)
  exact plain_append (plain_append time (plain_fraction t.nanos)) (plain_zone t.offset)

/-- The document of a state is plain. -/
theorem plain_toJson (s : Snapshot) : Plain s.toJson := by
  have number (n : Int) : Plain (numberOf n) := .number (isNumeral_toString n)
  have ranked (r : Ranked) : Plain (Ranked.toJson r) := by
    refine .record ?_ ?_
    · simp only [List.forall_mem_cons]
      exact ⟨plain_of_all (by decide), plain_of_all (by decide), nofun⟩
    · simp only [List.forall_mem_cons]
      exact ⟨number _, number _, nofun⟩
  have background : Plain (if s.background.isEmpty then .null
      else .list (s.background.map Ranked.toJson)) := by
    split
    · exact .null
    · refine .list fun v mem => ?_
      obtain ⟨r, _, rfl⟩ := List.mem_map.1 mem
      exact ranked r
  refine .record ?_ ?_
  · simp only [List.forall_mem_cons]
    exact ⟨plain_of_all (by decide), plain_of_all (by decide), plain_of_all (by decide),
      plain_of_all (by decide), plain_of_all (by decide), nofun⟩
  · simp only [List.forall_mem_cons]
    exact ⟨background, number _, number _, number _, .string (plain_text s.savedAt), nofun⟩

/-- A state that is written and can be read is the same but for its time stamp. -/
theorem parse?_render (s : Snapshot) :
    parse? s.render =
      (Stamp.parse? s.savedAt.text.toList).map fun t => { s with savedAt := t } := by
  rw [parse?, render, String.toList_ofList, Json.parse?_pretty (plain_toJson s), Option.bind_some,
    ofJson?_toJson]

end Snapshot

/-! ## Saving and loading -/

theorem Disk.loaded_of_saved {d d' : Disk} {s s' : Snapshot} {now : Int}
    (saved : d.save s now = .ok d') (loaded : d'.load = .ok s') :
    ∃ t, s' = { s with savedAt := t } := by
  have written : d' = .holding { s with savedAt := Stamp.ofUnixNanos now }.render := by
    cases d <;> cases saved <;> rfl
  rw [written, Disk.load, Snapshot.parse?_render] at loaded
  cases read : Stamp.parse? (Stamp.ofUnixNanos now).text.toList with
  | none => simp [read] at loaded
  | some t =>
    simp only [read, Option.map_some, Except.ok.injEq] at loaded
    exact ⟨t, loaded.symm⟩

theorem Medium.loaded_of_saved {m m' : Medium} {gone : Option Fault} {s s' : Snapshot} {now : Int}
    (saved : m.save gone s now = .ok m') (loaded : m'.load = .ok s') :
    ∃ t, s' = { s with savedAt := t } := by
  cases m with
  | memory old n =>
    cases saved
    cases loaded
    exact ⟨s.savedAt, rfl⟩
  | file d =>
    cases gone with
    | some f => cases saved
    | none =>
      cases stored : d.save s now with
      | error f => simp [Medium.save, stored, Except.map] at saved
      | ok d' =>
        simp only [Medium.save, stored, Except.map, Except.ok.injEq] at saved
        subst saved
        exact Disk.loaded_of_saved stored loaded

/-- What was saved and can be loaded is the same but for the time stamp. -/
theorem Repository.loaded_of_saved {r r' : Repository} {gone : Option Fault} {s s' : Snapshot}
    {now : Int} (saved : r.save gone s now = .ok r') (loaded : r'.load = .ok s') :
    ∃ t, s' = { s with savedAt := t } := by
  unfold Repository.save at saved
  split at saved
  · cases saved
  · cases stored : r.medium.save gone s now with
    | error f => simp [stored, Except.map] at saved
    | ok m =>
      simp only [stored, Except.map, Except.ok.injEq] at saved
      subst saved
      unfold Repository.load at loaded
      split at loaded
      · cases loaded
      · exact Medium.loaded_of_saved stored loaded

end HeadUnit
