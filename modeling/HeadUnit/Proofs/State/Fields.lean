import HeadUnit.Proofs.State.RoundTrip
import HeadUnit.Proofs.Time.Stamp

/-!
# What is read off a state file

* A state that is saved to a file is loaded again, stamped with the time of the save
  (`Disk.load_of_save`), as long as the year of the clock has four digits: beyond that a time
  stamp has no text.
* A document need not have all members. Each member changes its own field only
  (`agrees_of_other`), and whether it can be read does not depend on what was read before
  (`isSome_member?`). So a document whose members can be read one by one is read as a whole; a
  field without a member keeps its value in `Snapshot.empty`, and a field with one member has
  the value that this member alone gives it (`exists_read`).
-/

namespace HeadUnit

namespace Snapshot

/-! ## Fields -/

/-- The fields of the state. -/
inductive Field
  | background
  | promoted
  | counter
  | initial
  | savedAt
  deriving DecidableEq, Repr

namespace Field

/-- The key under which a field is written. -/
def key : Field → String
  | background => "background_users"
  | promoted => "promoted"
  | counter => "rank_counter"
  | initial => "initial_user"
  | savedAt => "saved_at"

/-- The field that a key, as written, is the name of. -/
def of? (raw : List Char) : Option Field :=
  [background, promoted, counter, initial, savedAt].find? fun f => isKey f.key raw

/-- None of the members is named for the field. -/
def Lacks (f : Field) (ms : List (List Char × Json)) : Prop := ∀ m ∈ ms, isKey f.key m.1 = false

/-- What stands in a field. -/
def Value : Field → Type
  | background => List Ranked
  | promoted | initial => UserId
  | counter => UInt64
  | savedAt => Stamp

def get : (f : Field) → Snapshot → f.Value
  | background, s => s.background
  | promoted, s => s.promoted
  | counter, s => s.counter
  | initial, s => s.initial
  | savedAt, s => s.savedAt

def set (s : Snapshot) : (f : Field) → f.Value → Snapshot
  | background, rs => { s with background := rs }
  | promoted, n => { s with promoted := n }
  | counter, n => { s with counter := n }
  | initial, n => { s with initial := n }
  | savedAt, t => { s with savedAt := t }

/-- The value of a field over its old one. -/
def over? : (f : Field) → f.Value → Json → Option f.Value
  | background, _, .null => some []
  | background, old, .list vs => rankedListOver? old vs
  | background, _, _ => none
  | promoted, old, v | initial, old, v => intOver? old v
  | counter, old, v => uintOver? old v
  | savedAt, old, v => stampOver? old v

theorem get_set_self (f : Field) (s : Snapshot) (x : f.Value) : f.get (f.set s x) = x := by
  cases f <;> rfl

theorem get_set_of_ne {f g : Field} (other : g ≠ f) (s : Snapshot) (x : f.Value) :
    g.get (f.set s x) = g.get s := by
  cases f <;> cases g <;> first | rfl | exact absurd rfl other

end Field

/-- A member is read over the field it is named for; any other member is ignored. -/
theorem member?_eq (s : Snapshot) (m : List Char × Json) :
    member? s m = match Field.of? m.1 with
      | some f => (f.over? (f.get s) m.2).map (f.set s)
      | none => some s := by
  simp only [member?, Field.of?, List.find?_cons, List.find?_nil, Field.key]
  -- The keys are tried in the same order on both sides.
  cases isKey "background_users" m.1
  case true => cases m.2 <;> rfl
  cases isKey "promoted" m.1
  case true => rfl
  cases isKey "rank_counter" m.1
  case true => rfl
  cases isKey "initial_user" m.1
  case true => rfl
  cases isKey "saved_at" m.1 <;> rfl

/-! ## Whether a member can be read -/

theorem isSome_intOver? (a b : Int64) (v : Json) :
    (intOver? a v).isSome = (intOver? b v).isSome := by
  cases v <;> rfl

theorem isSome_uintOver? (a b : UInt64) (v : Json) :
    (uintOver? a v).isSome = (uintOver? b v).isSome := by
  cases v <;> rfl

theorem isSome_stampOver? (a b : Stamp) (v : Json) :
    (stampOver? a v).isSome = (stampOver? b v).isSome := by
  cases v <;> rfl

/-- If what is there before a step does not decide whether it succeeds, the steps succeed
    together if each does by itself. -/
theorem isSome_foldlM {α β : Type} {f : α → β → Option α}
    (alike : ∀ a b x, (f a x).isSome = (f b x).isSome) (a b : α) (xs : List β) :
    (xs.foldlM f a).isSome = xs.all fun x => (f b x).isSome := by
  induction xs generalizing a with
  | nil => rfl
  | cons x xs ih =>
    rw [List.foldlM_cons, List.all_cons, ← alike a b x]
    cases f a x with
    | none => rfl
    | some a' => exact ih a'

theorem isSome_rankedMember? (a b : Ranked) (m : List Char × Json) :
    (rankedMember? a m).isSome = (rankedMember? b m).isSome := by
  unfold rankedMember?
  split
  · rw [Option.isSome_map, Option.isSome_map]
    exact isSome_intOver? ..
  · split
    · rw [Option.isSome_map, Option.isSome_map]
      exact isSome_uintOver? ..
    · rfl

theorem isSome_rankedOver? (a b : Ranked) (v : Json) :
    (rankedOver? a v).isSome = (rankedOver? b v).isSome := by
  cases v with
  | record ms => simp only [rankedOver?, isSome_foldlM isSome_rankedMember? _ a]
  | _ => rfl

theorem isSome_rankedListOver? (a b : List Ranked) (vs : List Json) :
    (rankedListOver? a vs).isSome = (rankedListOver? b vs).isSome := by
  induction vs generalizing a b with
  | nil => rfl
  | cons v vs ih =>
    have first := isSome_rankedOver? (a.head?.getD ⟨0, 0⟩) (b.head?.getD ⟨0, 0⟩) v
    have rest := ih (a.drop 1) (b.drop 1)
    simp only [rankedListOver?, Option.bind_eq_bind, Option.pure_def]
    cases ha : rankedOver? (a.head?.getD ⟨0, 0⟩) v <;>
      cases hb : rankedOver? (b.head?.getD ⟨0, 0⟩) v <;> simp_all [Option.isSome_bind]

theorem Field.isSome_over? (f : Field) (a b : f.Value) (v : Json) :
    (f.over? a v).isSome = (f.over? b v).isSome := by
  cases f with
  | background =>
    cases v with
    | list vs => exact isSome_rankedListOver? ..
    | _ => rfl
  | promoted | initial => exact isSome_intOver? ..
  | counter => exact isSome_uintOver? ..
  | savedAt => exact isSome_stampOver? ..

/-- Whether a member can be read does not depend on the state that it is read over. -/
theorem isSome_member? (s t : Snapshot) (m : List Char × Json) :
    (member? s m).isSome = (member? t m).isSome := by
  rw [member?_eq, member?_eq]
  cases Field.of? m.1 with
  | none => rfl
  | some f => simp only [Option.isSome_map, f.isSome_over? (f.get s) (f.get t)]

/-! ## What a member changes -/

section Change

variable {s s' t t' : Snapshot} {m : List Char × Json} {f : Field}

/-- A member that is not named for a field does not change it. -/
theorem get_of_other (other : isKey f.key m.1 = false) (read : member? s m = some s') :
    f.get s' = f.get s := by
  rw [member?_eq] at read
  split at read
  · next g named =>
    obtain ⟨x, _, rfl⟩ := Option.map_eq_some_iff.1 read
    refine Field.get_set_of_ne ?_ s x
    rintro rfl
    exact absurd (List.find?_some named) (by simp [other])
  · exact congrArg _ (Option.some.inj read).symm

/-- What a member makes of a field depends on this field alone. -/
theorem get_of_same (same : f.get s = f.get t) (read : member? s m = some s')
    (read' : member? t m = some t') : f.get s' = f.get t' := by
  rw [member?_eq] at read read'
  cases named : Field.of? m.1 with
  | none =>
    simp only [named, Option.some.injEq] at read read'
    rw [← read, ← read', same]
  | some g =>
    simp only [named] at read read'
    obtain ⟨x, hx, rfl⟩ := Option.map_eq_some_iff.1 read
    obtain ⟨y, hy, rfl⟩ := Option.map_eq_some_iff.1 read'
    by_cases own : f = g
    · subst own
      rw [same] at hx
      rw [Field.get_set_self, Field.get_set_self]
      exact Option.some.inj (hx.symm.trans hy)
    · rw [Field.get_set_of_ne own, Field.get_set_of_ne own, same]

theorem get_of_lacks {ms : List (List Char × Json)} (lacks : f.Lacks ms)
    (read : ms.foldlM member? s = some s') : f.get s' = f.get s := by
  induction ms generalizing s with
  | nil => exact congrArg _ (Option.some.inj read).symm
  | cons m ms ih =>
    rw [List.foldlM_cons] at read
    obtain ⟨u, first, rest⟩ := Option.bind_eq_some_iff.1 read
    rw [ih (fun n mem => lacks n (List.mem_cons_of_mem m mem)) rest,
      get_of_other (lacks m List.mem_cons_self) first]

end Change

/-! ## Whole documents -/

theorem ofJson?_singleton (m : List Char × Json) : ofJson? (.record [m]) = member? empty m := by
  rw [ofJson?, List.foldlM_cons]
  cases member? empty m <;> rfl

/-- A document whose members can be read one by one is read as a whole. A field without a member
    has its value in the empty state, and a field with one member the value that this member
    alone gives it. -/
theorem exists_read {ms : List (List Char × Json)}
    (decodes : ∀ m ∈ ms, (ofJson? (.record [m])).isSome = true) :
    ∃ s, ofJson? (.record ms) = some s ∧ (∀ f : Field, f.Lacks ms → f.get s = f.get empty) ∧
      ∀ (f : Field) {before after : List (List Char × Json)} {m : List Char × Json} {u : Snapshot},
        ms = before ++ m :: after → f.Lacks before → f.Lacks after →
        ofJson? (.record [m]) = some u → f.get s = f.get u := by
  have all : (ms.all fun m => (member? empty m).isSome) = true :=
    List.all_eq_true.2 fun m mem => ofJson?_singleton m ▸ decodes m mem
  rw [← isSome_foldlM isSome_member? empty empty] at all
  obtain ⟨s, read⟩ := Option.isSome_iff_exists.1 all
  refine ⟨s, read, fun f lacks => get_of_lacks lacks read, ?_⟩
  rintro f before after m u rfl first last alone
  rw [ofJson?_singleton] at alone
  rw [List.foldlM_append] at read
  obtain ⟨t, early, late⟩ := Option.bind_eq_some_iff.1 read
  rw [List.foldlM_cons] at late
  obtain ⟨t', own, rest⟩ := Option.bind_eq_some_iff.1 late
  rw [get_of_lacks last rest]
  exact get_of_same (get_of_lacks first early) own alone

end Snapshot

/-! ## State files -/

namespace Disk

/-- Nothing stands in the way of the file or of its folder. -/
def HasRoom : Disk → Prop
  | vacant | holding _ => True
  | noFolder | folderAtFile => False

/-- What is saved is loaded. -/
theorem load_of_save {d : Disk} (room : d.HasRoom) (s : Snapshot) {now : Int}
    (year : 0 ≤ (Stamp.ofUnixNanos now).year ∧ (Stamp.ofUnixNanos now).year ≤ 9999) :
    ∃ d', d.save s now = .ok d' ∧
      d'.load = .ok { s with savedAt := Stamp.ofUnixNanos now } := by
  refine ⟨.holding { s with savedAt := Stamp.ofUnixNanos now }.render, ?_, ?_⟩
  · cases d with
    | vacant | holding => rfl
    | noFolder | folderAtFile => exact room.elim
  · have stamp := Stamp.parse?_text (Stamp.isWritable_ofUnixNanos year)
    rw [load, Snapshot.parse?_render, stamp]
    rfl

end Disk

/-- A state that is saved to a file, whoever saves it being there, is the state that is loaded
    from it. A file with a document some of whose members are missing, while the others can be
    read, is loaded with the values of the empty state for those. -/
theorem Medium.load_of_save_or_of_members :
    (∀ {d : Disk}, d.HasRoom → ∀ (s : Snapshot) {now : Int},
      0 ≤ (Stamp.ofUnixNanos now).year ∧ (Stamp.ofUnixNanos now).year ≤ 9999 →
      ∃ saved, (Medium.file d).save none s now = .ok saved ∧
        saved.load = .ok { s with savedAt := Stamp.ofUnixNanos now }) ∧
    ∀ {text : String} {ms : List (List Char × Json)},
      Json.parse? text.toList = some (.record ms) →
      (∀ m ∈ ms, (Snapshot.ofJson? (.record [m])).isSome = true) →
      ∃ t, (Medium.file (.holding text)).load = .ok t ∧
        (∀ f : Snapshot.Field, f.Lacks ms → f.get t = f.get Snapshot.empty) ∧
        ∀ (f : Snapshot.Field) {before after : List (List Char × Json)} {m : List Char × Json}
          {u : Snapshot}, ms = before ++ m :: after → f.Lacks before → f.Lacks after →
          Snapshot.ofJson? (.record [m]) = some u → f.get t = f.get u := by
  constructor
  · intro d room s now year
    obtain ⟨d', saved, loaded⟩ := Disk.load_of_save room s year
    refine ⟨.file d', ?_, loaded⟩
    rw [Medium.save, saved]
    rfl
  · intro text ms document decodes
    obtain ⟨t, read, defaults, alone⟩ := Snapshot.exists_read decodes
    refine ⟨t, ?_, defaults, alone⟩
    rw [Medium.load, Disk.load, Snapshot.parse?, document, Option.bind_some, read]

namespace Snapshot.Sample

/-- A state at the ends of the ranges of its numbers. -/
def state : Snapshot :=
  ⟨[⟨-10000, 18446744073709551615⟩, ⟨-9223372036854775808, 0⟩], -10000, 18446744073709551615,
    9223372036854775807, Stamp.unset⟩

/-- One member, whose key begins with a capital letter. -/
def member : List Char × Json := ("Promoted".toList, numberOf (-7 : Int64).toInt)

def text : String := String.ofList (Json.record [member]).pretty

theorem parse?_text : Json.parse? text.toList = some (.record [member]) := by
  have plain : Json.Plain (.record [member]) := by
    refine .record ?_ ?_
    · exact List.forall_mem_singleton.2 (plain_of_all (by decide))
    · exact List.forall_mem_singleton.2 (.number (isNumeral_toString _))
  rw [text, String.toList_ofList, Json.parse?_pretty plain]

theorem ofJson?_member : ofJson? (.record [member]) = some { empty with promoted := -7 } := by
  have named (v : Json) : member? empty ("Promoted".toList, v) =
      (intOver? empty.promoted v).map fun n => { empty with promoted := n } := rfl
  have number := intOver?_numberOf empty.promoted (-7)
  rw [ofJson?_singleton]
  refine (named _).trans ?_
  rw [number, Option.map_some]

end Snapshot.Sample

open Snapshot.Sample in
/-- A state at the ends of all ranges is saved and loaded; a document with one member is read
    with this member and the empty state. -/
theorem Medium.load_of_sample :
    (∃ saved, (Medium.file .vacant).save none state 946684800000000000 = .ok saved ∧
      saved.load = .ok { state with savedAt := ⟨2000, 1, 1, 0, 0, 0, 0, 0⟩ }) ∧
    ∃ t, (Medium.file (.holding text)).load = .ok t ∧
      t.promoted = -7 ∧ t.background = [] ∧ t.counter = 0 ∧ t.initial = -10000 := by
  have stamp : Stamp.ofUnixNanos 946684800000000000 = ⟨2000, 1, 1, 0, 0, 0, 0, 0⟩ := by
    decide +kernel
  have decodes : ∀ m ∈ [member], (Snapshot.ofJson? (.record [m])).isSome = true := by
    rw [List.forall_mem_singleton, ofJson?_member]
    rfl
  obtain ⟨saves, reads⟩ := Medium.load_of_save_or_of_members
  have saved := @saves .vacant trivial state 946684800000000000 (stamp ▸ by decide)
  obtain ⟨t, loaded, defaults, alone⟩ := reads parse?_text decodes
  refine ⟨stamp ▸ saved, t, loaded, ?_, ?_, ?_, ?_⟩
  · exact @alone .promoted [] [] member { Snapshot.empty with promoted := -7 } rfl nofun nofun
      ofJson?_member
  · exact defaults .background (List.forall_mem_singleton.2 rfl)
  · exact defaults .counter (List.forall_mem_singleton.2 rfl)
  · exact defaults .initial (List.forall_mem_singleton.2 rfl)

end HeadUnit
