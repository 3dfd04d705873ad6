import Mathlib.Data.List.DropRight
import HeadUnit.Json

/-!
# Documents are read as they are written

`Json.parse?` reads what `Json.pretty` writes (`parse?_pretty`), if the strings of the
document have no characters that need an escape and its numbers are whole (`Json.Plain`).

The reader is given fuel. Whatever is read, there is as much fuel left as there are
characters (`Reads`): each nested value costs one unit, and its line break is a character at
least. So the induction is on the fuel, one step for each of the three readers.
-/

namespace HeadUnit.Json

/-! ## Strings -/

/-- A character that stands for itself in a string. -/
structure IsPlain (c : Char) : Prop where
  printable : 0x20 ≤ c.toNat
  quote : c ≠ '"'
  backslash : c ≠ '\\'

theorem isPlain_iff {c : Char} : IsPlain c ↔ 0x20 ≤ c.toNat ∧ c ≠ '"' ∧ c ≠ '\\' :=
  ⟨fun ⟨a, b, c⟩ => ⟨a, b, c⟩, fun ⟨a, b, c⟩ => ⟨a, b, c⟩⟩

instance (c : Char) : Decidable (IsPlain c) := decidable_of_iff' _ isPlain_iff

theorem stringBody?_plain {raw : List Char} (plain : ∀ c ∈ raw, IsPlain c) (rest : List Char) :
    stringBody? (raw ++ '"' :: rest) = some (raw, rest) := by
  induction raw with
  | nil => rfl
  | cons c cs ih =>
    obtain ⟨printable, quote, backslash⟩ := plain c List.mem_cons_self
    have later := ih fun d mem => plain d (List.mem_cons_of_mem c mem)
    rw [List.cons_append, stringBody?]
    · simp [later, backslash, Nat.not_lt.2 printable]
    all_goals simp_all

/-! ## Numbers -/

/-- Digits without a sign, and without a zero in front unless it is alone. -/
structure IsWhole (ds : List Char) : Prop where
  some : ds ≠ []
  digits : ∀ c ∈ ds, c.isDigit = true
  lead : ds.head? = Option.some '0' → ds = ['0']

/-- What follows a number does not go on with it. -/
def Ends (rest : List Char) : Prop :=
  ∀ c, rest.head? = some c → c.isDigit = false ∧ c ≠ '.' ∧ c ≠ 'e' ∧ c ≠ 'E'

theorem takeWhile_digits {ds rest : List Char} (digits : ∀ c ∈ ds, c.isDigit = true)
    (ends : Ends rest) : (ds ++ rest).takeWhile Char.isDigit = ds ∧
      (ds ++ rest).dropWhile Char.isDigit = rest := by
  rw [List.takeWhile_append_of_pos digits, List.dropWhile_append_of_pos digits]
  cases rest with
  | nil => simp
  | cons c cs =>
    have stop : ¬c.isDigit = true := by simp [(ends c rfl).1]
    simp [List.takeWhile_cons_of_neg stop, List.dropWhile_cons_of_neg stop]

theorem whole?_eq {ds rest : List Char} (whole : IsWhole ds) (ends : Ends rest) :
    whole? (ds ++ rest) = some (ds, rest) := by
  obtain ⟨c, cs, rfl⟩ := List.exists_cons_of_ne_nil whole.some
  by_cases zero : c = '0'
  · subst zero
    obtain rfl : cs = [] := by simpa using whole.lead rfl
    rfl
  · obtain ⟨taken, left⟩ := takeWhile_digits whole.digits ends
    rw [List.cons_append, whole?, ← List.cons_append, digits?, taken, left]
    · rfl
    · simp_all

/-- A whole number, with a sign or without. -/
inductive IsNumeral : List Char → Prop
  | positive {ds : List Char} (whole : IsWhole ds) : IsNumeral ds
  | negative {ds : List Char} (whole : IsWhole ds) : IsNumeral ('-' :: ds)

/-- A numeral begins with a digit or with a sign. -/
theorem IsNumeral.head {ds : List Char} (numeral : IsNumeral ds) :
    ∃ c cs, ds = c :: cs ∧ (c.isDigit = true ∨ c = '-') := by
  cases numeral with
  | positive whole =>
    obtain ⟨c, cs, rfl⟩ := List.exists_cons_of_ne_nil whole.some
    exact ⟨c, cs, rfl, .inl (whole.digits c List.mem_cons_self)⟩
  | @negative ds whole => exact ⟨'-', ds, rfl, .inr rfl⟩

theorem number?_numeral {ds rest : List Char} (numeral : IsNumeral ds) (ends : Ends rest) :
    number? (ds ++ rest) = some (ds, rest) := by
  unfold number?
  cases numeral with
  | positive whole =>
    have read := whole?_eq whole ends
    obtain ⟨c, cs, rfl⟩ := List.exists_cons_of_ne_nil whole.some
    have unsigned : c ≠ '-' := by
      rintro rfl
      exact absurd (whole.digits '-' List.mem_cons_self) (by decide)
    cases rest with
    | nil =>
      rw [List.append_nil] at read ⊢
      simp [unsigned, read]
    | cons d cs =>
      obtain ⟨_, point, e, bigE⟩ := ends d rfl
      rw [List.cons_append] at read ⊢
      simp [unsigned, read, point, e, bigE]
  | negative whole =>
    have read := whole?_eq whole ends
    cases rest with
    | nil =>
      rw [List.append_nil] at read ⊢
      simp [read]
    | cons d cs =>
      obtain ⟨_, point, e, bigE⟩ := ends d rfl
      simp [read, point, e, bigE]

/-! ## Blanks -/

theorem skipBlanks_cons {c : Char} (dark : isBlank c = false) (cs : List Char) :
    skipBlanks (c :: cs) = c :: cs := by
  rw [skipBlanks, List.dropWhile_cons_of_neg (by simp [dark])]

theorem skipBlanks_newline (depth : Nat) (cs : List Char) :
    skipBlanks (newline depth ++ cs) = skipBlanks cs := by
  refine List.dropWhile_append_of_pos fun c mem => ?_
  rcases List.mem_cons.1 mem with rfl | blank
  · rfl
  · rw [List.eq_of_mem_replicate blank]
    rfl

/-- Blanks before a value do not matter. -/
theorem value?_skipBlanks (fuel : Nat) (cs : List Char) :
    value? fuel (skipBlanks cs) = value? fuel cs := by
  cases fuel with
  | zero => rfl
  | succ fuel => rw [value?, value?, skipBlanks, skipBlanks, List.dropWhile_idempotent]

theorem value?_newline (fuel depth : Nat) (cs : List Char) :
    value? fuel (newline depth ++ cs) = value? fuel cs := by
  rw [← value?_skipBlanks, skipBlanks_newline, value?_skipBlanks]

theorem items?_skipBlanks (fuel : Nat) (cs : List Char) :
    items? fuel (skipBlanks cs) = items? fuel cs := by
  cases fuel with
  | zero => rfl
  | succ fuel => rw [items?, items?, value?_skipBlanks]

theorem members?_skipBlanks (fuel : Nat) (cs : List Char) :
    members? fuel (skipBlanks cs) = members? fuel cs := by
  cases fuel with
  | zero => rfl
  | succ fuel => rw [members?, members?, skipBlanks, skipBlanks, List.dropWhile_idempotent]

/-! ## Values -/

/-- A value whose strings need no escapes and whose numbers are whole. -/
inductive Plain : Json → Prop
  | null : Plain .null
  | bool (b : Bool) : Plain (.bool b)
  | number {ds : List Char} (numeral : IsNumeral ds) : Plain (.number ds)
  | string {raw : List Char} (plain : ∀ c ∈ raw, IsPlain c) : Plain (.string raw)
  | list {vs : List Json} (items : ∀ v ∈ vs, Plain v) : Plain (.list vs)
  | record {ms : List (List Char × Json)} (keys : ∀ m ∈ ms, ∀ c ∈ m.1, IsPlain c)
      (values : ∀ m ∈ ms, Plain m.2) : Plain (.record ms)

/-- A value begins neither with a blank nor with a closing bracket. -/
theorem Plain.head {v : Json} (plain : Plain v) (depth : Nat) :
    ∃ c cs, write depth v = c :: cs ∧ isBlank c = false ∧ c ≠ ']' := by
  cases plain with
  | null => exact ⟨'n', _, rfl, rfl, by decide⟩
  | bool b =>
    cases b with
    | true => exact ⟨'t', _, rfl, rfl, by decide⟩
    | false => exact ⟨'f', _, rfl, rfl, by decide⟩
  | number numeral =>
    obtain ⟨c, cs, rfl, first⟩ := numeral.head
    refine ⟨c, cs, rfl, ?_, ?_⟩
    · rw [Bool.eq_false_iff]
      intro blank
      simp only [isBlank, Bool.or_eq_true, decide_eq_true_eq] at blank
      rcases blank with ((rfl | rfl) | rfl) | rfl
      all_goals exact absurd first (by decide)
    · rintro rfl
      exact first.elim (by decide) (by decide)
  | string => exact ⟨'"', _, rfl, rfl, by decide⟩
  | @list vs =>
    cases vs with
    | nil => exact ⟨'[', _, rfl, rfl, by decide⟩
    | cons v vs => exact ⟨'[', _, rfl, rfl, by decide⟩
  | @record ms =>
    cases ms with
    | nil => exact ⟨'{', _, rfl, rfl, by decide⟩
    | cons m ms => exact ⟨'{', _, rfl, rfl, by decide⟩

/-- With this much fuel, what is written is read. -/
structure Reads (fuel : Nat) : Prop where
  value : ∀ {v : Json} {depth : Nat} {rest : List Char}, Plain v → Ends rest →
    (write depth v).length ≤ fuel → value? fuel (write depth v ++ rest) = some (v, rest)
  items : ∀ {v : Json} {vs : List Json} {depth around : Nat} {rest : List Char},
    (∀ w ∈ v :: vs, Plain w) → (writeItems depth (v :: vs)).length < fuel →
    items? fuel (writeItems depth (v :: vs) ++ newline around ++ ']' :: rest) =
      some (v :: vs, rest)
  members : ∀ {m : List Char × Json} {ms : List (List Char × Json)} {depth around : Nat}
    {rest : List Char}, (∀ n ∈ m :: ms, ∀ c ∈ n.1, IsPlain c) → (∀ n ∈ m :: ms, Plain n.2) →
    (writeMembers depth (m :: ms)).length < fuel →
    members? fuel (writeMembers depth (m :: ms) ++ newline around ++ '}' :: rest) =
      some (m :: ms, rest)

theorem length_newline_pos (depth : Nat) : 0 < (newline depth).length := by simp [newline]

theorem ends_newline (depth : Nat) (rest : List Char) : Ends (newline depth ++ rest) := by
  rintro c first
  cases first
  decide

theorem ends_comma (rest : List Char) : Ends (',' :: rest) := by
  rintro c first
  cases first
  decide

section Step

variable {fuel : Nat} (reads : Reads fuel)

include reads

theorem value?_succ {v : Json} {depth : Nat} {rest : List Char} (plain : Plain v)
    (ends : Ends rest) (enough : (write depth v).length ≤ fuel + 1) :
    value? (fuel + 1) (write depth v ++ rest) = some (v, rest) := by
  have text : skipBlanks (write depth v ++ rest) = write depth v ++ rest := by
    obtain ⟨c, cs, e, dark, _⟩ := plain.head depth
    rw [e, List.cons_append, skipBlanks_cons dark]
  rw [value?, text]
  cases plain with
  | null => rfl
  | bool b => cases b <;> rfl
  | number numeral =>
    obtain ⟨c, cs, rfl, first⟩ := numeral.head
    have read := number?_numeral numeral ends
    rw [write]
    -- A digit or a sign is none of the characters that other values begin with.
    split
    all_goals first
      | next e =>
        obtain ⟨rfl, _⟩ := List.cons.inj e
        exact absurd first (by decide)
      | rw [read]
        rfl
  | string plain =>
    have read := stringBody?_plain plain rest
    rw [write, List.cons_append, List.cons_append, List.append_assoc]
    exact congrArg (Option.map _) read
  | @list vs items =>
    cases vs with
    | nil => rfl
    | cons v vs =>
      -- Behind the bracket is the line break of the first item, and then the item.
      obtain ⟨c, cs, e, dark, other⟩ := (items v List.mem_cons_self).head (depth + 1)
      have first : skipBlanks (writeItems (depth + 1) (v :: vs) ++ newline depth ++ ']' :: rest) =
          c :: (cs ++ comma vs ++ writeItems (depth + 1) vs ++ newline depth ++ ']' :: rest) := by
        rw [writeItems, e]
        simp only [List.append_assoc, List.cons_append, skipBlanks_newline]
        rw [skipBlanks_cons dark]
      rw [write] at enough ⊢
      simp only [List.length_append, List.length_cons, List.length_nil, List.append_assoc,
        List.cons_append, List.nil_append] at enough ⊢
      have read : items? fuel (writeItems (depth + 1) (v :: vs) ++ newline depth ++ ']' :: rest) =
          some (v :: vs, rest) := reads.items items (by omega)
      rw [← items?_skipBlanks, first] at read
      rw [List.append_assoc] at first
      rw [first]
      split
      · next e' => exact absurd (List.cons.inj e').1 other
      · rw [read]
        rfl
  | @record ms keys values =>
    cases ms with
    | nil => rfl
    | cons m ms =>
      have first : skipBlanks
          (writeMembers (depth + 1) (m :: ms) ++ newline depth ++ '}' :: rest) =
          '"' :: (m.1 ++ ['"', ':', ' '] ++ write (depth + 1) m.2 ++ comma ms ++
            writeMembers (depth + 1) ms ++ newline depth ++ '}' :: rest) := by
        rw [writeMembers]
        simp only [List.append_assoc, List.cons_append, skipBlanks_newline]
        rw [skipBlanks_cons rfl]
      rw [write] at enough ⊢
      simp only [List.length_append, List.length_cons, List.length_nil, List.append_assoc,
        List.cons_append, List.nil_append] at enough ⊢
      have read : members? fuel
          (writeMembers (depth + 1) (m :: ms) ++ newline depth ++ '}' :: rest) =
          some (m :: ms, rest) := reads.members keys values (by omega)
      rw [← members?_skipBlanks, first] at read
      rw [List.append_assoc] at first
      rw [first]
      exact congrArg (Option.map _) read

theorem items?_succ {v : Json} {vs : List Json} {depth around : Nat} {rest : List Char}
    (plain : ∀ w ∈ v :: vs, Plain w) (enough : (writeItems depth (v :: vs)).length < fuel + 1) :
    items? (fuel + 1) (writeItems depth (v :: vs) ++ newline around ++ ']' :: rest) =
      some (v :: vs, rest) := by
  have own : Plain v := plain v List.mem_cons_self
  rw [writeItems] at enough ⊢
  simp only [List.length_append, List.append_assoc] at enough ⊢
  have short : (write depth v).length ≤ fuel := by
    have := length_newline_pos depth
    omega
  rw [items?, value?_newline]
  cases vs with
  | nil =>
    have last : writeItems depth [] = [] := rfl
    simp only [comma, last, List.isEmpty_nil, if_true, List.nil_append]
    rw [reads.value own (ends_newline around _) short]
    simp only [skipBlanks_newline, skipBlanks_cons (show isBlank ']' = false from rfl)]
  | cons w ws =>
    have later : ∀ x ∈ w :: ws, Plain x := fun x mem => plain x (List.mem_cons_of_mem v mem)
    simp only [comma, List.isEmpty_cons, Bool.false_eq_true, if_false, List.length_cons,
      List.length_nil, List.cons_append, List.nil_append] at enough ⊢
    rw [reads.value own (ends_comma _) short]
    have others : items? fuel (writeItems depth (w :: ws) ++ newline around ++ ']' :: rest) =
        some (w :: ws, rest) := reads.items later (by omega)
    rw [List.append_assoc] at others
    simp only [skipBlanks_cons (show isBlank ',' = false from rfl), others, Option.map_some]

theorem members?_succ {m : List Char × Json} {ms : List (List Char × Json)} {depth around : Nat}
    {rest : List Char} (keys : ∀ n ∈ m :: ms, ∀ c ∈ n.1, IsPlain c)
    (values : ∀ n ∈ m :: ms, Plain n.2)
    (enough : (writeMembers depth (m :: ms)).length < fuel + 1) :
    members? (fuel + 1) (writeMembers depth (m :: ms) ++ newline around ++ '}' :: rest) =
      some (m :: ms, rest) := by
  obtain ⟨k, v⟩ := m
  have key : ∀ c ∈ k, IsPlain c := keys (k, v) List.mem_cons_self
  have own : Plain v := values (k, v) List.mem_cons_self
  rw [writeMembers] at enough ⊢
  simp only [List.length_append, List.append_assoc, List.cons_append, List.nil_append,
    List.length_cons] at enough ⊢
  have short : (write depth v).length ≤ fuel := by omega
  have blank (cs : List Char) : value? fuel (' ' :: cs) = value? fuel cs := by
    rw [← value?_skipBlanks, ← value?_skipBlanks fuel cs]
    rfl
  rw [members?, skipBlanks_newline, skipBlanks_cons rfl]
  simp only [stringBody?_plain key, skipBlanks_cons (show isBlank ':' = false from rfl), blank]
  cases ms with
  | nil =>
    have last : writeMembers depth [] = [] := rfl
    simp only [comma, last, List.isEmpty_nil, if_true, List.nil_append]
    rw [reads.value own (ends_newline around _) short]
    simp only [skipBlanks_newline, skipBlanks_cons (show isBlank '}' = false from rfl)]
  | cons n ns =>
    have keys' := fun x mem => keys x (List.mem_cons_of_mem (k, v) mem)
    have values' := fun x mem => values x (List.mem_cons_of_mem (k, v) mem)
    simp only [comma, List.isEmpty_cons, Bool.false_eq_true, if_false, List.length_cons,
      List.length_nil, List.cons_append, List.nil_append] at enough ⊢
    rw [reads.value own (ends_comma _) short]
    have others : members? fuel (writeMembers depth (n :: ns) ++ newline around ++ '}' :: rest) =
        some (n :: ns, rest) := reads.members keys' values' (by omega)
    rw [List.append_assoc] at others
    simp only [skipBlanks_cons (show isBlank ',' = false from rfl), others, Option.map_some]

end Step

theorem reads (fuel : Nat) : Reads fuel := by
  induction fuel with
  | zero =>
    refine ⟨fun {v depth rest} plain _ enough => ?_,
      fun _ enough => absurd enough (Nat.not_lt_zero _),
      fun _ _ enough => absurd enough (Nat.not_lt_zero _)⟩
    obtain ⟨c, cs, e, _⟩ := plain.head depth
    simp [e] at enough
  | succ fuel ih => exact ⟨value?_succ ih, items?_succ ih, members?_succ ih⟩

/-- What is written is read. -/
theorem parse?_pretty {v : Json} (plain : Plain v) : parse? v.pretty = some v := by
  have none : Ends [] := fun c first => nomatch first
  have read : value? (2 * v.pretty.length + 2) (v.pretty ++ []) = some (v, []) :=
    (reads _).value plain none (by rw [pretty]; omega)
  rw [List.append_nil] at read
  rw [parse?, read]
  rfl

end HeadUnit.Json
