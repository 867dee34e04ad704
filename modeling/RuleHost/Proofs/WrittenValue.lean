import RuleHost.Proofs.WrittenText
import RuleHost.Toml.Section
import RuleHost.Toml.Statement

/-! A value that was written is read back up to the end of its line. -/

namespace RuleHost.Toml

section Digits

variable {n : Nat}

theorem isDigit_of_mem {c : Char} (member : c ∈ Nat.toDigits 10 n) : isDigit 10 c = true := by
  have digit := Nat.isDigit_of_mem_toDigits (by decide) (by decide) member
  simp only [Char.isDigit, Bool.and_eq_true, decide_eq_true_eq] at digit
  have value : digitValue? c = some (c.toNat - '0'.toNat) := if_pos (by simpa [Char.le_def] using digit)
  have above : c.toNat ≤ 57 := digit.2
  rw [isDigit, value, Option.any_some, decide_eq_true_eq]
  have zero : '0'.toNat = 48 := rfl
  omega

/-- Characters that are no digits do not stand in a written number. -/
theorem not_mem_digits {c : Char} (other : isDigit 10 c = false) : c ∉ Nat.toDigits 10 n := by
  intro member
  rw [isDigit_of_mem member] at other
  cases other

theorem ofDigits_append (base : Nat) (digits : List Char) (c : Char) :
    ofDigits base (digits ++ [c]) = ofDigits base digits * base + (digitValue? c).getD 0 := by
  rw [ofDigits, List.foldl_append]
  rfl

theorem digitValue?_digitChar : ∀ d < 10, digitValue? (Nat.digitChar d) = some d := by decide

theorem ofDigits_toDigits (n : Nat) : ofDigits 10 (Nat.toDigits 10 n) = n := by
  induction n using Nat.strongRecOn with
  | ind n ih =>
    rw [Nat.toDigits_eq_if (by decide)]
    split
    next small =>
      have value := ofDigits_append 10 [] (Nat.digitChar n)
      rw [List.nil_append, digitValue?_digitChar n small] at value
      rw [value]
      exact Nat.zero_add n
    next large =>
      rw [ofDigits_append, ih (n / 10) (by omega), digitValue?_digitChar _ (Nat.mod_lt n (by decide))]
      exact Nat.div_add_mod' n 10

/-- A number other than zero has no zero in front. -/
theorem head_toDigits (positive : 0 < n) : (Nat.toDigits 10 n).head? ≠ some '0' := by
  induction n using Nat.strongRecOn with
  | ind n ih =>
    rw [Nat.toDigits_eq_if (by decide)]
    split
    next small =>
      have digit : ∀ d < 10, 0 < d → [Nat.digitChar d].head? ≠ some '0' := by decide
      exact digit n small positive
    next large =>
      have front := ih (n / 10) (by omega) (by omega)
      cases written : Nat.toDigits 10 (n / 10) with
      | nil => exact absurd written Nat.toDigits_ne_nil
      | cons c rest => rwa [written] at front

theorem grouped?_digits {digits : List Char} (all : ∀ c ∈ digits, isDigit 10 c = true)
    (nonempty : digits ≠ []) : grouped? 10 digits = some digits := by
  induction digits with
  | nil => exact absurd rfl nonempty
  | cons c rest ih =>
    have here := all c List.mem_cons_self
    cases rest with
    | nil => rw [grouped?, if_pos here]
    | cons d rest =>
      have next := all d (List.mem_cons_of_mem c List.mem_cons_self)
      have joined : d ≠ '_' := by rintro rfl; cases next
      rw [grouped?, if_pos here, ih (fun e member => all e (List.mem_cons_of_mem c member)) nofun]
      · rfl
      · nofun
      · intro rest same
        exact joined (List.cons.inj same).1

theorem decimal?_toDigits (n : Nat) : decimal? (Nat.toDigits 10 n) = some n := by
  have natural : natural? 10 (Nat.toDigits 10 n) = some n := by
    rw [natural?, grouped?_digits (fun _ => isDigit_of_mem) Nat.toDigits_ne_nil, Option.map_some,
      ofDigits_toDigits]
  obtain rfl | positive := Nat.eq_zero_or_pos n
  · rfl
  · have front := head_toDigits positive
    rw [decimal?.eq_def]
    split
    next same => rw [same] at front; exact absurd rfl front
    next same => rw [same] at front; exact absurd rfl front
    next => exact natural

theorem wholeNumber?_toDigits (n : Nat) : wholeNumber? (Nat.toDigits 10 n) = some (Int.ofNat n) := by
  have absent : ∀ c, isDigit 10 c = false → c ∉ Nat.toDigits 10 n := fun c => not_mem_digits
  rw [wholeNumber?.eq_def]
  split
  next same => exact absurd (by rw [same]; simp) (absent 'x' (by decide))
  next same => exact absurd (by rw [same]; simp) (absent 'o' (by decide))
  next same => exact absurd (by rw [same]; simp) (absent 'b' (by decide))
  next same => exact absurd (by rw [same]; simp) (absent '+' (by decide))
  next same => exact absurd (by rw [same]; simp) (absent '-' (by decide))
  next => rw [decimal?_toDigits, Option.map_some]

theorem date?_toDigits (n : Nat) : date? (Nat.toDigits 10 n) = none := by
  rw [date?.eq_def]
  split
  next same => exact absurd (by rw [same]; simp) (not_mem_digits (n := n) (c := '-') (by decide))
  next => rfl

theorem literal?_toDigits (fits : n < Nat.pow 2 128) :
    literal? (Nat.toDigits 10 n) = some (.integer n) := by
  have letter : ∀ c, isDigit 10 c = false → ∀ rest, Nat.toDigits 10 n ≠ c :: rest := by
    intro c other rest same
    exact not_mem_digits (n := n) other (by rw [same]; exact List.mem_cons_self)
  have whole : integer? (Nat.toDigits 10 n) = some (Int.ofNat n) := by
    have above : Int.ofNat n < Int.ofNat (Nat.pow 2 128) := Int.ofNat_lt.mpr fits
    have below : -Int.ofNat (Nat.pow 2 127) ≤ Int.ofNat n :=
      Int.le_trans (Int.neg_nonpos_of_nonneg (Int.natCast_nonneg _)) (Int.natCast_nonneg n)
    rw [integer?, wholeNumber?_toDigits, Option.filter, decide_eq_true below, decide_eq_true above]
    rfl
  rw [literal?, if_neg (by simpa using letter 't' (by decide) _),
    if_neg (by simpa using letter 'f' (by decide) _), whole]
  rfl

end Digits

def Scalar.value : Scalar → Value
  | .string text => .string text
  | .natural number => .integer number

def Scalar.Fits : Scalar → Prop
  | .string _ => True
  | .natural number => number < Nat.pow 2 128

@[simp] theorem Scalar.fits_string (text : String) : (Scalar.string text).Fits := trivial

@[simp] theorem Scalar.fits_toNat (number : UInt64) : (Scalar.natural number.toNat).Fits :=
  Nat.lt_of_lt_of_le number.toNat_lt (Nat.pow_le_pow_right (by decide) (by decide))

theorem ne_of_bare {c d : Char} (bare : isBare c = true) (other : isBare d = false) : c ≠ d := by
  rintro rfl
  rw [bare] at other
  cases other

theorem readLiteral_toDigits {n : Nat} (fits : n < Nat.pow 2 128) (rest : List Char) :
    readLiteral (Nat.toDigits 10 n ++ '\n' :: rest) = some (.integer n, '\n' :: rest) := by
  have literal : ∀ c ∈ Nat.toDigits 10 n, isLiteral c = true := by
    intro c member
    have digit := Nat.isDigit_of_mem_toDigits (by decide) (by decide) member
    simp [isLiteral, isBare, Char.isAlphanum, digit]
  have first : (Nat.toDigits 10 n ++ '\n' :: rest).takeWhile isLiteral = Nat.toDigits 10 n := by
    rw [List.takeWhile_append_of_pos literal, List.takeWhile_cons_of_neg (by decide), List.append_nil]
  simp only [readLiteral, first, date?_toDigits, List.drop_left, literal?_toDigits fits, Option.map_some]

theorem readValue_quote {quote : Char} (known : quote = '"' ∨ quote = '\'') (bound depth : Nat)
    (text : List Char) : readValue (bound + 1) depth (quote :: text) =
      (Text.read? (quote :: text)).map fun (text, rest) => (.string text, rest) := by
  obtain rfl | rfl := known
  · cases depth <;> rfl
  · cases depth <;> rfl

theorem readValue_digits {n : Nat} (bound depth : Nat) (rest : List Char) :
    readValue (bound + 1) depth (Nat.toDigits 10 n ++ rest) = readLiteral (Nat.toDigits 10 n ++ rest) := by
  have absent : ∀ c, isDigit 10 c = false → ∀ more, Nat.toDigits 10 n ++ rest ≠ c :: more := by
    intro c other more same
    cases written : Nat.toDigits 10 n with
    | nil => exact Nat.toDigits_ne_nil written
    | cons d digits =>
      rw [written] at same
      cases same
      exact not_mem_digits (n := n) other (by rw [written]; exact List.mem_cons_self)
  rw [readValue]
  all_goals
    intros
    refine absent _ ?_ _ (by assumption)
    decide

theorem Form.write_begins (text : List Char) (form : Text.Form) :
    ∃ quote more, (quote = '"' ∨ quote = '\'') ∧ form.write text = quote :: more := by
  cases form with
  | basic => exact ⟨_, _, .inl rfl, rfl⟩
  | literal => exact ⟨_, _, .inr rfl, rfl⟩
  | basicLines => exact ⟨_, _, .inl rfl, rfl⟩
  | literalLines => exact ⟨_, _, .inr rfl, rfl⟩

theorem readValue_write {scalar : Scalar} (fits : scalar.Fits) (bound depth : Nat) (rest : List Char) :
    readValue (bound + 1) depth (scalar.write.toList ++ '\n' :: rest) =
      some (scalar.value, '\n' :: rest) := by
  cases scalar with
  | string text =>
    have form := Text.Form.choose_suits text.toList
    have read := Text.read?_write form (Text.free_newline rest)
    rw [String.ofList_toList] at read
    rw [Scalar.write, Text.write, String.toList_ofList]
    obtain ⟨quote, more, known, begins⟩ := Form.write_begins text.toList (Text.Form.choose text.toList)
    rw [begins, List.cons_append] at read ⊢
    rw [readValue_quote known, read]
    rfl
  | natural n =>
    rw [Scalar.write, Nat.toString_eq_repr, Nat.toList_repr, readValue_digits]
    exact readLiteral_toDigits fits rest

end RuleHost.Toml
