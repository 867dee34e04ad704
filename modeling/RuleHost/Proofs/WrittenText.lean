import RuleHost.Toml.Text.Read
import RuleHost.Toml.Text.Written

/-! A string that was written is read back, in whichever of the four forms it was written, and whatever
stands behind it. The reader cuts the text where the writer closed it, because the quotes that stand bare in
it are never too many in a row; and it resolves the escapes that the writer put in. -/

namespace RuleHost.Toml.Text

/-- At most so many quotes stand bare in a row, and so many may stand in front. What follows a backslash is
not bare where escapes are allowed. -/
inductive Sparse (quote : Char) (escapes : Bool) (most : Nat) : Nat → List Char → Prop where
  | nil {left : Nat} : Sparse quote escapes most left []
  | quote {left : Nat} {rest : List Char} (sparse : Sparse quote escapes most left rest) :
      Sparse quote escapes most (left + 1) (quote :: rest)
  | plain {left : Nat} {c : Char} {rest : List Char} (differs : c ≠ quote)
      (bare : escapes = true → c ≠ '\\') (sparse : Sparse quote escapes most most rest) :
      Sparse quote escapes most left (c :: rest)
  | escaped {left : Nat} {c : Char} {rest : List Char} (allowed : escapes = true)
      (sparse : Sparse quote escapes most most rest) : Sparse quote escapes most left ('\\' :: c :: rest)

section Cut

variable {quote : Char} {escapes : Bool}

theorem cut_plain {c : Char} (differs : c ≠ quote) (bare : escapes = true → c ≠ '\\') (rest : List Char) :
    cut quote escapes (c :: rest) = before c (cut quote escapes rest) := by
  rw [cut.eq_def]
  split
  next => cases ‹_ = []›
  next same =>
    cases same
    cases escapes with
    | true => exact absurd rfl (bare rfl)
    | false => rfl
  next same =>
    cases same
    exact if_neg (by simpa using differs)

theorem cut_quote (apart : quote ≠ '\\') (rest : List Char) :
    cut quote escapes (quote :: rest) = some ([], rest) := by
  rw [cut.eq_def]
  split
  next => cases ‹_ = []›
  next same => exact absurd (List.cons.inj same).1 apart
  next same =>
    cases same
    exact if_pos (beq_self_eq_true quote)

theorem cut_sparse (apart : quote ≠ '\\') {left : Nat} {text : List Char}
    (sparse : Sparse quote escapes 0 left text) (none : left = 0) (rest : List Char) :
    cut quote escapes (text ++ quote :: rest) = some (text, rest) := by
  induction sparse with
  | nil => exact cut_quote apart rest
  | quote => cases none
  | plain differs bare _ ih =>
    rw [List.cons_append, cut_plain differs bare, ih rfl]
    rfl
  | escaped allowed _ ih =>
    rw [List.cons_append, List.cons_append, cut, if_pos allowed, ih rfl]
    rfl

theorem cutLines_plain {c : Char} {rest : List Char} (bare : escapes = true → c ≠ '\\')
    (continues : c = quote → rest.take 2 ≠ [quote, quote]) :
    cutLines quote escapes (c :: rest) = before c (cutLines quote escapes rest) := by
  rw [cutLines.eq_def]
  split
  next => cases ‹_ = []›
  next same =>
    cases same
    cases escapes with
    | true => exact absurd rfl (bare rfl)
    | false => rfl
  next same =>
    cases same
    exact if_neg (by simpa using continues)

theorem cutLines_quotes (apart : quote ≠ '\\') (rest : List Char) :
    cutLines quote escapes (quote :: quote :: quote :: rest) = some (close quote rest) := by
  rw [cutLines.eq_def]
  split
  next => cases ‹_ = []›
  next same => exact absurd (List.cons.inj same).1 apart
  next same =>
    cases same
    exact if_pos (by simp)

def Closed (quote : Char) (rest : List Char) : Prop := rest.head? ≠ some quote

theorem Closed.close {rest : List Char} (closed : Closed quote rest) : close quote rest = ([], rest) := by
  cases rest with
  | nil => rfl
  | cons c rest =>
    have differs : (c == quote) = false := by simpa [Closed] using closed
    simp [Text.close, differs]

theorem Closed.close_quote {rest : List Char} (closed : Closed quote rest) :
    Text.close quote (quote :: rest) = ([quote], rest) := by
  cases rest with
  | nil => simp [Text.close]
  | cons c rest =>
    have differs : (c == quote) = false := by simpa [Closed] using closed
    simp [Text.close, differs]

theorem Closed.close_quotes (rest : List Char) :
    Text.close quote (quote :: quote :: rest) = ([quote, quote], rest) := by
  simp [Text.close]

/-- Where the closing quotes begin in the midst of bare ones, nothing else is left of the text. -/
theorem Sparse.ends (apart : quote ≠ '\\') {most left : Nat} {text rest : List Char}
    (sparse : Sparse quote escapes most left text) (few : left ≤ 1)
    (closes : (text ++ quote :: quote :: quote :: rest).take 2 = [quote, quote]) :
    text = [] ∨ text = [quote] := by
  cases sparse with
  | nil => exact .inl rfl
  | plain differs => simp at closes; exact absurd closes.1 differs
  | escaped => simp at closes; exact absurd closes.1.symm apart
  | quote sparse =>
    cases sparse with
    | nil => exact .inr rfl
    | quote => omega
    | plain differs => simp at closes; exact absurd closes differs
    | escaped => simp at closes; exact absurd closes.symm apart

theorem cutLines_sparse (apart : quote ≠ '\\') {left : Nat} {text rest : List Char}
    (sparse : Sparse quote escapes 2 left text) (few : left ≤ 2) (closed : Closed quote rest) :
    cutLines quote escapes (text ++ quote :: quote :: quote :: rest) = some (text, rest) := by
  induction sparse with
  | nil => rw [List.nil_append, cutLines_quotes apart, closed.close]
  | plain differs bare _ ih =>
    rw [List.cons_append, cutLines_plain bare fun same => absurd same differs, ih (Nat.le_refl 2)]
    rfl
  | escaped allowed _ ih =>
    rw [List.cons_append, List.cons_append, cutLines, if_pos allowed, ih (Nat.le_refl 2)]
    rfl
  | @quote left text sparse ih =>
    rw [List.cons_append]
    by_cases closes : (text ++ quote :: quote :: quote :: rest).take 2 = [quote, quote]
    · obtain rfl | rfl := sparse.ends apart (by omega) closes
      · rw [List.nil_append, cutLines_quotes apart, closed.close_quote]
      · rw [List.singleton_append, cutLines_quotes apart, Closed.close_quotes]
    · rw [cutLines_plain (fun _ => apart) fun _ => closes, ih (by omega)]
      rfl

end Cut

section Escape

variable {lines : Bool}

theorem resolve_plain {c : Char} (differs : c ≠ '\\')
    (stands : isControl c = false ∨ (lines = true ∧ c = '\n')) (rest : List Char) :
    resolve lines false (c :: rest) = (resolve lines false rest).map (c :: ·) := by
  rw [resolve.eq_def]
  split
  next => cases ‹_ = []›
  next same => exact absurd (List.cons.inj same).1 differs
  next same => exact absurd (List.cons.inj same).1 differs
  next same => exact absurd (List.cons.inj same).1 differs
  next same => exact absurd (List.cons.inj same).1 differs
  next same =>
    cases same
    obtain plain | ⟨_, feed⟩ := stands
    · cases plain
    · cases feed
  next same =>
    cases same
    have stays : (isControl c && !(lines && c == '\n')) = false := by
      obtain plain | ⟨rfl, rfl⟩ := stands
      · rw [plain, Bool.false_and]
      · rfl
    simp only [Bool.false_and, Bool.false_eq_true, if_false, stays, Bool.or_false, beq_iff_eq, differs]

theorem escape_cons {bare : Nat} {c : Char} (differs : c ≠ '"') (text : List Char) :
    escape lines bare (c :: text) = escapeChar lines c ++ escape lines (if lines then 2 else 0) text := by
  rw [escape]
  exact differs

/-- What holds of the control characters among the first ones holds of all of them. -/
theorem of_control (property : Char → Prop) {c : Char} (control : isControl c = true)
    (holds : ∀ n < 128, isControl (Char.ofNat n) = true → property (Char.ofNat n)) : property c := by
  have small : c.toNat < 128 := by
    simp only [isControl, Bool.or_eq_true, Bool.and_eq_true, decide_eq_true_eq, beq_iff_eq] at control
    omega
  have here := holds c.toNat small
  rw [Char.ofNat_toNat] at here
  exact here control

theorem numbered_read {c : Char} (control : isControl c = true) :
    numbered? ((numbered c).drop 2) = some c :=
  of_control (fun c => numbered? ((numbered c).drop 2) = some c) control (by decide)

theorem resolve_escapeChar {c : Char} (differs : c ≠ '"') (rest : List Char) :
    resolve lines false (escapeChar lines c ++ rest) = (resolve lines false rest).map (c :: ·) := by
  unfold escapeChar
  split
  · rfl
  · rfl
  · cases lines
    · rfl
    · exact resolve_plain (by decide) (.inr ⟨rfl, rfl⟩) rest
  · rfl
  · rfl
  · rfl
  · split
    next control =>
      have read : numbered? ((numbered c).drop 2) = some c := numbered_read control
      simp only [numbered, List.drop_succ_cons, List.drop_zero] at read
      simp only [numbered, List.cons_append, List.nil_append, resolve, read]
      cases resolve lines false rest <;> rfl
    next plain =>
      exact resolve_plain (by assumption) (.inl (by simpa using plain)) rest

theorem resolve_escape (text : List Char) (bare : Nat) :
    resolve lines false (escape lines bare text) = some text := by
  induction text generalizing bare with
  | nil => rfl
  | cons c text ih =>
    by_cases same : c = '"'
    · subst same
      cases bare with
      | zero =>
        have escaped : resolve lines false ('\\' :: '"' :: escape lines (if lines then 2 else 0) text) =
          (resolve lines false (escape lines (if lines then 2 else 0) text)).map ('"' :: ·) := rfl
        rw [escape, escaped, ih]
        rfl
      | succ left =>
        rw [escape, resolve_plain (by decide) (.inl (by decide)), ih]
        rfl
    · rw [escape_cons same, resolve_escapeChar same, ih]
      rfl

theorem sparse_escapeChar {most left : Nat} {c : Char} {rest : List Char} (differs : c ≠ '"')
    (sparse : Sparse '"' true most most rest) : Sparse '"' true most left (escapeChar lines c ++ rest) := by
  unfold escapeChar
  split
  · exact .escaped rfl sparse
  · exact .escaped rfl sparse
  · cases lines
    · exact .escaped rfl sparse
    · exact .plain (by decide) (by decide) sparse
  · exact .escaped rfl sparse
  · exact .escaped rfl sparse
  · exact .escaped rfl sparse
  · split
    next =>
      have digit : ∀ n < 16, hexDigit n ≠ '"' ∧ hexDigit n ≠ '\\' := by decide
      have piece : ∀ n {rest}, Sparse '"' true most most rest →
          Sparse '"' true most most (hexDigit (n % 16) :: rest) := by
        intro n rest sparse
        have apart := digit (n % 16) (Nat.mod_lt n (by decide))
        exact .plain apart.1 (fun _ => apart.2) sparse
      exact .escaped rfl (piece _ (piece _ (piece _ (piece _ sparse))))
    next => exact .plain differs (fun _ => by assumption) sparse

theorem sparse_escape (lines : Bool) (text : List Char) (bare : Nat) :
    Sparse '"' true (if lines then 2 else 0) bare (escape lines bare text) := by
  induction text generalizing bare with
  | nil => exact .nil
  | cons c text ih =>
    by_cases same : c = '"'
    · subst same
      cases bare with
      | zero => exact .escaped rfl (ih _)
      | succ left => exact .quote (ih left)
    · rw [escape_cons same]
      exact sparse_escapeChar same (ih _)

end Escape

theorem hasTriple_cons {quote c : Char} {rest : List Char} (none : hasTriple quote (c :: rest) = false) :
    hasTriple quote rest = false := by
  match rest with
  | [] => rfl
  | [_] => rfl
  | _ :: _ :: _ =>
    rw [hasTriple, Bool.or_eq_false_iff] at none
    exact none.2

theorem sparse_of_hasTriple {quote : Char} {left : Nat} {text : List Char} (few : left ≤ 2)
    (none : hasTriple quote (List.replicate (2 - left) quote ++ text) = false) :
    Sparse quote false 2 left text := by
  induction text generalizing left with
  | nil => exact .nil
  | cons c text ih =>
    by_cases same : c = quote
    · subst same
      cases left with
      | zero => simp [hasTriple] at none
      | succ left =>
        have moved : List.replicate (2 - left) c ++ text =
            List.replicate (2 - (left + 1)) c ++ c :: text := by
          have more : 2 - left = 2 - (left + 1) + 1 := by omega
          rw [more, List.replicate_succ', List.append_assoc, List.singleton_append]
        exact .quote (ih (by omega) (moved ▸ none))
    · refine .plain same nofun (ih (Nat.le_refl 2) ?_)
      have suffix : ∀ count, hasTriple quote (List.replicate count quote ++ c :: text) = false →
          hasTriple quote (c :: text) = false := by
        intro count
        induction count with
        | zero => exact id
        | succ count ih => exact fun none => ih (hasTriple_cons none)
      exact hasTriple_cons (suffix _ none)

theorem sparse_of_not_mem {quote : Char} {text : List Char} (absent : quote ∉ text) :
    Sparse quote false 0 0 text := by
  induction text with
  | nil => exact .nil
  | cons c text ih =>
    rw [List.mem_cons, not_or] at absent
    exact .plain (Ne.symm absent.1) nofun (ih absent.2)

def Stands (lines : Bool) (text : List Char) : Prop :=
  ∀ c ∈ text, isControl c = false ∨ (lines = true ∧ c = '\n')

theorem Stands.isPlain {lines : Bool} {text : List Char} (stands : Stands lines text) :
    isPlain lines text = true := by
  induction text with
  | nil => rfl
  | cons c text ih =>
    have rest := ih fun d member => stands d (List.mem_cons_of_mem c member)
    rw [isPlain.eq_def]
    split
    next => rfl
    next same =>
      cases same
      obtain plain | ⟨_, feed⟩ := stands '\r' List.mem_cons_self
      · cases plain
      · cases feed
    next same =>
      cases same
      rw [rest, Bool.and_true]
      obtain plain | ⟨rfl, rfl⟩ := stands c List.mem_cons_self
      · rw [plain]; rfl
      · rfl

/-- A form that a text can be written in. -/
def Form.Suits (text : List Char) : Form → Prop
  | .basic => True
  | .literal => Stands false text ∧ '\'' ∉ text
  | .basicLines => True
  | .literalLines => Stands true text ∧ hasTriple '\'' text = false

theorem Form.choose_suits (text : List Char) : (Form.choose text).Suits text := by
  have stands : (text.any fun c => isControl c && c != '\n') = false → Stands true text := by
    intro none c member
    have here := List.any_eq_false.mp none c member
    by_cases feed : c = '\n'
    · exact .inr ⟨rfl, feed⟩
    · simp only [Bool.and_eq_true, bne_iff_ne] at here
      exact .inl (Bool.eq_false_iff.mpr fun control => here ⟨control, feed⟩)
  unfold Form.choose
  dsimp only
  split
  next => trivial
  split
  next literal =>
    simp only [Bool.and_eq_true, Bool.not_eq_true', List.contains_eq_mem, decide_eq_false_iff_not] at literal
    obtain ⟨⟨controls, single⟩, absent⟩ := literal
    refine ⟨fun c member => ?_, absent⟩
    obtain plain | ⟨_, rfl⟩ := stands controls c member
    · exact .inl plain
    · exact absurd member single
  split
  next => trivial
  split
  next literal =>
    simp only [Bool.and_eq_true, Bool.not_eq_true'] at literal
    exact ⟨stands literal.1, literal.2⟩
  split <;> trivial

theorem lineEnd?_of_head {text : List Char}
    (plain : ∀ c, text.head? = some c → isControl c = false) : lineEnd? text = none := by
  unfold lineEnd?
  split
  next => cases plain _ rfl
  next => cases plain _ rfl
  next => rfl

theorem head_escape {text : List Char} (single : '\n' ∉ text) {bare : Nat} {quote : Char} {more : List Char}
    (plain : isControl quote = false) :
    ∀ c, (escape true bare text ++ quote :: more).head? = some c → isControl c = false := by
  intro d head
  cases text with
  | nil => cases head; exact plain
  | cons c text =>
    by_cases same : c = '"'
    · subst same
      cases bare <;> (cases head; rfl)
    · rw [escape_cons same] at head
      unfold escapeChar at head
      split at head
      next => cases head; rfl
      next => cases head; rfl
      next => exact absurd List.mem_cons_self single
      next => cases head; rfl
      next => cases head; rfl
      next => cases head; rfl
      next =>
        split at head
        next => cases head; rfl
        next => cases head; exact Bool.eq_false_iff.mpr ‹_›

/-- The line end that the writer put in front is the one that the reader drops. -/
theorem opening_dropped {text written : List Char}
    (plain : '\n' ∉ text → ∀ c, written.head? = some c → isControl c = false) :
    (lineEnd? (opening text ++ written)).getD (opening text ++ written) = written := by
  unfold opening
  by_cases several : '\n' ∈ text
  · rw [List.contains_eq_mem, decide_eq_true several]
    rfl
  · rw [List.contains_eq_mem, decide_eq_false several, if_neg Bool.false_ne_true, List.nil_append,
      lineEnd?_of_head (plain several)]
    rfl

/-- A quote can neither be the first character behind a string nor be taken for part of it. -/
structure Free (rest : List Char) : Prop where
  double : Closed '"' rest
  single : Closed '\'' rest

theorem free_newline (rest : List Char) : Free ('\n' :: rest) := by
  constructor <;> simp [Closed]

theorem Sparse.begins {quote : Char} {escapes : Bool} (apart : quote ≠ '\\') {text rest : List Char}
    (sparse : Sparse quote escapes 0 0 text) (closed : Closed quote rest) :
    ∀ more, text ++ quote :: rest ≠ quote :: quote :: more := by
  intro more same
  cases sparse with
  | nil =>
    cases same
    exact closed rfl
  | plain differs => exact differs (List.cons.inj same).1
  | escaped => exact apart (List.cons.inj same).1.symm

theorem read?_line {quote : Char} (known : quote = '"' ∨ quote = '\'') {text : List Char}
    (single : ∀ more, text ≠ quote :: quote :: more) : read? (quote :: text) = readLine quote text := by
  rw [read?.eq_def]
  obtain rfl | rfl := known
  · split
    next same => exact absurd (List.cons.inj same).2 (single _)
    next same => cases same
    next same => cases same; rfl
    next same => cases same
    next others _ => exact absurd rfl (others text)
  · split
    next same => cases same
    next same => exact absurd (List.cons.inj same).2 (single _)
    next same => cases same
    next same => cases same; rfl
    next others => exact absurd rfl (others text)

theorem readLine_sparse {quote : Char} (apart : quote ≠ '\\') {text between rest : List Char}
    (sparse : Sparse quote (quote == '"') 0 0 between) (means : meaning? quote false between = some text) :
    readLine quote (between ++ quote :: rest) = some (String.ofList text, rest) := by
  rw [readLine, cut_sparse apart sparse rfl]
  simp only [bind, Option.bind, means]
  rfl

theorem readLines_sparse {quote : Char} (apart : quote ≠ '\\') {text between rest : List Char}
    (closed : Closed quote rest) (sparse : Sparse quote (quote == '"') 2 2 between)
    (means : meaning? quote true between = some text)
    (plain : '\n' ∉ text → ∀ c, (between ++ quote :: quote :: quote :: rest).head? = some c →
      isControl c = false) :
    readLines quote (opening text ++ (between ++ quote :: quote :: quote :: rest)) =
      some (String.ofList text, rest) := by
  rw [readLines, opening_dropped plain, cutLines_sparse apart sparse (Nat.le_refl 2) closed]
  simp only [bind, Option.bind, means]
  rfl

theorem read?_write {text rest : List Char} {form : Form} (suits : form.Suits text) (free : Free rest) :
    read? (form.write text ++ rest) = some (String.ofList text, rest) := by
  cases form with
  | basic =>
    have sparse : Sparse '"' true 0 0 (escape false 0 text) := sparse_escape false text 0
    have whole : Form.basic.write text ++ rest = '"' :: (escape false 0 text ++ '"' :: rest) := by
      simp [Form.write]
    rw [whole, read?_line (.inl rfl) (sparse.begins (by decide) free.double)]
    exact readLine_sparse (by decide) sparse (resolve_escape text 0)
  | literal =>
    have sparse := sparse_of_not_mem suits.2
    have whole : Form.literal.write text ++ rest = '\'' :: (text ++ '\'' :: rest) := by
      simp [Form.write]
    rw [whole, read?_line (.inr rfl) (sparse.begins (by decide) free.single)]
    exact readLine_sparse (by decide) sparse (if_pos suits.1.isPlain)
  | basicLines =>
    have whole : Form.basicLines.write text ++ rest =
        '"' :: '"' :: '"' :: (opening text ++ (escape true 2 text ++ '"' :: '"' :: '"' :: rest)) := by
      simp [Form.write]
    rw [whole]
    exact readLines_sparse (by decide) free.double (sparse_escape true text 2)
      (resolve_escape text 2) fun single => head_escape single (by decide)
  | literalLines =>
    have whole : Form.literalLines.write text ++ rest =
        '\'' :: '\'' :: '\'' :: (opening text ++ (text ++ '\'' :: '\'' :: '\'' :: rest)) := by
      simp [Form.write]
    rw [whole]
    refine readLines_sparse (by decide) free.single (sparse_of_hasTriple (Nat.le_refl 2) suits.2)
      (if_pos suits.1.isPlain) fun single c head => ?_
    cases text with
    | nil => cases head; decide
    | cons d text =>
      cases head
      obtain plain | ⟨_, rfl⟩ := suits.1 c List.mem_cons_self
      · exact plain
      · exact absurd List.mem_cons_self single

end RuleHost.Toml.Text
