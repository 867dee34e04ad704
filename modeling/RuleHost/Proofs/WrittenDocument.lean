import RuleHost.Proofs.WrittenValue
import RuleHost.Toml.Document

/-! A document of sections that was written is read back. Each line is read for itself, whatever follows it,
and the statements of the lines add up to the tables of the sections. -/

namespace RuleHost.Toml

structure Bare (name : String) : Prop where
  nonempty : name.toList ≠ []
  bare : ∀ c ∈ name.toList, isBare c = true

theorem Bare.begins {name : String} (bare : Bare name) :
    ∃ c more, name.toList = c :: more ∧ isBare c = true := by
  cases written : name.toList with
  | nil => exact absurd written bare.nonempty
  | cons c more => exact ⟨c, more, rfl, bare.bare c (by rw [written]; exact List.mem_cons_self)⟩

theorem skipBlanks_cons {c : Char} (visible : isBlank c = false) (rest : List Char) :
    skipBlanks (c :: rest) = c :: rest :=
  List.dropWhile_cons_of_neg (by rw [visible]; exact Bool.false_ne_true)

theorem not_isBlank_of_bare {c : Char} (bare : isBare c = true) : isBlank c = false := by
  have space := ne_of_bare bare (d := ' ') (by decide)
  have tab := ne_of_bare bare (d := '\t') (by decide)
  simp [isBlank, space, tab]

theorem readKey_bare {name : String} (bare : Bare name) {c : Char} (other : isBare c = false)
    (rest : List Char) : readKey (name.toList ++ c :: rest) = some (name, c :: rest) := by
  obtain ⟨d, more, written, first⟩ := bare.begins
  have key : (name.toList ++ c :: rest).takeWhile isBare = name.toList := by
    rw [List.takeWhile_append_of_pos bare.bare, List.takeWhile_cons_of_neg (by simpa using other),
      List.append_nil]
  have apart : ∀ e, isBare e = false → ∀ tail, name.toList ++ c :: rest ≠ e :: tail := by
    intro e other tail same
    rw [written] at same
    exact ne_of_bare first other (List.cons.inj same).1
  rw [readKey]
  · simp only [key, List.drop_left, String.ofList_toList]
    rw [written]
    rfl
  · exact fun tail same => apart _ (by decide) tail same
  · exact fun tail same => apart _ (by decide) tail same

theorem readPath_bare {name : String} (bare : Bare name) {c d : Char} (other : isBare c = false)
    {rest more : List Char} (blanks : skipBlanks (c :: rest) = d :: more) (ends : d ≠ '.') (bound : Nat) :
    readPath (bound + 1) (name.toList ++ c :: rest) = some (⟨[], name⟩, d :: more) := by
  obtain ⟨e, tail, written, first⟩ := bare.begins
  have start : skipBlanks (name.toList ++ c :: rest) = name.toList ++ c :: rest := by
    rw [written, List.cons_append, skipBlanks_cons (not_isBlank_of_bare first)]
  rw [readPath, start, readKey_bare bare other]
  simp only [bind, Option.bind, blanks]
  split
  next same => exact absurd (List.cons.inj same).1 ends
  next => rfl

theorem readStatement_header {name : String} (bare : Bare name) (rest : List Char) :
    readStatement ('[' :: (name.toList ++ ']' :: rest)) = some (.header ⟨[], name⟩, rest) := by
  obtain ⟨c, more, written, first⟩ := bare.begins
  have path := readPath_bare bare (c := ']') (d := ']') (by decide)
    (skipBlanks_cons (by decide) rest) (by decide) (name.toList ++ ']' :: rest).length
  rw [readStatement.eq_def]
  split
  next same =>
    rw [written] at same
    exact absurd (List.cons.inj (List.cons.inj same).2).1 (ne_of_bare first (by decide))
  next same =>
    cases same
    simp only [bind, Option.bind, path]
    rfl
  next others => exact absurd rfl (others _)

theorem Scalar.write_begins (scalar : Scalar) :
    ∃ c more, scalar.write.toList = c :: more ∧ isBlank c = false := by
  cases scalar with
  | string text =>
    obtain ⟨quote, more, known, begins⟩ := Form.write_begins text.toList (Text.Form.choose text.toList)
    refine ⟨quote, more, by rw [write, Text.write, String.toList_ofList, begins], ?_⟩
    obtain rfl | rfl := known <;> rfl
  | natural n =>
    rw [write, Nat.toString_eq_repr, Nat.toList_repr]
    cases written : Nat.toDigits 10 n with
    | nil => exact absurd written Nat.toDigits_ne_nil
    | cons c more =>
      have digit : isDigit 10 c = true :=
        isDigit_of_mem (n := n) (by rw [written]; exact List.mem_cons_self)
      refine ⟨c, more, rfl, ?_⟩
      cases blank : isBlank c with
      | false => rfl
      | true =>
        simp only [isBlank, Bool.or_eq_true, beq_iff_eq] at blank
        obtain rfl | rfl := blank <;> cases digit

theorem readStatement_assign {key : String} (bare : Bare key) {scalar : Scalar} (fits : scalar.Fits)
    (rest : List Char) :
    readStatement (key.toList ++ ' ' :: '=' :: ' ' :: (scalar.write.toList ++ '\n' :: rest)) =
      some (.assign ⟨[], key⟩ scalar.value, '\n' :: rest) := by
  obtain ⟨c, more, written, first⟩ := bare.begins
  obtain ⟨d, tail, value, visible⟩ := scalar.write_begins
  have start : skipBlanks (' ' :: (scalar.write.toList ++ '\n' :: rest)) =
      scalar.write.toList ++ '\n' :: rest := by
    rw [value]
    exact skipBlanks_cons visible _
  have apart : ∀ tail,
      key.toList ++ ' ' :: '=' :: ' ' :: (scalar.write.toList ++ '\n' :: rest) ≠ '[' :: tail := by
    intro tail same
    rw [written] at same
    exact ne_of_bare first (by decide) (List.cons.inj same).1
  rw [readStatement]
  · rw [readPath_bare bare (d := '=') (by decide) rfl (by decide)]
    simp only [bind, Option.bind, expect, beq_self_eq_true, if_true, start, readValue_write fits]
    rfl
  · exact fun tail same => apart _ same
  · exact fun tail same => apart _ same

def Begins (line : List Char) : Prop :=
  ∃ c more, line = c :: more ∧ isBlank c = false ∧ c ≠ '#' ∧ isControl c = false

theorem skipSpace_begins {line : List Char} (begins : Begins line) (bound : Nat) (rest : List Char) :
    skipSpace (bound + 1) (line ++ rest) = some (line ++ rest) := by
  obtain ⟨c, more, rfl, visible, remark, plain⟩ := begins
  have still : lineEnd? (c :: (more ++ rest)) = none :=
    Text.lineEnd?_of_head fun d head => by cases head; exact plain
  rw [List.cons_append, skipSpace, skipBlanks_cons visible]
  split
  next same => exact absurd (List.cons.inj same).1 remark
  next => rw [still]

inductive Reads : List Char → List Statement → Prop where
  | done : Reads [] []
  | blank {text : List Char} {statements : List Statement} (rest : Reads text statements) :
      Reads ('\n' :: text) statements
  | line {line text : List Char} {statement : Statement} {statements : List Statement}
      (begins : Begins line)
      (read : ∀ rest, readStatement (line ++ '\n' :: rest) = some (statement, '\n' :: rest))
      (rest : Reads text statements) : Reads (line ++ '\n' :: text) (statement :: statements)

theorem readStatements_blank (bound : Nat) (text : List Char) :
    readStatements (bound + 1) ('\n' :: text) = readStatements (bound + 1) text := rfl

theorem Reads.statements {text : List Char} {statements : List Statement} (reads : Reads text statements)
    (bound : Nat) (enough : statements.length < bound) : readStatements bound text = some statements := by
  induction reads generalizing bound with
  | done =>
    obtain ⟨bound, rfl⟩ := Nat.exists_eq_succ_of_ne_zero (Nat.ne_of_gt enough)
    rfl
  | blank _ ih =>
    have read := ih bound enough
    obtain ⟨bound, rfl⟩ := Nat.exists_eq_succ_of_ne_zero (Nat.ne_of_gt (Nat.zero_lt_of_lt enough))
    exact (readStatements_blank bound _).trans read
  | @line line text statement statements begins read _ ih =>
    rw [List.length_cons] at enough
    obtain ⟨bound, rfl⟩ := Nat.exists_eq_succ_of_ne_zero (Nat.ne_of_gt (Nat.zero_lt_of_lt enough))
    have later := ih bound (Nat.lt_of_succ_lt_succ enough)
    obtain ⟨bound, rfl⟩ :=
      Nat.exists_eq_succ_of_ne_zero (Nat.ne_of_gt (Nat.zero_lt_of_lt (Nat.lt_of_succ_lt_succ enough)))
    have start := skipSpace_begins begins (line ++ '\n' :: text).length ('\n' :: text)
    have finish : finishLine ('\n' :: text) = some ('\n' :: text) := rfl
    rw [readStatements, start]
    simp only [bind, Option.bind]
    split
    next same => simp at same
    next =>
      rw [read]
      simp only [finish, readStatements_blank, later]
      rfl

theorem Reads.length_le {text : List Char} {statements : List Statement} (reads : Reads text statements) :
    statements.length ≤ text.length := by
  induction reads with
  | done => exact Nat.le_refl 0
  | blank _ ih => exact Nat.le_succ_of_le ih
  | line _ _ _ ih =>
    simp only [List.length_cons, List.length_append]
    omega

namespace Section

def statements (block : Section) : List Statement :=
  .header ⟨[], block.name⟩ :: block.entries.map fun (key, scalar) => .assign ⟨[], key⟩ scalar.value

def table (block : Section) : String × Value :=
  (block.name, .table (block.entries.map fun (key, scalar) => (key, scalar.value)))

/-- A section whose names need no quotes, whose keys differ and whose numbers are not too large. -/
structure Plain (block : Section) : Prop where
  name : Bare block.name
  entries : ∀ entry ∈ block.entries, Bare entry.1 ∧ entry.2.Fits
  distinct : (block.entries.map Prod.fst).Nodup

end Section

theorem begins_bare {name : String} (bare : Bare name) (rest : List Char) :
    Begins (name.toList ++ rest) := by
  obtain ⟨c, more, written, first⟩ := bare.begins
  refine ⟨c, more ++ rest, by rw [written]; rfl, not_isBlank_of_bare first, ne_of_bare first (by decide), ?_⟩
  cases control : isControl c with
  | false => rfl
  | true =>
    have other := Text.of_control (fun c => isBare c = false) control (by decide)
    rw [first] at other
    cases other

theorem reads_entries {entries : List (String × Scalar)} {text : List Char} {statements : List Statement}
    (plain : ∀ entry ∈ entries, Bare entry.1 ∧ entry.2.Fits) (rest : Reads text statements) :
    Reads ((entries.flatMap fun (key, scalar) => (key ++ " = " ++ scalar.write ++ "\n").toList) ++ text)
      ((entries.map fun (key, scalar) => Statement.assign ⟨[], key⟩ scalar.value) ++ statements) := by
  induction entries with
  | nil => exact rest
  | cons entry entries ih =>
    obtain ⟨bare, fits⟩ := plain entry List.mem_cons_self
    have later := ih fun other member => plain other (List.mem_cons_of_mem entry member)
    have line := Reads.line (begins_bare bare (' ' :: '=' :: ' ' :: entry.2.write.toList))
      (fun rest => by simpa using readStatement_assign bare fits rest) later
    simpa using line

theorem reads_section {block : Section} (plain : block.Plain) {text : List Char}
    {statements : List Statement} (rest : Reads text statements) :
    Reads (block.write.toList ++ text) (block.statements ++ statements) := by
  have begins : Begins ('[' :: (block.name.toList ++ [']'])) := ⟨_, _, rfl, by decide, by decide, by decide⟩
  have line := Reads.line begins (fun rest => by simpa using readStatement_header plain.name ('\n' :: rest))
    (reads_entries plain.entries rest)
  simpa [Section.write, Section.statements, List.flatMap_map, Function.comp_def] using line

theorem reads_sections {sections : List Section} (plain : ∀ block ∈ sections, block.Plain) :
    Reads (writeSections sections).toList (sections.flatMap Section.statements) := by
  rw [writeSections, String.toList_intercalate]
  induction sections with
  | nil => exact .done
  | cons block sections ih =>
    have first := plain block List.mem_cons_self
    have later := ih fun other member => plain other (List.mem_cons_of_mem block member)
    cases sections with
    | nil => simpa using reads_section first .done
    | cons next sections =>
      have whole := reads_section first (.blank later)
      simpa [List.intercalate_cons_cons] using whole

namespace Entries

variable {key : String} {draft : Draft} {before : Entries}

theorem find?_of_not_mem {entries : Entries} (absent : key ∉ entries.map Prod.fst) :
    entries.find? key = none := by
  rw [find?, Option.map_eq_none_iff, List.find?_eq_none]
  intro entry member same
  rw [beq_iff_eq] at same
  exact absent (List.mem_map.mpr ⟨entry, member, same⟩)

theorem find?_last (absent : key ∉ before.map Prod.fst) :
    find? key (before ++ [(key, draft)]) = some draft := by
  have none := Option.map_eq_none_iff.mp (find?_of_not_mem absent)
  rw [find?, List.find?_append, none, Option.none_or]
  simp

theorem add_last (absent : key ∉ before.map Prod.fst) :
    add key draft before = some (before ++ [(key, draft)]) := by
  rw [add, find?_of_not_mem absent]
  rfl

theorem replace_last (absent : key ∉ before.map Prod.fst) (other : Draft) :
    replace key other (before ++ [(key, draft)]) = before ++ [(key, other)] := by
  have same : before.map (fun entry => if entry.1 == key then (key, other) else entry) = before := by
    refine (List.map_congr_left fun entry member => ?_).trans (List.map_id before)
    refine if_neg fun same => absent ?_
    rw [beq_iff_eq] at same
    exact List.mem_map.mpr ⟨entry, member, same⟩
  rw [replace, List.map_append, same]
  simp

end Entries

def draftsOf (entries : List (String × Scalar)) : Entries :=
  entries.map fun (key, scalar) => (key, .value scalar.value)

def draftOf (block : Section) : String × Draft := (block.name, .table .header (draftsOf block.entries))

theorem keys_draftsOf (entries : List (String × Scalar)) :
    (draftsOf entries).map Prod.fst = entries.map Prod.fst := by
  rw [draftsOf, List.map_map]
  rfl

theorem follow_entries {before : Entries} {name : String} (absent : name ∉ before.map Prod.fst)
    (done : List (String × Scalar)) {entries : List (String × Scalar)}
    (distinct : ((done ++ entries).map Prod.fst).Nodup) :
    (entries.map fun (key, scalar) => Statement.assign ⟨[], key⟩ scalar.value).foldlM Reading.follow
        ⟨before ++ [(name, .table .header (draftsOf done))], [name]⟩ =
      some ⟨before ++ [(name, .table .header (draftsOf (done ++ entries)))], [name]⟩ := by
  induction entries generalizing done with
  | nil => rw [List.append_nil]; rfl
  | cons entry entries ih =>
    have moved : done ++ entry :: entries = done ++ [entry] ++ entries := by simp
    have fresh : entry.1 ∉ (draftsOf done).map Prod.fst := by
      rw [List.map_append, List.map_cons, List.nodup_append] at distinct
      rw [keys_draftsOf]
      exact fun member => distinct.2.2 _ member _ List.mem_cons_self rfl
    have added : Entries.add entry.1 (.value entry.2.value) (draftsOf done) =
        some (draftsOf (done ++ [entry])) := by
      rw [Entries.add_last fresh, draftsOf, draftsOf, List.map_append]
      rfl
    have step : Reading.follow ⟨before ++ [(name, .table .header (draftsOf done))], [name]⟩
        (.assign ⟨[], entry.1⟩ entry.2.value) =
          some ⟨before ++ [(name, .table .header (draftsOf (done ++ [entry])))], [name]⟩ := by
      simp only [Reading.follow, Entries.within, Entries.find?_last absent, Entries.assign, added,
        Option.map_some, Entries.replace_last absent]
      rfl
    rw [List.map_cons, List.foldlM_cons, step, moved]
    exact ih (done ++ [entry]) (moved ▸ distinct)

theorem follow_sections (before : List Section) {sections : List Section} (table : List String)
    (distinct : ((before ++ sections).map Section.name).Nodup) (plain : ∀ block ∈ sections, block.Plain) :
    ∃ last, (sections.flatMap Section.statements).foldlM Reading.follow ⟨before.map draftOf, table⟩ =
      some ⟨(before ++ sections).map draftOf, last⟩ := by
  induction sections generalizing before table with
  | nil => exact ⟨table, by rw [List.append_nil]; rfl⟩
  | cons block sections ih =>
    have moved : before ++ block :: sections = before ++ [block] ++ sections := by simp
    have fresh : block.name ∉ (before.map draftOf).map Prod.fst := by
      rw [List.map_append, List.map_cons, List.nodup_append] at distinct
      rw [List.map_map]
      exact fun member => distinct.2.2 _ member _ List.mem_cons_self rfl
    have opened : Reading.follow ⟨before.map draftOf, table⟩ (.header ⟨[], block.name⟩) =
        some ⟨before.map draftOf ++ [(block.name, .table .header (draftsOf []))], [block.name]⟩ := by
      simp only [Reading.follow, Entries.within, Entries.openTable, Entries.find?_of_not_mem fresh,
        Entries.add_last fresh]
      rfl
    have filled := follow_entries fresh [] (plain block List.mem_cons_self).distinct
    obtain ⟨last, later⟩ := ih (before ++ [block]) [block.name] (moved ▸ distinct)
      fun other member => plain other (List.mem_cons_of_mem block member)
    refine ⟨last, ?_⟩
    rw [List.flatMap_cons, Section.statements, List.cons_append, List.foldlM_cons, opened]
    change List.foldlM Reading.follow _ _ = _
    rw [List.foldlM_append, filled, moved]
    rw [List.map_append] at later
    exact later

theorem doneEntries_eq_map (entries : Entries) :
    doneEntries entries = entries.map fun (key, draft) => (key, draft.done) := by
  induction entries with
  | nil => rfl
  | cons entry rest ih => rw [doneEntries, ih, List.map_cons]

theorem withoutMark_writeSections (sections : List Section) :
    withoutMark (writeSections sections).toList = (writeSections sections).toList := by
  have front : ∀ rest, (writeSections sections).toList ≠ '\ufeff' :: rest := by
    intro rest same
    rw [writeSections, String.toList_intercalate] at same
    match sections with
    | [] => cases same
    | [block] => simp [Section.write] at same
    | block :: next :: sections => simp [Section.write, List.intercalate_cons_cons] at same
  rw [withoutMark]
  exact front

/-- Sections of different names are read back as they were written. -/
theorem parse?_writeSections {sections : List Section} (plain : ∀ block ∈ sections, block.Plain)
    (distinct : (sections.map Section.name).Nodup) :
    parse? (writeSections sections) = some (sections.map Section.table) := by
  have reads := reads_sections plain
  have statements := reads.statements _ (Nat.lt_succ_of_le reads.length_le)
  obtain ⟨last, follows⟩ := follow_sections [] [] distinct plain
  have tables : doneEntries (sections.map draftOf) = sections.map Section.table := by
    rw [doneEntries_eq_map, List.map_map]
    apply List.map_congr_left
    intro block _
    simp only [Function.comp, draftOf, Draft.done, doneEntries_eq_map, draftsOf, List.map_map]
    rfl
  rw [parse?, withoutMark_writeSections, statements]
  rw [List.map_nil, List.nil_append] at follows
  simp only [Option.bind_some, ofStatements?]
  rw [show ({} : Reading) = ⟨[], []⟩ from rfl, follows, ← tables]
  rfl

end RuleHost.Toml
