import Mathlib.Data.List.Nodup
import Mathlib.Data.Option.Basic
import Mathlib.Logic.Relation
import RuleHost.Proofs.ConfigRoundTrip

/-! What a document says about each field of a configuration. A field comes from the value under its own key
and from nothing else in the document; where the key is missing it has its default. -/

namespace RuleHost

namespace Toml

variable {key name : String} {value : Value} {front rest entries others : List (String × Value)}

theorem find?_cons : find? key ((name, value) :: rest) = if name = key then some value else find? key rest := by
  simp only [find?, List.find?_cons]
  split
  next same => rw [if_pos (by simpa using same)]; rfl
  next other => rw [if_neg (by simpa using other)]

theorem find?_append : find? key (front ++ rest) = (find? key front).or (find? key rest) := by
  rw [find?, List.find?_append, Option.map_or, find?, find?]

/-- An entry of another key is passed over. -/
theorem find?_of_ne (other : name ≠ key) :
    find? key (front ++ (name, value) :: rest) = find? key (front ++ rest) := by
  rw [find?_append, find?_append, find?_cons, if_neg other]

theorem find?_eq_some_iff_mem (distinct : (entries.map Prod.fst).Nodup) :
    find? key entries = some value ↔ (key, value) ∈ entries := by
  induction entries with
  | nil => simp [find?]
  | cons entry rest ih =>
    obtain ⟨name, held⟩ := entry
    obtain ⟨fresh, distinct⟩ := List.nodup_cons.mp distinct
    rw [find?_cons, List.mem_cons, Prod.mk.injEq]
    split
    next same =>
      have gone : (key, value) ∉ rest := fun member => fresh (List.mem_map.mpr ⟨_, member, same.symm⟩)
      simp [same, gone, eq_comm]
    next other => simp [Ne.symm other, ih distinct]

/-- The order of the entries of a table means nothing. -/
theorem find?_perm (perm : entries.Perm others) (distinct : (entries.map Prod.fst).Nodup) :
    find? key entries = find? key others :=
  Option.ext fun value => by
    rw [find?_eq_some_iff_mem distinct, find?_eq_some_iff_mem ((perm.map Prod.fst).nodup_iff.mp distinct),
      perm.mem_iff]

end Toml

namespace Config

/-- The sections with their keys in the order in which the fields are declared. -/
def layout : List (String × List String) :=
  [("script", ["a_string", "delay_ms", "initial_output"]), ("log", ["level"]), ("host", ["greeting", "rule_type"])]

/-- How a level can be written. -/
inductive Spells : Toml.Value → LogLevel → Prop where
  | name (level : LogLevel) : Spells (.string level.name) level
  | emptyTable (level : LogLevel) : Spells (.table [(level.name, .table [])]) level
  | emptyArray (level : LogLevel) : Spells (.table [(level.name, .array [])]) level

inductive Key where
  | constant | delay | initialOutput | level | greeting | ruleType

def Key.place : Key → String × String
  | .constant => ("script", "a_string")
  | .delay => ("script", "delay_ms")
  | .initialOutput => ("script", "initial_output")
  | .level => ("log", "level")
  | .greeting => ("host", "greeting")
  | .ruleType => ("host", "rule_type")

def Key.Suits (value : Toml.Value) : Key → Prop
  | .constant | .initialOutput | .greeting | .ruleType => ∃ text, value = .string text
  | .delay => ∃ number : Int, 0 ≤ number ∧ number ≤ 0xffffffffffffffff ∧ value = .integer number
  | .level => ∃ level, Spells value level

/-- What a field holds, given what a value stands for, the default, and the value under the key of the field if
there is one. -/
inductive Field {α : Type} (stands : Toml.Value → α → Prop) (default : α) :
    Option Toml.Value → α → Prop where
  | absent : Field stands default none default
  | present {value : Toml.Value} {field : α} (stood : stands value field) :
    Field stands default (some value) field

def Tabular (document : List (String × Toml.Value)) : Prop :=
  ∀ part ∈ layout.map Prod.fst, ∀ value, Toml.find? part document = some value →
    ∃ entries, value = .table entries

def valueOf? (document : List (String × Toml.Value)) (key : Key) : Option Toml.Value :=
  match Toml.find? key.place.1 document with
  | some (.table entries) => Toml.find? key.place.2 entries
  | _ => none

/-- The configuration has each field from the key of the field. -/
structure Decoded (document : List (String × Toml.Value)) (config : Config) : Prop where
  constant : Field (fun value text => value = .string text) "from test.js" (valueOf? document .constant)
    config.constant
  delay : Field (fun value delay => value = .integer delay.toNat) 1000 (valueOf? document .delay) config.delay
  initialOutput : Field (fun value output => ∃ text, value = .string text ∧ output = some text) none
    (valueOf? document .initialOutput) config.initialOutput
  level : Field Spells .info (valueOf? document .level) config.level
  greeting : Field (fun value text => value = .string text) "hello" (valueOf? document .greeting) config.greeting
  ruleType : Field (fun value text => value = .string text) "condition" (valueOf? document .ruleType) config.ruleType

/-- Changes of a document that mean nothing: tables and keys of other names come and go, the order of tables
and of keys changes, and a section lists its values instead of naming them. -/
inductive Immaterial : List (String × Toml.Value) → List (String × Toml.Value) → Prop where
  | table {name : String} (unknown : name ∉ layout.map Prod.fst) (value : Toml.Value)
      (front rest : List (String × Toml.Value)) : Immaterial (front ++ (name, value) :: rest) (front ++ rest)
  | key {part name : String} {keys : List String} (known : (part, keys) ∈ layout) (unknown : name ∉ keys)
      (value : Toml.Value) (before after front rest : List (String × Toml.Value)) :
      Immaterial (front ++ (part, .table (before ++ (name, value) :: after)) :: rest)
        (front ++ (part, .table (before ++ after)) :: rest)
  | tables {document other : List (String × Toml.Value)} (distinct : (document.map Prod.fst).Nodup)
      (perm : document.Perm other) : Immaterial document other
  | keys {part : String} {entries others : List (String × Toml.Value)}
      (distinct : (entries.map Prod.fst).Nodup) (perm : entries.Perm others)
      (front rest : List (String × Toml.Value)) :
      Immaterial (front ++ (part, .table entries) :: rest) (front ++ (part, .table others) :: rest)
  | list {part : String} {keys : List String} (known : (part, keys) ∈ layout) {items : List Toml.Value}
      (few : items.length ≤ keys.length) (front rest : List (String × Toml.Value)) :
      Immaterial (front ++ (part, .array items) :: rest) (front ++ (part, .table (keys.zip items)) :: rest)

variable {document other : List (String × Toml.Value)} {value : Toml.Value}

theorem text?_eq_some_iff {text : String} : text? value = some text ↔ value = .string text := by
  cases value <;> simp [text?]

theorem delay?_eq_some_iff {delay : UInt64} : delay? value = some delay ↔ value = .integer delay.toNat := by
  refine ⟨fun read => ?_, fun same => same ▸ delay?_toNat delay⟩
  cases value with
  | integer number =>
    rw [delay?] at read
    split at read
    next fits =>
      cases read
      simp only [Bool.and_eq_true, decide_eq_true_eq] at fits
      rw [UInt64.toNat_ofNat_of_lt' fits.2, Int.toNat_of_nonneg fits.1]
    next => cases read
  | _ => cases read

theorem name_of_ofName? {name : String} {level : LogLevel} (named : LogLevel.ofName? name = some level) :
    name = level.name := by
  have same := List.find?_some named
  exact (beq_iff_eq.mp same).symm

theorem isEmpty_iff : isEmpty value = true ↔ value = .table [] ∨ value = .array [] := by
  cases value <;> simp [isEmpty]

theorem level?_eq_some_iff {level : LogLevel} : level? value = some level ↔ Spells value level := by
  constructor
  · intro read
    unfold level? at read
    split at read
    next name => exact name_of_ofName? read ▸ .name level
    next name content =>
      split at read
      next empty =>
        obtain rfl | rfl := isEmpty_iff.mp empty
        · exact name_of_ofName? read ▸ .emptyTable level
        · exact name_of_ofName? read ▸ .emptyArray level
      next => cases read
    next => cases read
  · rintro (_ | _ | _) <;> simp [level?, isEmpty, ofName?_name]

theorem read_eq_some_iff {α : Type} {decode? : Toml.Value → Option α} {stands : Toml.Value → α → Prop}
    (decodes : ∀ {value field}, decode? value = some field ↔ stands value field) {default field : α}
    {key : String} {entries : List (String × Toml.Value)} :
    read decode? default key entries = some field ↔ Field stands default (Toml.find? key entries) field := by
  unfold read
  generalize Toml.find? key entries = found
  constructor
  · intro read
    cases found with
    | none => cases read; exact .absent
    | some value => exact .present (decodes.mp read)
  · rintro (_ | stood)
    · rfl
    · exact decodes.mpr stood

theorem Field.exists_iff {α : Type} {stands : Toml.Value → α → Prop} {default : α}
    {found : Option Toml.Value} :
    (∃ field, Field stands default found field) ↔
      ∀ value, found = some value → ∃ field, stands value field := by
  constructor
  · rintro ⟨_, _ | stood⟩ value same
    · cases same
    · cases same
      exact ⟨_, stood⟩
  · intro suits
    cases found with
    | none => exact ⟨_, .absent⟩
    | some value =>
      obtain ⟨_, stood⟩ := suits value rfl
      exact ⟨_, .present stood⟩

/-- A document whose sections are tables has entries for each section, though they may be none. -/
theorem Tabular.entries (tabular : Tabular document) {part : String} (known : part ∈ layout.map Prod.fst)
    (keys : List String) : ∃ entries, section? keys (Toml.find? part document) = some entries ∧
      ∀ (key : Key) {name : String}, key.place = (part, name) →
        valueOf? document key = Toml.find? name entries := by
  unfold valueOf?
  cases found : Toml.find? part document with
  | none => exact ⟨[], rfl, fun key name placed => by rw [placed, found]; rfl⟩
  | some value =>
    obtain ⟨entries, rfl⟩ := tabular part known value found
    exact ⟨entries, rfl, fun key name placed => by rw [placed, found]⟩

theorem ofTable?_eq_some_iff (tabular : Tabular document) {config : Config} :
    ofTable? document = some config ↔ Decoded document config := by
  obtain ⟨script, foundScript, ofScript⟩ :=
    tabular.entries (by decide : "script" ∈ layout.map Prod.fst) scriptKeys
  obtain ⟨log, foundLog, ofLog⟩ := tabular.entries (by decide : "log" ∈ layout.map Prod.fst) logKeys
  obtain ⟨host, foundHost, ofHost⟩ := tabular.entries (by decide : "host" ∈ layout.map Prod.fst) hostKeys
  have toOutput : ∀ {value : Toml.Value} {output : Option String},
      (text? value).map some = some output ↔ ∃ text, value = .string text ∧ output = some text := by
    simp only [Option.map_eq_some_iff, text?_eq_some_iff, @eq_comm _ (some _), implies_true]
  simp only [ofTable?, foundScript, foundLog, foundHost, Option.bind_eq_bind, Option.bind_some,
    Option.bind_eq_some_iff, read_eq_some_iff text?_eq_some_iff, read_eq_some_iff delay?_eq_some_iff,
    read_eq_some_iff level?_eq_some_iff, read_eq_some_iff toOutput]
  rw [← ofScript .constant rfl, ← ofScript .delay rfl, ← ofScript .initialOutput rfl, ← ofLog .level rfl,
    ← ofHost .greeting rfl, ← ofHost .ruleType rfl]
  constructor
  · rintro ⟨_, constant, _, delay, _, initialOutput, _, level, _, greeting, _, ruleType, made⟩
    cases made
    exact ⟨constant, delay, initialOutput, level, greeting, ruleType⟩
  · rintro ⟨constant, delay, initialOutput, level, greeting, ruleType⟩
    exact ⟨_, constant, _, delay, _, initialOutput, _, level, _, greeting, _, ruleType, rfl⟩

theorem suits_delay_iff :
    Key.Suits value .delay ↔ ∃ delay : UInt64, value = .integer delay.toNat := by
  constructor
  · rintro ⟨number, least, small, rfl⟩
    have fits : number.toNat < UInt64.size := by
      rw [UInt64.size]
      omega
    exact ⟨.ofNat number.toNat, by rw [UInt64.toNat_ofNat_of_lt' fits, Int.toNat_of_nonneg least]⟩
  · rintro ⟨delay, rfl⟩
    exact ⟨_, Int.natCast_nonneg _, Int.le_of_lt_add_one (Int.ofNat_lt.mpr delay.toNat_lt), rfl⟩

/-- A document holds a configuration unless one of the keys has a value that does not suit it. -/
theorem isSome_ofTable?_iff (tabular : Tabular document) :
    (ofTable? document).isSome ↔ ∀ key value, valueOf? document key = some value → key.Suits value := by
  simp only [Option.isSome_iff_exists, ofTable?_eq_some_iff tabular]
  constructor
  · rintro ⟨config, constant, delay, initialOutput, level, greeting, ruleType⟩ key value found
    cases key with
    | constant => exact Field.exists_iff.mp ⟨_, constant⟩ value found
    | delay => exact suits_delay_iff.mpr (Field.exists_iff.mp ⟨_, delay⟩ value found)
    | initialOutput =>
      obtain ⟨_, text, same, _⟩ := Field.exists_iff.mp ⟨_, initialOutput⟩ value found
      exact ⟨text, same⟩
    | level => exact Field.exists_iff.mp ⟨_, level⟩ value found
    | greeting => exact Field.exists_iff.mp ⟨_, greeting⟩ value found
    | ruleType => exact Field.exists_iff.mp ⟨_, ruleType⟩ value found
  · intro suits
    obtain ⟨_, constant⟩ := Field.exists_iff.mpr (suits .constant)
    obtain ⟨_, delay⟩ := Field.exists_iff.mpr fun value found => suits_delay_iff.mp (suits .delay value found)
    have outputs (value : Toml.Value) (found : valueOf? document .initialOutput = some value) :
        ∃ output : Option String, ∃ text, value = .string text ∧ output = some text := by
      obtain ⟨text, same⟩ := suits .initialOutput value found
      exact ⟨some text, text, same, rfl⟩
    obtain ⟨_, initialOutput⟩ := Field.exists_iff.mpr outputs
    obtain ⟨_, level⟩ := Field.exists_iff.mpr (suits .level)
    obtain ⟨_, greeting⟩ := Field.exists_iff.mpr (suits .greeting)
    obtain ⟨_, ruleType⟩ := Field.exists_iff.mpr (suits .ruleType)
    exact ⟨⟨_, _, _, _, _, _⟩, constant, delay, initialOutput, level, greeting, ruleType⟩

def Agree (keys : List String) (entries others : List (String × Toml.Value)) : Prop :=
  ∀ key ∈ keys, Toml.find? key entries = Toml.find? key others

/-- Documents with the same values under every known key, and the same sections that are none. -/
def Equivalent (document other : List (String × Toml.Value)) : Prop :=
  ∀ part keys, (part, keys) ∈ layout →
    Option.Rel (Agree keys) (section? keys (Toml.find? part document)) (section? keys (Toml.find? part other))

theorem Agree.refl (keys : List String) (value : Option Toml.Value) :
    Option.Rel (Agree keys) (section? keys value) (section? keys value) := by
  cases section? keys value with
  | none => exact .none
  | some entries => exact .some fun _ _ => rfl

theorem Equivalent.ofTable? (same : Equivalent document other) :
    Config.ofTable? document = Config.ofTable? other := by
  have script := same "script" scriptKeys (by simp [layout, scriptKeys])
  have log := same "log" logKeys (by simp [layout, logKeys])
  have host := same "host" hostKeys (by simp [layout, hostKeys])
  unfold Config.ofTable?
  generalize section? scriptKeys (Toml.find? "script" document) = scriptOf at script ⊢
  generalize section? scriptKeys (Toml.find? "script" other) = otherScript at script ⊢
  generalize section? logKeys (Toml.find? "log" document) = logOf at log ⊢
  generalize section? logKeys (Toml.find? "log" other) = otherLog at log ⊢
  generalize section? hostKeys (Toml.find? "host" document) = hostOf at host ⊢
  generalize section? hostKeys (Toml.find? "host" other) = otherHost at host ⊢
  obtain script | _ := script
  · obtain log | _ := log
    · obtain host | _ := host
      · simp only [Option.bind_eq_bind, Option.bind_some, read, script _ (by decide : "a_string" ∈ scriptKeys),
          script _ (by decide : "delay_ms" ∈ scriptKeys), script _ (by decide : "initial_output" ∈ scriptKeys),
          log _ (by decide : "level" ∈ logKeys), host _ (by decide : "greeting" ∈ hostKeys),
          host _ (by decide : "rule_type" ∈ hostKeys)]
      · rfl
    · rfl
  · rfl

/-- Another value in a place makes no difference if the section that it may be does not. -/
theorem Equivalent.of_value {part : String} {value changed : Toml.Value}
    (same : ∀ keys, (part, keys) ∈ layout →
      Option.Rel (Agree keys) (section? keys (some value)) (section? keys (some changed)))
    (front rest : List (String × Toml.Value)) :
    Equivalent (front ++ (part, value) :: rest) (front ++ (part, changed) :: rest) := by
  intro name keys known
  by_cases named : part = name
  · subst named
    rw [Toml.find?_append, Toml.find?_append, Toml.find?_cons, Toml.find?_cons, if_pos rfl, if_pos rfl]
    cases Toml.find? part front with
    | none => exact same keys known
    | some first => exact Agree.refl keys _
  · rw [Toml.find?_of_ne named, Toml.find?_of_ne named]
    exact Agree.refl keys _

theorem layout_unique {part : String} {keys others : List String} (known : (part, keys) ∈ layout)
    (again : (part, others) ∈ layout) : keys = others := by
  have distinct : (layout.map Prod.fst).Nodup := by decide
  exact congrArg Prod.snd (List.inj_on_of_nodup_map distinct known again rfl)

theorem Immaterial.equivalent (change : Immaterial document other) : Equivalent document other := by
  cases change with
  | table unknown value front rest =>
    intro part keys known
    have apart := ne_of_mem_of_not_mem (List.mem_map_of_mem known) unknown
    rw [Toml.find?_of_ne apart.symm]
    exact Agree.refl keys _
  | key known unknown value before after front rest =>
    refine .of_value (fun keys again => .some fun key member => ?_) front rest
    rw [layout_unique again known] at member
    exact Toml.find?_of_ne (ne_of_mem_of_not_mem member unknown).symm
  | tables distinct perm =>
    intro part keys known
    rw [Toml.find?_perm perm distinct]
    exact Agree.refl keys _
  | keys distinct perm front rest =>
    exact .of_value (fun _ _ => .some fun _ _ => Toml.find?_perm perm distinct) front rest
  | list known few front rest =>
    refine .of_value (fun keys again => ?_) front rest
    rw [layout_unique again known]
    exact .some fun _ _ => rfl

theorem ofTable?_eq_of_immaterial (changes : Relation.EqvGen Immaterial document other) :
    ofTable? document = ofTable? other := by
  induction changes with
  | rel document other change => exact change.equivalent.ofTable?
  | refl => rfl
  | symm document other _ ih => exact ih.symm
  | trans document middle other _ _ first second => exact first.trans second

/-- A document whose sections are tables, where it has them, holds a configuration just if every key it has of
those that mean something has a value that suits it. Each field then comes from its own key. No change that
means nothing makes a difference to a document, whatever its sections are. -/
theorem ofTable?_fieldwise (document : List (String × Toml.Value)) :
    (Tabular document →
        ((ofTable? document).isSome ↔ ∀ key value, valueOf? document key = some value → key.Suits value) ∧
          ∀ config, ofTable? document = some config ↔ Decoded document config) ∧
      (∀ other, Relation.EqvGen Immaterial document other → ofTable? other = ofTable? document) ∧
      ∀ text, Toml.parse? text = some document → parse? text = ofTable? document := by
  refine ⟨fun tabular => ⟨isSome_ofTable?_iff tabular, fun _ => ofTable?_eq_some_iff tabular⟩, ?_, ?_⟩
  · intro other changes
    exact (ofTable?_eq_of_immaterial changes).symm
  · intro text parsed
    rw [parse?, parsed, Option.bind_some]

/-- A document with a key and a table that mean nothing, a level in its longer form, and a section that lists
its values. -/
def mixed : List (String × Toml.Value) :=
  [("host", .array [.string "hi"]), ("other", .bool true), ("log", .table [("level", .table [("warn", .table [])])]),
    ("script", .table [("delay_ms", .integer 0xffffffffffffffff), ("speed", .integer (-1))])]

def mixedAsTables : List (String × Toml.Value) :=
  [("host", .table [("greeting", .string "hi")]), ("other", .bool true),
    ("log", .table [("level", .table [("warn", .table [])])]),
    ("script", .table [("delay_ms", .integer 0xffffffffffffffff), ("speed", .integer (-1))])]

theorem ofTable?_fieldwise_mixed :
    Tabular mixedAsTables ∧ Relation.EqvGen Immaterial mixedAsTables mixed ∧
      ofTable? mixed = some { greeting := "hi", level := .warn, delay := 0xffffffffffffffff } := by
  have tabular : Tabular mixedAsTables := by
    intro part known value found
    simp only [layout, List.map_cons, List.map_nil, List.mem_cons, List.not_mem_nil, or_false] at known
    obtain rfl | rfl | rfl := known <;> cases found <;> exact ⟨_, rfl⟩
  have known : ("host", ["greeting", "rule_type"]) ∈ layout := by simp [layout]
  have few : [Toml.Value.string "hi"].length ≤ ["greeting", "rule_type"].length := by decide
  have listed : Relation.EqvGen Immaterial mixedAsTables mixed := .symm _ _ (.rel _ _ (.list known few [] _))
  obtain ⟨decodes, changes, _⟩ := ofTable?_fieldwise mixedAsTables
  refine ⟨tabular, listed, (changes mixed listed).trans (((decodes tabular).2 _).mpr ?_)⟩
  exact ⟨.absent, .present rfl, .absent, .present (.emptyTable .warn), .present rfl, .absent⟩

/-- An empty array does in place of the empty table, so that a level has a spelling which is neither its name
nor a table with an empty table under its name. -/
theorem ofTable?_level_emptyArray :
    let spelled := Toml.Value.table [("debug", .array [])]
    let document := [("log", Toml.Value.table [("level", spelled)])]
    Tabular document ∧ valueOf? document .level = some spelled ∧
      ofTable? document = some { level := .debug } ∧
      parse? "[log]\nlevel = {debug = []}\n" = some { level := .debug } ∧
      (∀ level : LogLevel, spelled ≠ .string level.name) ∧
      ∀ level : LogLevel, spelled ≠ .table [(level.name, .table [])] := by
  refine ⟨?_, rfl, rfl, by decide +kernel, nofun, ?_⟩
  · intro part known value found
    simp only [layout, List.map_cons, List.map_nil, List.mem_cons, List.not_mem_nil, or_false] at known
    obtain rfl | rfl | rfl := known <;> cases found
    exact ⟨_, rfl⟩
  · intro level same
    simp at same

end Config
end RuleHost
