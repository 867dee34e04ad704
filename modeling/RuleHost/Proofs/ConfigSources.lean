import RuleHost.Proofs.StandardOutput

/-! Which configuration the program uses. One source is chosen, by what was asked for and what there is, and
the configuration is what that source gives. No other source takes its place if it cannot be used: then the
program fails, whatever it was asked to do. -/

namespace RuleHost

namespace Config

open Files

inductive Source where
  | asked (path : String)
  | named (path : String)
  | here
  | default

/-- The source that counts, given the file that is asked for and the one that the environment names. -/
inductive Chosen (tree : Tree) : Option String → Option String → Source → Prop where
  | asked (path : String) (named : Option String) : Chosen tree (some path) named (.asked path)
  | named (path : String) : Chosen tree none (some path) (.named path)
  | here {place : Place} {node : Node} (leads : tree.find fileName = .ok place)
      (present : tree.node? place = some node) : Chosen tree none none .here
  | default (absent : ∀ place node, tree.find fileName = .ok place → tree.node? place ≠ some node) :
      Chosen tree none none .default

inductive Loads (tree : Tree) (path : String) : Except ConfigError Config → Prop where
  | unreadable {cause : FileError} (refused : tree.read path = .error cause) :
      Loads tree path (.error (.file path cause))
  | notText {bytes : ByteArray} (content : tree.read path = .ok bytes)
      (broken : ∀ text : String, bytes ≠ text.toUTF8) : Loads tree path (.error (.file path .notText))
  | malformed {text : String} (content : tree.read path = .ok text.toUTF8) (undecoded : parse? text = none) :
      Loads tree path (.error .parse)
  | loaded {text : String} {config : Config} (content : tree.read path = .ok text.toUTF8)
      (decoded : parse? text = some config) : Loads tree path (.ok config)

def Source.Gives (tree : Tree) : Source → Except ConfigError Config → Prop
  | .asked path => Loads tree path
  | .named path => Loads tree path
  | .here => Loads tree fileName
  | .default => (· = .ok {})

/-- A configuration with the delay and the constant that are asked for, if they are. -/
structure Overridden (options : CommandLine.RunOptions) (loaded effective : Config) : Prop where
  delay : ∀ delay, options.delay = some delay → effective.delay = delay
  delayKept : options.delay = none → effective.delay = loaded.delay
  constant : ∀ constant, options.constant = some constant → effective.constant = constant
  constantKept : options.constant = none → effective.constant = loaded.constant
  initialOutput : effective.initialOutput = loaded.initialOutput
  level : effective.level = loaded.level
  greeting : effective.greeting = loaded.greeting
  ruleType : effective.ruleType = loaded.ruleType

variable {tree : Tree} {asked named : Option String}

theorem contains_iff {path : String} : tree.contains path = true ↔
    ∃ place node, tree.find path = .ok place ∧ tree.node? place = some node := by
  unfold Tree.contains
  split
  next place found => rw [found, Option.isSome_iff_exists]; simp
  next cause refused => simp [refused]

theorem Chosen.unique {first second : Source} (one : Chosen tree asked named first)
    (other : Chosen tree asked named second) : first = second := by
  cases one with
  | asked => cases other; rfl
  | named => cases other; rfl
  | here leads present =>
    cases other with
    | here => rfl
    | default absent => exact absurd present (absent _ _ leads)
  | default absent =>
    cases other with
    | here leads present => exact absurd present (absent _ _ leads)
    | default => rfl

theorem fromUTF8?_toUTF8 (text : String) : String.fromUTF8? text.toUTF8 = some text :=
  dif_pos text.isValidUTF8

theorem toUTF8_injective {text other : String} (same : text.toUTF8 = other.toUTF8) : text = other := by
  have decoded := fromUTF8?_toUTF8 text
  rw [same, fromUTF8?_toUTF8] at decoded
  exact (Option.some.inj decoded).symm

theorem loads_load (tree : Tree) (path : String) : Loads tree path (load tree path) := by
  unfold load
  cases content : tree.read path with
  | error cause => exact .unreadable content
  | ok bytes =>
    cases decoded : String.fromUTF8? bytes with
    | none =>
      simp only [ofFile, decoded]
      refine .notText content fun text same => ?_
      rw [same, fromUTF8?_toUTF8] at decoded
      cases decoded
    | some text =>
      have same : bytes = text.toUTF8 := by
        unfold String.fromUTF8? at decoded
        split at decoded
        next valid =>
          cases decoded
          rfl
        next => cases decoded
      rw [same] at content
      cases parsed : parse? text with
      | none =>
        simp only [ofFile, decoded, parsed]
        exact .malformed content parsed
      | some config =>
        simp only [ofFile, decoded, parsed]
        exact .loaded content parsed

theorem Loads.unique {path : String} {first second : Except ConfigError Config}
    (one : Loads tree path first) (other : Loads tree path second) : first = second := by
  have text {content : Except FileError ByteArray} {a b : String} (left : content = .ok a.toUTF8)
      (right : content = .ok b.toUTF8) : a = b :=
    toUTF8_injective (Except.ok.inj (left.symm.trans right))
  cases one with
  | unreadable refused =>
    cases other with
    | unreadable again => rw [Except.error.inj (refused.symm.trans again)]
    | notText content | malformed content | loaded content => cases refused.symm.trans content
  | notText content broken =>
    cases other with
    | unreadable refused => cases refused.symm.trans content
    | notText => rfl
    | malformed again | loaded again => exact absurd (Except.ok.inj (content.symm.trans again)) (broken _)
  | malformed content undecoded =>
    cases other with
    | unreadable refused => cases refused.symm.trans content
    | notText again broken => exact absurd (Except.ok.inj (again.symm.trans content)) (broken _)
    | malformed => rfl
    | loaded again decoded =>
      rw [text again content, undecoded] at decoded
      cases decoded
  | loaded content decoded =>
    cases other with
    | unreadable refused => cases refused.symm.trans content
    | notText again broken => exact absurd (Except.ok.inj (again.symm.trans content)) (broken _)
    | malformed again undecoded =>
      rw [text content again, undecoded] at decoded
      cases decoded
    | loaded again also =>
      rw [text again content, decoded] at also
      rw [Option.some.inj also]

theorem Source.Gives.unique {source : Source} {first second : Except ConfigError Config}
    (one : source.Gives tree first) (other : source.Gives tree second) : first = second := by
  cases source with
  | asked path => exact Loads.unique one other
  | named path => exact Loads.unique one other
  | here => exact Loads.unique one other
  | default => exact Eq.trans one (Eq.symm other)

/-- The source that is chosen decides, and nothing is asked of another one. -/
theorem resolve_chosen (tree : Tree) (asked named : Option String) :
    ∃ source, Chosen tree asked named source ∧ source.Gives tree (resolve tree asked named) := by
  unfold resolve source choose
  match asked, named with
  | some path, named => exact ⟨_, .asked path named, loads_load tree path⟩
  | none, some path => exact ⟨_, .named path, loads_load tree path⟩
  | none, none =>
    cases present : tree.contains fileName with
    | true =>
      obtain ⟨place, node, leads, found⟩ := contains_iff.mp present
      exact ⟨_, .here leads found, loads_load tree fileName⟩
    | false =>
      refine ⟨_, .default fun place node leads found => ?_, rfl⟩
      have there := contains_iff.mpr ⟨place, node, leads, found⟩
      cases present.symm.trans there

theorem overridden_apply (options : CommandLine.RunOptions) (config : Config) :
    Overridden options config (options.apply config) where
  delay _ given := by simp only [CommandLine.RunOptions.apply, given, Option.getD_some]
  delayKept absent := by simp only [CommandLine.RunOptions.apply, absent, Option.getD_none]
  constant _ given := by simp only [CommandLine.RunOptions.apply, given, Option.getD_some]
  constantKept absent := by simp only [CommandLine.RunOptions.apply, absent, Option.getD_none]
  initialOutput := rfl
  level := rfl
  greeting := rfl
  ruleType := rfl

end Config

namespace Config

open CommandLine

/-- A command line that can be understood is carried out with what the chosen source gives. If that is an
error the program prints nothing and ends with 1; otherwise it ends with 0, and a run takes its delay and its
constant from the command line if they are given there and everything else from what was loaded. -/
theorem sources_decide {words : List String} {invocation : Invocation}
    (reads : CommandLine.read words = .invoke invocation) (tree : Files.Tree) (named : Option String) :
    ∃ source outcome, (∀ other, Chosen tree invocation.config named other ↔ other = source) ∧
      (∀ other, source.Gives tree other ↔ other = outcome) ∧ resolve tree invocation.config named = outcome ∧
      (∀ error, outcome = .error error →
        (finish words tree named).code = 1 ∧ (finish words tree named).output = "") ∧
      ∀ loaded, outcome = .ok loaded →
        (finish words tree named).code = 0 ∧
        ∀ options, invocation.command = .run options →
          ∃ effective played report, Overridden options loaded effective ∧
            HelloRun.of? effective effective.services (options.sink.getD .kept) = some played ∧
            played.result = .ok report ∧
            (finish words tree named).output = lines (played.lines ++ [report.describe]) ∧
            (finish words tree named).diagnostics = about invocation.verbose ++
              log (logLevel invocation.verbose loaded) played.notices := by
  obtain ⟨source, chosen, gives⟩ := resolve_chosen tree invocation.config named
  refine ⟨source, _, fun other => ⟨fun again => again.unique chosen, ?_⟩,
    fun other => ⟨fun again => again.unique gives, ?_⟩, rfl, fun error failed => ?_,
    fun loaded succeeded => ?_⟩
  · rintro rfl
    exact chosen
  · rintro rfl
    exact gives
  · rw [finish_invoke reads, failed]
    exact ⟨rfl, rfl⟩
  · rw [finish_invoke reads, succeeded]
    refine ⟨code_finish invocation.command _ loaded, fun options asked => ?_⟩
    have shown := finish_run options (logLevel invocation.verbose loaded) loaded
    refine ⟨options.apply loaded, _, HelloRun.finalReport, overridden_apply options loaded,
      HelloRun.of?_echo _ _ _ rfl, rfl, ?_, ?_⟩
    · simp only [Invocation.finish, asked, shown]
    · simp only [Invocation.finish, asked, shown]

theorem sources_decide_folder :
    CommandLine.read ["run", "--delay-ms", "5"] = .invoke ⟨false, none, .run ⟨some 5, none, none⟩⟩ ∧
    ((finish ["run", "--delay-ms", "5"] (folder {}) (some "")).code = 1 ∧
      (finish ["run", "--delay-ms", "5"] (folder {}) (some "")).output = "") ∧
    (finish ["run", "--delay-ms", "5"] (folder { greeting := "moin" }) (some "c")).code = 0 ∧
    ∃ effective, Overridden ⟨some 5, none, none⟩ { greeting := "moin" } effective ∧ effective.delay = 5 := by
  have reads : CommandLine.read ["run", "--delay-ms", "5"] =
    .invoke ⟨false, none, .run ⟨some 5, none, none⟩⟩ := by cbv
  have nowhere : resolve (folder {}) none (some "") = .error (.file "" .notFound) := rfl
  have loaded : resolve (folder { greeting := "moin" }) none (some "c") = .ok { greeting := "moin" } :=
    resolve_folder (by decide)
  refine ⟨reads, ?_, ?_⟩
  · obtain ⟨_, outcome, _, _, same, failed, _⟩ := sources_decide reads (folder {}) (some "")
    exact failed _ (same.symm.trans nowhere)
  · obtain ⟨_, outcome, _, _, same, _, succeeded⟩ :=
      sources_decide reads (folder { greeting := "moin" }) (some "c")
    obtain ⟨code, runs⟩ := succeeded _ (same.symm.trans loaded)
    obtain ⟨effective, _, _, overridden, _⟩ := runs _ rfl
    exact ⟨code, effective, overridden, overridden.delay 5 rfl⟩

end Config
end RuleHost
