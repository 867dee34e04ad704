import RuleHost.CommandLine.Finish
import RuleHost.Proofs.ConfigRoundTrip
import RuleHost.Proofs.HelloRuns

/-! What the program prints to its output. It depends on the command, the kind of console, the constant and
the greeting, and on nothing else that can be configured or asked for: how much is logged and how long the
script waits cannot be told from it. -/

namespace RuleHost.CommandLine

/-- A start of the program with words that it understands, and a configuration that it can load. -/
structure Launch where
  words : List String
  tree : Files.Tree
  named : Option String
  invocation : Invocation
  config : Config
  reads : read words = .invoke invocation
  loads : Config.resolve tree invocation.config named = .ok config

inductive Wish where
  | run (sink : Sink) (constant greeting : String)
  | functions
  | version

namespace Launch

def finish (launch : Launch) : Finish := CommandLine.finish launch.words launch.tree launch.named

def wish (launch : Launch) : Wish :=
  match launch.invocation.command with
  | .run options =>
    .run (options.sink.getD .kept) (options.constant.getD launch.config.constant) launch.config.greeting
  | .functions => .functions
  | .version => .version

end Launch

def reportLine : String := "bfalse,ffalse,ifalse,strue,timeout"

def Wish.lines : Wish → List String
  | .run .kept constant greeting => Hello.lines greeting constant ++ [reportLine]
  | .run .logged _ _ => [reportLine]
  | .functions => Global.all.map fun global => s!"{global.name} (arity {global.arity})"
  | .version => ["OHX script host 0.1.0"]

variable {words : List String} {invocation : Invocation}

theorem finish_invoke (reads : read words = .invoke invocation) (tree : Files.Tree) (named : Option String) :
    finish words tree named = invocation.finish (Config.resolve tree invocation.config named) := by
  simp only [finish, reads]

/-- What a run of the script with these options shows. -/
theorem finish_run (options : RunOptions) (level : LogLevel) (config : Config) :
    (Command.run options).finish level config =
      let played := HelloRun.finished (options.apply config) (options.apply config).services
        (options.sink.getD .kept)
      { output := lines (played.lines ++ [HelloRun.finalReport.describe])
        diagnostics := log level played.notices } := by
  have played := HelloRun.of?_echo (options.apply config) (options.apply config).services
    (options.sink.getD .kept) rfl
  unfold Command.finish
  dsimp only
  rw [played]
  rfl

theorem code_finish (command : Command) (level : LogLevel) (config : Config) :
    (command.finish level config).code = 0 := by
  cases command with
  | run options => rw [finish_run]
  | functions => rfl
  | version => rfl

/-- A folder with a configuration in one file, and nonsense in the file of the fixed name. -/
def folder (config : Config) : Files.Tree :=
  (({} : Files.Tree).put [Config.fileName] (.file "?".toUTF8)).put ["c"]
    (.file (Toml.writeSections config.sections).toUTF8)

theorem resolve_folder {config : Config} (small : config.delay.toNat < 0x8000000000000000) :
    Config.resolve (folder config) none (some "c") = .ok config := by
  have named (nodes : Table Files.Place Files.Node) : (⟨nodes, []⟩ : Files.Tree).find "c" = .ok ["c"] := by cbv
  have leads : (folder config).find "c" = .ok ["c"] := named (folder config).nodes
  have content : (folder config).read "c" = .ok (Toml.writeSections config.sections).toUTF8 := by
    simp only [Files.Tree.read, leads]
    rfl
  simp only [Config.resolve, Config.source, Config.choose, Config.load, content]
  exact Config.ofFile_toUTF8 (Config.parse?_write? (Config.write?_eq_some small))

namespace Launch

theorem finish_eq (launch : Launch) : launch.finish = launch.invocation.finish (.ok launch.config) := by
  rw [finish, finish_invoke launch.reads, launch.loads]

theorem code_eq (launch : Launch) : launch.finish.code = 0 := by
  rw [finish_eq]
  exact code_finish _ _ launch.config

theorem lines_run (options : RunOptions) (config : Config) :
    (HelloRun.finished (options.apply config) (options.apply config).services (options.sink.getD .kept)).lines ++
        [HelloRun.finalReport.describe] =
      (Wish.run (options.sink.getD .kept) (options.constant.getD config.constant) config.greeting).lines := by
  have received : (HelloRun.finished (options.apply config) (options.apply config).services
      (options.sink.getD .kept)).Received (options.sink.getD .kept)
      (Hello.lines config.greeting (options.constant.getD config.constant)) :=
    HelloRun.received_finished _
  have report : HelloRun.finalReport.describe = reportLine := rfl
  rw [received.kept, report]
  cases options.sink.getD .kept <;> rfl

theorem output_eq (launch : Launch) : launch.finish.output = CommandLine.lines launch.wish.lines := by
  rw [finish_eq]
  unfold Invocation.finish wish
  cases launch.invocation.command with
  | run options =>
    dsimp only
    rw [finish_run, ← lines_run]
  | functions => rfl
  | version => rfl

/-- Two starts of the program that ask for the same end alike and print the same, however much they log,
however long their scripts wait, and whatever else is configured. A run prints its report, and before it
the lines of the script if the console keeps them. -/
theorem output_settled (first second : Launch) (same : first.wish = second.wish) :
    first.finish.code = second.finish.code ∧ first.finish.output = second.finish.output ∧
      ∀ sink constant greeting, first.wish = .run sink constant greeting →
        first.finish.code = 0 ∧
          (sink = .logged → first.finish.output = CommandLine.lines [reportLine]) ∧
          (sink = .kept →
            first.finish.output = CommandLine.lines (Hello.lines greeting constant ++ [reportLine])) := by
  refine ⟨first.code_eq.trans second.code_eq.symm, ?_, fun sink constant greeting asked =>
    ⟨first.code_eq, ?_, ?_⟩⟩
  · rw [first.output_eq, second.output_eq, same]
  · rintro rfl
    rw [first.output_eq, asked, Wish.lines]
  · rintro rfl
    rw [first.output_eq, asked, Wish.lines]

def loud : Launch where
  words := ["run", "-v"]
  tree := folder { level := .trace, initialOutput := some "x" }
  named := some "c"
  invocation := ⟨true, none, .run {}⟩
  config := { level := .trace, initialOutput := some "x" }
  reads := by cbv
  loads := resolve_folder (by decide)

def quick : Launch where
  words := ["run", "--delay-ms", "5"]
  tree := folder { level := .error, ruleType := "action" }
  named := some "c"
  invocation := ⟨false, none, .run ⟨some 5, none, none⟩⟩
  config := { level := .error, ruleType := "action" }
  reads := by cbv
  loads := resolve_folder (by decide)

theorem output_settled_quick : loud.wish = quick.wish ∧ loud.finish.output = quick.finish.output ∧
    quick.finish.output = lines ["get_url:  get_url 17", "hello friend",
      "notifyOnThingStatesChange notifyOnThingStatesChange thing_id false", "Hello World from test.js",
      "timeout", "bfalse,ffalse,ifalse,strue,timeout"] := by
  have same : loud.wish = quick.wish := rfl
  obtain ⟨_, alike, _⟩ := output_settled loud quick same
  obtain ⟨_, _, run⟩ := output_settled quick quick rfl
  exact ⟨same, alike, (run .kept "from test.js" "hello" rfl).2.2 rfl⟩

end Launch

end RuleHost.CommandLine
