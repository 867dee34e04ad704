import RuleHost.Proofs.HostDispatch

/-! What a call of a global can change. A call that fails changes nothing; one that succeeds changes at
most the store of the service that the global belongs to, and of the variables of a rule at most the one
that it names. -/

namespace RuleHost

/-- The services, as far as each of them has a store of its own. -/
inductive Port where
  | urls | greeter | notifier | things | rule
deriving DecidableEq

def Port.Kept : Port → Services → Services → Prop
  | .urls, before, after => after.urls = before.urls
  | .greeter, before, after => after.greeter = before.greeter
  | .notifier, before, after => after.notifier = before.notifier
  | .things, before, after => after.things = before.things
  | .rule, before, after => after.rule = before.rule

/-- One variable of a table has a new value, and all others have theirs. -/
structure Sets (before after : Table String Value) (name : String) (value : Value) : Prop where
  named : after.find? name = some value
  others : ∀ other, other ≠ name → after.find? other = before.find? other

namespace Global

def port : Global → Port
  | .getUrl => .urls
  | .hello => .greeter
  | .notifyOnThingStatesChange => .notifier
  | .unregisterThingStateListener => .notifier
  | .execThingAction => .things
  | .getThingState => .things
  | .getAllThingStates => .things
  | .cmdThingState => .things
  | .setGlobalVar => .rule
  | .getGlobalVar => .rule
  | .getNamedInputValue => .rule
  | .setNamedOutputValue => .rule
  | .ruleType => .rule

/-- The calls that succeed and have nothing to change. -/
inductive Idle (arguments : List Value) (value : Value) : Global → Prop where
  | getUrl : Idle arguments value .getUrl
  | hello (nameless : ∀ text, arguments[0]? ≠ some (.string text)) : Idle arguments value .hello
  | unregister (absent : value = .bool false) : Idle arguments value .unregisterThingStateListener
  | getThingState : Idle arguments value .getThingState
  | getAllThingStates : Idle arguments value .getAllThingStates
  | command (declined : value = .bool false) : Idle arguments value .cmdThingState
  | getGlobalVar : Idle arguments value .getGlobalVar
  | getNamedInputValue : Idle arguments value .getNamedInputValue
  | ruleType : Idle arguments value .ruleType

/-- The services after a call that succeeds, beside those before it. -/
structure Confined (global : Global) (arguments : List Value) (value : Value)
    (before after : Services) : Prop where
  ports : ∀ port, port ≠ global.port → port.Kept before after
  idle : global.Idle arguments value → after = before
  setGlobal : global = .setGlobalVar → ∃ name given,
    arguments[0]? = some (.string name) ∧ arguments[1]? = some given ∧
      after.rule = { before.rule with globals := after.rule.globals } ∧
        Sets before.rule.globals after.rule.globals name given
  setOutput : global = .setNamedOutputValue → ∃ name given,
    arguments[0]? = some (.string name) ∧ arguments[1]? = some given ∧
      after.rule = { before.rule with outputs := after.rule.outputs } ∧
        Sets before.rule.outputs after.rule.outputs name given

end Global

theorem Table.sets_insert (table : Table String Value) (name : String) (value : Value) :
    Sets table (table.insert name value) name value := by
  constructor
  · rw [Table.find?_insert, if_pos rfl]
  · intro other differs
    rw [Table.find?_insert, if_neg (Ne.symm differs)]

theorem Table.erase_of_not_mem {κ α : Type} [DecidableEq κ] {table : Table κ α} {key : κ}
    (absent : key ∉ table.keys) : table.erase key = table := by
  apply Table.ext_entries
  apply List.filter_eq_self.mpr
  intro entry member
  have differs : entry.1 ≠ key := by
    rintro rfl
    exact absent (List.mem_map_of_mem member)
  simpa using differs

theorem Notifier.unsubscribe_false {notifier : Notifier} {id : Nat}
    (absent : (notifier.unsubscribe id).1 = false) : (notifier.unsubscribe id).2 = notifier := by
  have gone : id ∉ notifier.listeners.keys := Table.contains_eq_false_iff.mp absent
  simp only [unsubscribe, Table.erase_of_not_mem gone]

theorem Things.command_false {things : Things} {thing : String} {key : StateKey} {value : Value}
    (declined : (things.command thing key value).1 = false) :
    (things.command thing key value).2 = things := by
  unfold command at declined ⊢
  split
  next known =>
    rw [known] at declined
    cases declined
  next => rfl

section Kept

variable (services : Services)

theorem kept_refl (port : Port) : port.Kept services services := by
  cases port <;> rfl

theorem kept_greeter (greeter : Greeter) (port : Port) (differs : port ≠ .greeter) :
    port.Kept services { services with greeter } := by
  cases port <;> first | rfl | exact absurd rfl differs

theorem kept_notifier (notifier : Notifier) (port : Port) (differs : port ≠ .notifier) :
    port.Kept services { services with notifier } := by
  cases port <;> first | rfl | exact absurd rfl differs

theorem kept_things (things : Things) (port : Port) (differs : port ≠ .things) :
    port.Kept services { services with things } := by
  cases port <;> first | rfl | exact absurd rfl differs

theorem kept_rule (rule : Variables) (port : Port) (differs : port ≠ .rule) :
    port.Kept services { services with rule } := by
  cases port <;> first | rfl | exact absurd rfl differs

end Kept

theorem bind_eq_ok {ε α β : Type} {first : Except ε α} {rest : α → Except ε β} {result : β}
    (done : first >>= rest = .ok result) : ∃ value, first = .ok value ∧ rest value = .ok result := by
  cases first with
  | error error => cases done
  | ok value => exact ⟨value, rfl, done⟩

namespace Global

variable {arguments : List Value} {services : Services}

theorem text?_eq_some_iff {value : Value} {text : String} :
    value.text? = some text ↔ value = .string text := by
  cases value <;> simp [Value.text?]

/-- A call of a global that sets no variable. -/
theorem Confined.elsewhere {global : Global} {value : Value} {after : Services}
    (ports : ∀ port, port ≠ global.port → port.Kept services after)
    (idle : global.Idle arguments value → after = services) (sets : global ≠ .setGlobalVar)
    (puts : global ≠ .setNamedOutputValue) : Confined global arguments value services after :=
  ⟨ports, idle, fun same => absurd same sets, fun same => absurd same puts⟩

theorem Confined.unchanged {global : Global} (value : Value) (sets : global ≠ .setGlobalVar)
    (puts : global ≠ .setNamedOutputValue) : Confined global arguments value services services :=
  .elsewhere (fun port _ => kept_refl services port) (fun _ => rfl) sets puts

theorem answer_confined (global : Global) (enough : global.arity ≤ arguments.length) {reply : Reply}
    (answered : global.answer arguments enough services = .ok reply) :
    Confined global arguments reply.value services reply.services := by
  cases global with
  | getUrl =>
    obtain ⟨page, _, rest⟩ := bind_eq_ok answered
    cases rest
    exact .unchanged _ (by decide) (by decide)
  | hello =>
    have given : arguments[0]? = some (arguments.get ⟨0, enough⟩) := List.getElem?_eq_getElem enough
    simp only [answer] at answered
    split at answered
    next name named =>
      cases answered
      refine .elsewhere (kept_greeter services _) ?_ (by decide) (by decide)
      intro idle
      cases idle with
      | hello nameless =>
        exact absurd (given.trans (congrArg some (text?_eq_some_iff.mp named))) (nameless name)
    next => cases answered; exact .unchanged _ (by decide) (by decide)
  | notifyOnThingStatesChange =>
    obtain ⟨thing, _, rest⟩ := bind_eq_ok answered
    obtain ⟨callback, _, rest⟩ := bind_eq_ok rest
    cases rest
    refine .elsewhere (kept_notifier services _) ?_ (by decide) (by decide)
    intro idle
    cases idle
  | unregisterThingStateListener =>
    obtain ⟨id, _, rest⟩ := bind_eq_ok answered
    cases rest
    refine .elsewhere (kept_notifier services _) ?_ (by decide) (by decide)
    intro idle
    cases idle with
    | unregister absent =>
      have same := Notifier.unsubscribe_false (Value.bool.inj absent)
      exact congrArg (fun notifier => ({ services with notifier } : Services)) same
  | execThingAction =>
    obtain ⟨thing, _, rest⟩ := bind_eq_ok answered
    obtain ⟨action, _, rest⟩ := bind_eq_ok rest
    obtain ⟨things, _, rest⟩ := bind_eq_ok rest
    cases rest
    refine .elsewhere (kept_things services _) ?_ (by decide) (by decide)
    intro idle
    cases idle
  | getThingState =>
    obtain ⟨thing, _, rest⟩ := bind_eq_ok answered
    obtain ⟨state, _, rest⟩ := bind_eq_ok rest
    obtain ⟨number, _, rest⟩ := bind_eq_ok rest
    obtain ⟨value, _, rest⟩ := bind_eq_ok rest
    cases rest
    exact .unchanged _ (by decide) (by decide)
  | getAllThingStates =>
    obtain ⟨thing, _, rest⟩ := bind_eq_ok answered
    obtain ⟨states, _, rest⟩ := bind_eq_ok rest
    cases rest
    exact .unchanged _ (by decide) (by decide)
  | cmdThingState =>
    obtain ⟨thing, _, rest⟩ := bind_eq_ok answered
    obtain ⟨state, _, rest⟩ := bind_eq_ok rest
    obtain ⟨number, _, rest⟩ := bind_eq_ok rest
    cases rest
    refine .elsewhere (kept_things services _) ?_ (by decide) (by decide)
    intro idle
    cases idle with
    | command declined =>
      have same := Things.command_false (Value.bool.inj declined)
      exact congrArg (fun things => ({ services with things } : Services)) same
  | setGlobalVar =>
    obtain ⟨name, named, rest⟩ := bind_eq_ok answered
    cases rest
    refine ⟨kept_rule services _, ?_, fun _ => ?_, ?_⟩
    · intro idle
      cases idle
    · exact ⟨name, _, string_eq_ok_iff.mp named, List.getElem?_eq_getElem enough, rfl,
        Table.sets_insert _ name _⟩
    · intro same
      cases same
  | getGlobalVar =>
    obtain ⟨name, _, rest⟩ := bind_eq_ok answered
    cases rest
    exact .unchanged _ (by decide) (by decide)
  | getNamedInputValue =>
    obtain ⟨name, _, rest⟩ := bind_eq_ok answered
    cases rest
    exact .unchanged _ (by decide) (by decide)
  | setNamedOutputValue =>
    obtain ⟨name, named, rest⟩ := bind_eq_ok answered
    cases rest
    refine ⟨kept_rule services _, ?_, ?_, fun _ => ?_⟩
    · intro idle
      cases idle
    · intro same
      cases same
    · exact ⟨name, _, string_eq_ok_iff.mp named, List.getElem?_eq_getElem enough, rfl,
        Table.sets_insert _ name _⟩
  | ruleType =>
    cases answered
    exact .unchanged _ (by decide) (by decide)

end Global

namespace Loop.Machine

variable {σ : Type} [HostMemory σ]

/-- A call of any name with any arguments comes back and changes nothing of the loop but the memory and the
log. If it fails it leaves the memory as it was; if it succeeds, only the store of the service to which the
global belongs can be another. -/
theorem calls_confined (m : Machine σ) (name : String) (arguments : List Value) :
    ∃ (outcome : Except HostError Value) (n : Machine σ),
      m.Yields (Host.call Registry.globals name arguments) (outcome.mapError .host) n ∧
      n = { m with memory := n.memory, notices := n.notices } ∧
      (∀ error, outcome = .error error → n.memory = m.memory) ∧
      ∀ value, outcome = .ok value → ∃ global : Global, global.name = name ∧
        n.memory = HostMemory.setHost { HostMemory.host m.memory with services := n.services } m.memory ∧
        global.Confined arguments value m.services n.services := by
  obtain ⟨outcome, n, yields, called⟩ := call_called m name arguments
  refine ⟨outcome, n, yields, ?_⟩
  cases called with
  | undefinedFunction absent => exact ⟨rfl, fun _ _ => rfl, fun _ same => by cases same⟩
  | short => exact ⟨rfl, fun _ _ => rfl, fun _ same => by cases same⟩
  | refused => exact ⟨rfl, fun _ _ => rfl, fun _ same => by cases same⟩
  | answered global installed enough reply answered =>
    have services :
        ((m.note (.hostCall name arguments.length)).replied reply).services = reply.services := by
      simp only [Machine.services, replied, told, note, HostMemory.host_setHost]
    refine ⟨rfl, fun _ same => (by cases same), fun value same => ?_⟩
    cases same
    refine ⟨global, installed_name installed, ?_, ?_⟩
    · rw [services]
      rfl
    · rw [services]
      exact global.answer_confined enough answered

end Loop.Machine

/-- A global, an input and an output of one name: setting the global leaves the others alone. -/
example : (Global.answer .setGlobalVar [.string "x", .null] (by decide)
    { rule := ((({} : Variables).setInput "x" (.bool true)).setOutput "x" (.bool false)) }).map
      (fun reply => (reply.services.rule.global "x", reply.services.rule.input "x",
        reply.services.rule.output "x")) = .ok (.null, .bool true, .bool false) := rfl

end RuleHost
