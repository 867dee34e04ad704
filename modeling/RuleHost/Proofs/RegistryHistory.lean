import Mathlib.Data.Finset.Card
import Mathlib.Data.Finset.Dedup
import RuleHost.Proofs.GlobalCalls

/-! What a registry holds, told by what was registered with it: every name once, where it was first registered,
with the function that was last registered under it. A history lists the operations, newest first. -/

namespace RuleHost

namespace Table

variable {κ α : Type} [DecidableEq κ]

theorem values_eq_filterMap (t : Table κ α) : t.values = t.keys.filterMap t.find? := by
  have found : ∀ entry ∈ t.entries, t.find? entry.1 = some entry.2 :=
    fun entry member => find?_eq_some_iff.mpr member
  rw [keys, List.filterMap_map, values, ← List.filterMap_eq_map]
  exact List.filterMap_congr fun entry member => (found entry member).symm

/-- Giving a key the value that it has changes nothing. -/
theorem insert_of_find? {t : Table κ α} {key : κ} {value : α} (found : t.find? key = some value) :
    t.insert key value = t := by
  have known : t.contains key = true := by rw [contains_eq_isSome, found]; rfl
  apply ext_entries
  rw [insert, dif_pos known]
  refine (List.map_congr_left fun entry member => ?_).trans (List.map_id _)
  split
  next same =>
    have stored := find?_eq_some_iff.mpr member
    rw [same, found] at stored
    rw [Option.some.inj stored, ← same]
    rfl
  next => rfl

end Table

namespace Registry

/-- The globals of one host, each with what it does there. -/
structure Bindings where
  function : Global → HostFunction
  name : ∀ global, (function global).name = global.name
  arity : ∀ global, (function global).arity = global.arity

def Bindings.own : Bindings := ⟨.ofGlobal, fun _ => rfl, fun _ => rfl⟩

inductive Operation where
  | register (function : HostFunction)
  | install (bindings : Bindings)

def Operation.functions : Operation → List HostFunction
  | .register function => [function]
  | .install bindings => Global.all.map bindings.function

def perform (registry : Registry) : Operation → Registry
  | .register function => registry.register function
  | .install bindings => (registry.registerAll (Global.all.map bindings.function)).2

def after (start : Registry) : List Operation → Registry
  | [] => start
  | operation :: earlier => (after start earlier).perform operation

def registered (start : Registry) (history : List Operation) : List HostFunction :=
  start.functions ++ history.reverse.flatMap Operation.functions

/-- The names of functions, each where it first occurs. -/
def names (functions : List HostFunction) : List String := (functions.map HostFunction.name).eraseDups

/-- The last one of some functions that has a name. -/
def last? (functions : List HostFunction) (name : String) : Option HostFunction :=
  functions.reverse.find? fun function => function.name == name

def Named (registry : Registry) : Prop := ∀ entry ∈ registry.table.entries, entry.2.name = entry.1

/-- A registry that holds each name where it first occurs, and the last function under it. -/
structure Holds (functions : List HostFunction) (registry : Registry) : Prop where
  keys : registry.table.keys = names functions
  find? : ∀ name, registry.find? name = last? functions name

variable {functions : List HostFunction} {registry start : Registry} {name : String}

theorem perform_eq (operation : Operation) :
    registry.perform operation = (registry.registerAll operation.functions).2 := by
  cases operation <;> rfl

theorem find?_perform (operation : Operation) :
    (registry.perform operation).find? name = (last? operation.functions name).or (registry.find? name) := by
  rw [perform_eq, find?_registerAll]
  rfl

theorem perform_install : registry.perform (.install .own) = registry.install.2 := rfl

theorem names_append_of_mem {function : HostFunction} (known : function.name ∈ names functions) :
    names (functions ++ [function]) = names functions := by
  have again : function.name ∈ functions.map HostFunction.name := List.mem_eraseDups.mp known
  have none : [function.name].removeAll (functions.map HostFunction.name) = [] := by
    simpa [List.removeAll] using again
  rw [names, List.map_append, List.map_singleton, List.eraseDups_append, none, List.eraseDups_nil, List.append_nil]
  rfl

theorem names_append_of_not_mem {function : HostFunction} (fresh : function.name ∉ names functions) :
    names (functions ++ [function]) = names functions ++ [function.name] := by
  have new : function.name ∉ functions.map HostFunction.name := mt List.mem_eraseDups.mpr fresh
  have all : [function.name].removeAll (functions.map HostFunction.name) = [function.name] := by
    simpa [List.removeAll] using new
  rw [names, List.map_append, List.map_singleton, List.eraseDups_append, all]
  rfl

theorem last?_append (function : HostFunction) :
    last? (functions ++ [function]) name = if function.name = name then some function else last? functions name := by
  rw [last?, List.reverse_append, List.reverse_singleton, List.singleton_append, List.find?_cons]
  by_cases same : function.name = name
  · rw [if_pos same, beq_iff_eq.mpr same]
  · rw [if_neg same, beq_eq_false_iff_ne.mpr same]
    rfl

theorem mem_of_last? {function : HostFunction} (last : last? functions name = some function) :
    function ∈ functions ∧ function.name = name := by
  have same := List.find?_some last
  exact ⟨List.mem_reverse.mp (List.mem_of_find?_eq_some last), eq_of_beq same⟩

theorem last?_eq_none_iff : last? functions name = none ↔ ∀ function ∈ functions, function.name ≠ name := by
  simp [last?]

theorem eraseDups_of_nodup {names : List String} (distinct : names.Nodup) : names.eraseDups = names := by
  induction names with
  | nil => rfl
  | cons name rest ih =>
    obtain ⟨fresh, distinct⟩ := List.nodup_cons.mp distinct
    have others : rest.filter (fun other => !other == name) = rest := by
      apply List.filter_eq_self.mpr
      intro other member
      rw [Bool.not_eq_true', beq_eq_false_iff_ne]
      exact fun same => fresh (same ▸ member)
    rw [List.eraseDups_cons, others, ih distinct]

theorem Holds.register (holds : Holds functions registry) (function : HostFunction) :
    Holds (functions ++ [function]) (registry.register function) := by
  constructor
  · by_cases known : function.name ∈ registry.table.keys
    · rw [names_append_of_mem (holds.keys ▸ known), ← holds.keys]
      exact Table.keys_insert_of_mem function known
    · rw [names_append_of_not_mem (holds.keys ▸ known), ← holds.keys]
      exact Table.keys_insert_of_not_mem function known
  · intro name
    rw [find?_register, last?_append, holds.find?]

theorem Holds.registerAll (holds : Holds functions registry) (more : List HostFunction) :
    Holds (functions ++ more) (registry.registerAll more).2 := by
  induction more generalizing functions registry with
  | nil => rwa [List.append_nil]
  | cons function rest ih =>
    rw [← List.singleton_append, ← List.append_assoc]
    exact ih (holds.register function)

theorem Holds.perform (holds : Holds functions registry) (operation : Operation) :
    Holds (functions ++ operation.functions) (registry.perform operation) :=
  perform_eq operation ▸ holds.registerAll operation.functions

theorem Named.find?_eq_some_iff (named : registry.Named) {function : HostFunction} :
    registry.find? name = some function ↔ function ∈ registry.functions ∧ function.name = name := by
  rw [Registry.find?, Table.find?_eq_some_iff, functions, Table.values, List.mem_map]
  constructor
  · exact fun member => ⟨⟨_, member, rfl⟩, named _ member⟩
  · rintro ⟨⟨entry, member, rfl⟩, rfl⟩
    rw [named entry member]
    exact member

theorem Named.keys (named : registry.Named) : registry.table.keys = registry.functions.map HostFunction.name := by
  rw [functions, Table.values, List.map_map]
  exact List.map_congr_left fun entry member => (named entry member).symm

/-- What a registry holds it holds as if each function had been registered once. -/
theorem Named.holds (named : registry.Named) : Holds registry.functions registry := by
  constructor
  · rw [names, ← named.keys, eraseDups_of_nodup registry.table.keys_nodup]
  · intro name
    cases last : last? registry.functions name with
    | none =>
      rw [Option.eq_none_iff_forall_ne_some]
      intro function found
      obtain ⟨member, same⟩ := named.find?_eq_some_iff.mp found
      exact List.find?_eq_none.mp last function (List.mem_reverse.mpr member) (beq_iff_eq.mpr same)
    | some function => exact named.find?_eq_some_iff.mpr (mem_of_last? last)

theorem Holds.named (holds : Holds functions registry) : registry.Named := by
  intro entry member
  have found : registry.find? entry.1 = some entry.2 := Table.find?_eq_some_iff.mpr member
  exact (mem_of_last? ((holds.find? entry.1).symm.trans found)).2

theorem Named.holds_after (named : start.Named) (history : List Operation) :
    Holds (registered start history) (after start history) := by
  induction history with
  | nil =>
    rw [registered, List.reverse_nil, List.flatMap_nil, List.append_nil]
    exact named.holds
  | cons operation earlier ih =>
    have last : registered start (operation :: earlier) = registered start earlier ++ operation.functions := by
      simp only [registered, List.reverse_cons, List.flatMap_append, List.flatMap_singleton, List.append_assoc]
    rw [last]
    exact ih.perform operation

/-- A registry that tells what was registered: its list, its lookups and its calls agree on each name. -/
structure Tells (functions : List HostFunction) (registry : Registry) : Prop where
  listing : registry.functions = (names functions).filterMap (last? functions)
  order : registry.functions.map HostFunction.name = names functions
  distinct : (registry.functions.map HostFunction.name).Nodup
  size : registry.size = (functions.map HostFunction.name).toFinset.card
  find? : ∀ name, registry.find? name = last? functions name
  contains : ∀ name, registry.contains name = true ↔ ∃ function ∈ functions, function.name = name
  listed : ∀ name function, registry.find? name = some function ↔
    function ∈ registry.functions ∧ function.name = name
  called : ∀ (σ : Type) [HostMemory σ] name function arguments, last? functions name = some function →
    Host.call (σ := σ) registry name arguments = do
      Loop.Act.note (.hostCall name arguments.length)
      Host.callFunction function arguments
  undefined : ∀ (σ : Type) [HostMemory σ] name arguments, (∀ function ∈ functions, function.name ≠ name) →
    Host.call (σ := σ) registry name arguments = pure (.error (.host (.undefinedFunction name)))

theorem Holds.tells (holds : Holds functions registry) : Tells functions registry where
  listing := by
    rw [Registry.functions, Table.values_eq_filterMap, holds.keys]
    exact List.filterMap_congr fun name _ => holds.find? name
  order := by rw [← holds.named.keys, holds.keys]
  distinct := holds.named.keys ▸ registry.table.keys_nodup
  size := by
    have same : registry.table.keys.toFinset = (functions.map HostFunction.name).toFinset := by
      ext name
      rw [List.mem_toFinset, List.mem_toFinset, holds.keys]
      exact List.mem_eraseDups
    rw [← same, List.toFinset_card_of_nodup registry.table.keys_nodup, size, Table.size_eq_length_keys]
  find? := holds.find?
  contains name := by
    rw [contains, Table.contains_eq_true_iff, holds.keys]
    exact List.mem_eraseDups.trans List.mem_map
  listed _ _ := holds.named.find?_eq_some_iff
  called σ _ name function arguments last := by rw [Host.call, holds.find?, last]
  undefined σ _ name arguments missing := by rw [Host.call, holds.find?, last?_eq_none_iff.mpr missing]

/-- What installing the globals of a host makes of a registry. -/
structure Installs (bindings : Bindings) (registry installed : Registry) : Prop where
  globals : ∀ global, installed.find? global.name = some (bindings.function global)
  called : ∀ (σ : Type) [HostMemory σ] (global : Global) (arguments : List Value),
    Host.call (σ := σ) installed global.name arguments = do
      Loop.Act.note (.hostCall global.name arguments.length)
      Host.callFunction (bindings.function global) arguments
  /-- Everything else stays as it is, and where it is. -/
  others : ∀ name, (∀ global : Global, global.name ≠ name) → installed.find? name = registry.find? name
  order : registry.functions.map HostFunction.name <+: installed.functions.map HostFunction.name
  again : installed.perform (.install bindings) = installed

theorem find?_install (bindings : Bindings) (global : Global) :
    (registry.perform (.install bindings)).find? global.name = some (bindings.function global) := by
  have member : bindings.function global ∈ (Operation.install bindings).functions :=
    List.mem_map_of_mem (Global.mem_all global)
  rw [find?_perform]
  cases last : last? (Operation.install bindings).functions global.name with
  | none => exact absurd (bindings.name global) (last?_eq_none_iff.mp last _ member)
  | some function =>
    obtain ⟨member, same⟩ := mem_of_last? last
    obtain ⟨other, _, rfl⟩ := List.mem_map.mp member
    rw [bindings.name other] at same
    rw [Global.name_injective same]
    rfl

/-- Registering what is found anyway changes nothing. -/
theorem registerAll_of_find? (found : ∀ function ∈ functions, registry.find? function.name = some function) :
    (registry.registerAll functions).2 = registry := by
  induction functions with
  | nil => rfl
  | cons function rest ih =>
    have same : registry.register function = registry := by
      rw [register, Table.insert_of_find? (found function List.mem_cons_self)]
    rw [registerAll, same]
    exact ih fun other member => found other (List.mem_cons_of_mem function member)

theorem Holds.installs (holds : Holds functions registry) (bindings : Bindings) :
    Installs bindings registry (registry.perform (.install bindings)) where
  globals := find?_install bindings
  called σ _ global arguments := by rw [Host.call, find?_install bindings global]
  others name other := by
    have none : last? (Operation.install bindings).functions name = none := by
      rw [last?_eq_none_iff]
      intro function member
      obtain ⟨global, _, rfl⟩ := List.mem_map.mp member
      rw [bindings.name global]
      exact other global
    rw [find?_perform, none, Option.none_or]
  order := by
    have more := holds.perform (.install bindings)
    rw [holds.tells.order, more.tells.order, names, names, List.map_append, List.eraseDups_append]
    exact List.prefix_append _ _
  again := by
    apply registerAll_of_find?
    intro function member
    obtain ⟨global, _, rfl⟩ := List.mem_map.mp member
    rw [bindings.name global]
    exact find?_install bindings global

/-- Whatever a registry held and whatever was registered with it since, it tells just that, and the globals of a
host can be installed in it at any time. Those of the services then dispatch as in a registry of them alone. -/
theorem after_tells (named : start.Named) (history : List Operation) :
    Tells (registered start history) (after start history) ∧
      (∀ bindings, Installs bindings (after start history) (after start (.install bindings :: history))) ∧
      ∀ (σ : Type) [HostMemory σ] (global : Global) (arguments : List Value),
        Host.call (σ := σ) (after start history).install.2 global.name arguments =
          Host.call .globals global.name arguments := by
  have holds := named.holds_after history
  refine ⟨holds.tells, holds.installs, fun σ _ global arguments => ?_⟩
  rw [← perform_install, (holds.installs .own).called, Host.call, find?_globals_name]
  rfl

/-- A registry with a function of its own and another one under the name of a global. -/
def early : Registry :=
  ((⟨.empty⟩ : Registry).register { name := "shout", arity := 0, body := .defined 0 }).register
    { name := "hello", arity := 3, body := .defined 1 }

def Bindings.guest : Bindings where
  function global := { name := global.name, arity := global.arity, body := .defined 9 }
  name _ := rfl
  arity _ := rfl

def overrides : List Operation :=
  [.register { name := "ruletype", arity := 1, body := .defined 4 }, .install .own,
    .register { name := "whisper", arity := 1, body := .defined 3 }, .install .guest,
    .register { name := "shout", arity := 2, body := .defined 2 }]

theorem after_tells_overrides :
    early.Named ∧
      ((after early overrides).functions.map fun function => (function.name, function.arity)) =
        [("shout", 2), ("hello", 1), ("get_url", 1), ("notifyOnThingStatesChange", 2),
          ("unregisterThingStateListener", 1), ("execThingAction", 2), ("getThingState", 2),
          ("getAllThingStates", 1), ("cmdThingState", 4), ("setGlobalVar", 2), ("getGlobalVar", 1),
          ("getNamedInputValue", 1), ("setNamedOutputValue", 2), ("ruletype", 1), ("whisper", 1)] ∧
      (after early overrides).find? "hello" = some (.ofGlobal .hello) ∧
      (after early overrides).contains "bellow" = false := by
  have empty : (⟨.empty⟩ : Registry).Named := nofun
  have named : early.Named := ((empty.holds.register _).register _).named
  obtain ⟨tells, -⟩ := after_tells named overrides
  refine ⟨named, ?_, ?_, ?_⟩
  · rw [tells.listing]
    rfl
  · rw [tells.find?]
    rfl
  · rw [Bool.eq_false_iff, ne_eq, tells.contains]
    decide

end Registry
end RuleHost
