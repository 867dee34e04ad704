import RuleHost.Proofs.GlobalCalls

/-! Which calls of a host fail, and how. A name that is not installed comes first, then too few arguments,
then the first argument that does not fit, and only then what a service refuses. -/

namespace RuleHost

inductive Demand where
  | text
  | callback
  | listener
  /-- The number of a state, which may be left out. -/
  | stateNumber
deriving DecidableEq

namespace Demand

def kind : Demand → Kind
  | .text => .string
  | .callback => .function
  | .listener => .int
  | .stateNumber => .int

def Accepts : Demand → Value → Prop
  | .text, value => value.kind = .string
  | .callback, value => value.kind = .function
  | .listener, value => ∃ n, value.toInt? = some n ∧ 0 ≤ n.toInt
  | .stateNumber, value =>
    value.kind = .undefined ∨ value.kind = .null ∨
      ∃ n, value.toInt? = some n ∧ 0 ≤ n.toInt ∧ n.toInt ≤ 65535

end Demand

namespace Global

/-- What a global asks of each argument that it reads; of some it asks nothing. -/
def demands : Global → List (Option Demand)
  | .getUrl => [none]
  | .hello => [none]
  | .notifyOnThingStatesChange => [some .text, some .callback]
  | .unregisterThingStateListener => [some .listener]
  | .execThingAction => [some .text, some .text, none]
  | .getThingState => [some .text, some .text, some .stateNumber]
  | .getAllThingStates => [some .text]
  | .cmdThingState => [some .text, some .text, some .stateNumber, none]
  | .setGlobalVar => [some .text, none]
  | .getGlobalVar => [some .text]
  | .getNamedInputValue => [some .text]
  | .setNamedOutputValue => [some .text, none]
  | .ruleType => []

structure Misfit (global : Global) (arguments : List Value) (index : Nat) (demand : Demand)
    (found : Value) : Prop where
  asked : global.demands[index]? = some (some demand)
  given : arguments[index]? = some found
  refused : ¬ demand.Accepts found

/-- All arguments before an index are what is asked for. -/
def Fits (global : Global) (arguments : List Value) (index : Nat) : Prop :=
  ∀ earlier < index, ∀ demand found, ¬ global.Misfit arguments earlier demand found

/-- What a service refuses although all arguments fit. -/
inductive Declined (global : Global) (arguments : List Value) (services : Services) :
    HostError → Prop where
  | unknownThing (thing : String)
      (asks : global = .execThingAction ∨ global = .getThingState ∨ global = .getAllThingStates)
      (named : arguments[0]? = some (.string thing)) (unknown : services.things.knows thing = false) :
      Declined global arguments services (.unknownThing thing)
  | collaborator (message : String) (fetches : global = .getUrl)
      (failing : services.urls = .failing message) :
      Declined global arguments services (.collaborator "get_url" message)

end Global

/-- Why a call of a name with some arguments fails, if it does. -/
inductive Refusal (services : Services) (name : String) (arguments : List Value) : HostError → Prop where
  | undefinedFunction (absent : Registry.globals.contains name = false) :
      Refusal services name arguments (.undefinedFunction name)
  | arity (function : HostFunction) (installed : Registry.globals.find? name = some function)
      (short : arguments.length < function.arity) :
      Refusal services name arguments (.arity name function.arity arguments.length)
  | typeMismatch (global : Global) (installed : Registry.globals.find? name = some (.ofGlobal global))
      (enough : global.arity ≤ arguments.length) (index : Nat) (demand : Demand) (found : Value)
      (misfit : global.Misfit arguments index demand found) (first : global.Fits arguments index) :
      Refusal services name arguments (.typeMismatch name index demand.kind found.kind)
  | declined (global : Global) (installed : Registry.globals.find? name = some (.ofGlobal global))
      (enough : global.arity ≤ arguments.length)
      (fits : global.Fits arguments global.demands.length) (error : HostError)
      (declined : global.Declined arguments services error) :
      Refusal services name arguments error

namespace Things

variable {things : Things} {thing : String}

theorem find?_of_knows (known : things.knows thing = true) :
    ∃ states, things.known.find? thing = some states := by
  rw [knows, Table.contains_eq_isSome] at known
  exact Option.isSome_iff_exists.mp known

theorem find?_of_knows_false (unknown : things.knows thing = false) :
    things.known.find? thing = none := by
  rw [knows, Table.contains_eq_isSome] at unknown
  exact Option.isNone_iff_eq_none.mp (by simpa using unknown)

end Things

namespace Global

variable {global : Global} {arguments : List Value}

theorem Misfit.inside {index : Nat} {demand : Demand} {found : Value}
    (misfit : global.Misfit arguments index demand found) : index < global.demands.length :=
  (List.getElem?_eq_some_iff.mp misfit.asked).1

theorem Fits.zero : global.Fits arguments 0 := fun _ below => absurd below (Nat.not_lt_zero _)

theorem Fits.succ {index : Nat} (fits : global.Fits arguments index)
    (here : ∀ demand found, ¬ global.Misfit arguments index demand found) :
    global.Fits arguments (index + 1) := by
  intro earlier below demand found
  rcases Nat.lt_succ_iff_lt_or_eq.mp below with before | rfl
  · exact fits earlier before demand found
  · exact here demand found

/-- An argument of which nothing is asked fits. -/
theorem Fits.skip {index : Nat} (fits : global.Fits arguments index)
    (free : global.demands[index]? = some none) : global.Fits arguments (index + 1) := by
  apply fits.succ
  intro demand found misfit
  cases free.symm.trans misfit.asked

inductive Reads {α : Type} (global : Global) (arguments : List Value) (index : Nat) (demand : Demand) :
    Except HostError α → Prop where
  | read (value : α) (fits : ∀ found, arguments[index]? = some found → demand.Accepts found) :
      Reads global arguments index demand (.ok value)
  | mismatch (found : Value) (given : arguments[index]? = some found) (refused : ¬ demand.Accepts found) :
      Reads global arguments index demand
        (.error (.typeMismatch global.name index demand.kind found.kind))

theorem viewed_reads {α : Type} {view : Value → Option α} {demand : Demand} {index : Nat}
    (inside : index < arguments.length)
    (accepts : ∀ value, arguments[index]? = some value →
      ((view value).isSome = true ↔ demand.Accepts value)) :
    Reads global arguments index demand
      (Arguments.viewed view demand.kind global.name arguments index) := by
  have given : arguments[index]? = some arguments[index] := List.getElem?_eq_getElem inside
  cases seen : view arguments[index] with
  | some value =>
    have read : Arguments.viewed view demand.kind global.name arguments index = .ok value := by
      simp only [Arguments.viewed, Arguments.required, given, bind, Except.bind, seen]
    rw [read]
    refine .read value fun found same => ?_
    cases given.symm.trans same
    exact (accepts _ given).mp (by rw [seen]; rfl)
  | none =>
    have read : Arguments.viewed view demand.kind global.name arguments index =
        .error (Arguments.mismatch global.name index demand.kind arguments[index]) := by
      simp only [Arguments.viewed, Arguments.required, given, bind, Except.bind, seen]
    rw [read]
    refine .mismatch _ given fun accepted => ?_
    have present := (accepts _ given).mpr accepted
    rw [seen] at present
    cases present

theorem string_reads {index : Nat} (inside : index < arguments.length) :
    Reads global arguments index .text (Arguments.string global.name arguments index) := by
  apply viewed_reads inside
  intro value _
  cases value <;> simp [Value.text?, Demand.Accepts, Value.kind]

theorem function_reads {index : Nat} (inside : index < arguments.length) :
    Reads global arguments index .callback (Arguments.function global.name arguments index) := by
  apply viewed_reads inside
  intro value _
  cases value <;> simp [Value.function?, Demand.Accepts, Value.kind]

theorem naturalBelow_isSome {bound : Nat} {value : Value} :
    (Arguments.naturalBelow bound value).isSome = true ↔
      ∃ n, value.toInt? = some n ∧ 0 ≤ n.toInt ∧ n.toInt < bound := by
  unfold Arguments.naturalBelow
  cases value.toInt? with
  | none => simp
  | some n => by_cases inside : 0 ≤ n.toInt ∧ n.toInt < bound <;> simp [inside]

theorem listener_reads {index : Nat} (inside : index < arguments.length) :
    Reads global arguments index .listener (Arguments.listener global.name arguments index) := by
  apply viewed_reads inside
  intro value _
  rw [naturalBelow_isSome]
  have below (n : Int64) : n.toInt < UInt64.size := by
    have := n.toInt_lt
    have : (2 : Int) ^ 63 < (UInt64.size : Nat) := by decide
    omega
  constructor
  · rintro ⟨n, stands, natural, _⟩
    exact ⟨n, stands, natural⟩
  · rintro ⟨n, stands, natural⟩
    exact ⟨n, stands, natural, below n⟩

theorem isNullish_iff {value : Value} :
    value.isNullish = true ↔ value.kind = .undefined ∨ value.kind = .null := by
  simp [Value.isNullish]

/-- A number that is left out is read as well as one that is given. -/
theorem stateNumber_reads (global : Global) (arguments : List Value) (index : Nat) :
    Reads global arguments index .stateNumber (Arguments.stateNumber global.name arguments index) := by
  unfold Arguments.stateNumber
  by_cases nullish : (Arguments.orUndefined arguments index).isNullish = true
  · rw [if_pos nullish]
    refine .read 0 fun found given => ?_
    have same : Arguments.orUndefined arguments index = found := by
      simp [Arguments.orUndefined, given]
    rw [same, isNullish_iff] at nullish
    rcases nullish with undefined | null
    · exact .inl undefined
    · exact .inr (.inl null)
  · rw [if_neg nullish]
    have inside : index < arguments.length := by
      apply Nat.lt_of_not_le
      intro outside
      have absent : arguments[index]? = none := List.getElem?_eq_none outside
      exact nullish (by simp [Arguments.orUndefined, absent, Value.isNullish, Value.kind])
    apply viewed_reads inside
    intro value given
    have same : Arguments.orUndefined arguments index = value := by
      simp [Arguments.orUndefined, given]
    rw [same, isNullish_iff, not_or] at nullish
    rw [naturalBelow_isSome]
    constructor
    · rintro ⟨n, stands, natural, below⟩
      exact .inr (.inr ⟨n, stands, natural, Int.le_of_lt_add_one below⟩)
    · rintro (undefined | null | ⟨n, stands, natural, below⟩)
      · exact absurd undefined nullish.1
      · exact absurd null nullish.2
      · exact ⟨n, stands, natural, Int.lt_add_one_of_le below⟩

theorem string_eq_ok_iff {name text : String} {index : Nat} :
    Arguments.string name arguments index = .ok text ↔ arguments[index]? = some (.string text) := by
  unfold Arguments.string Arguments.viewed Arguments.required
  cases given : arguments[index]? with
  | none => simp [bind, Except.bind]
  | some value => cases value <;> simp [bind, Except.bind, Value.text?]

/-- How a call that has enough arguments can end. -/
inductive Verdict (global : Global) (arguments : List Value) (services : Services) :
    Except HostError Reply → Prop where
  | mismatch (index : Nat) (demand : Demand) (found : Value)
      (misfit : global.Misfit arguments index demand found) (first : global.Fits arguments index) :
      Verdict global arguments services
        (.error (.typeMismatch global.name index demand.kind found.kind))
  | declined (fits : global.Fits arguments global.demands.length) (error : HostError)
      (declined : global.Declined arguments services error) :
      Verdict global arguments services (.error error)
  | served (fits : global.Fits arguments global.demands.length)
      (served : ∀ error, ¬ global.Declined arguments services error) (reply : Reply) :
      Verdict global arguments services (.ok reply)

variable {services : Services}

/-- A call that reads an argument fails there, or goes on with one more argument known to fit. -/
theorem Verdict.reading {α : Type} {index : Nat} {demand : Demand} {reading : Except HostError α}
    {rest : α → Except HostError Reply} (reads : Reads global arguments index demand reading)
    (asked : global.demands[index]? = some (some demand)) (fits : global.Fits arguments index)
    (go : ∀ value, reading = .ok value → global.Fits arguments (index + 1) →
      Verdict global arguments services (rest value)) :
    Verdict global arguments services (reading >>= rest) := by
  cases reads with
  | mismatch found given refused =>
    exact .mismatch index demand found ⟨asked, given, refused⟩ fits
  | read value accepted =>
    apply go value rfl
    apply fits.succ
    intro other found misfit
    cases asked.symm.trans misfit.asked
    exact misfit.refused (accepted found misfit.given)

/-- Most globals have no service that refuses anything. -/
theorem Verdict.willing (fits : global.Fits arguments global.demands.length)
    (fetches : global ≠ .getUrl) (asks : global ≠ .execThingAction ∧ global ≠ .getThingState ∧
      global ≠ .getAllThingStates) (reply : Reply) :
    Verdict global arguments services (.ok reply) := by
  refine .served fits (fun error declined => ?_) reply
  cases declined with
  | unknownThing thing which =>
    rcases which with same | same | same
    · exact asks.1 same
    · exact asks.2.1 same
    · exact asks.2.2 same
  | collaborator message same => exact fetches same

theorem Verdict.about {thing : String} (named : arguments[0]? = some (.string thing))
    (fits : global.Fits arguments global.demands.length)
    (asks : global = .execThingAction ∨ global = .getThingState ∨ global = .getAllThingStates)
    {result : Except HostError Reply}
    (unknown : services.things.knows thing = false → result = .error (.unknownThing thing))
    (known : services.things.knows thing = true → ∃ reply, result = .ok reply) :
    Verdict global arguments services result := by
  cases knows : services.things.knows thing with
  | false =>
    rw [unknown knows]
    exact .declined fits _ (.unknownThing thing asks named knows)
  | true =>
    obtain ⟨reply, rfl⟩ := known knows
    refine .served fits (fun error declined => ?_) reply
    cases declined with
    | unknownThing other _ again unknown =>
      cases named.symm.trans again
      cases unknown.symm.trans knows
    | collaborator message fetches =>
      subst fetches
      rcases asks with impossible | impossible | impossible <;> cases impossible

theorem Misfit.unique {index other : Nat} {demand wish : Demand} {found value : Value}
    (misfit : global.Misfit arguments index demand found) (first : global.Fits arguments index)
    (again : global.Misfit arguments other wish value) (also : global.Fits arguments other) :
    other = index ∧ wish = demand ∧ value = found := by
  have same : other = index := by
    rcases Nat.lt_trichotomy other index with before | same | behind
    · exact absurd again (first other before wish value)
    · exact same
    · exact absurd misfit (also index behind demand found)
  subst same
  have asked := misfit.asked.symm.trans again.asked
  have given := misfit.given.symm.trans again.given
  cases asked
  cases given
  exact ⟨rfl, rfl, rfl⟩

theorem Declined.unique {error other : HostError}
    (declined : global.Declined arguments services error)
    (again : global.Declined arguments services other) : other = error := by
  cases declined with
  | unknownThing thing asks named unknown =>
    cases again with
    | unknownThing thing' _ also => cases named.symm.trans also; rfl
    | collaborator message fetches => subst fetches; rcases asks with same | same | same <;> cases same
  | collaborator message fetches failing =>
    cases again with
    | unknownThing thing asks => subst fetches; rcases asks with same | same | same <;> cases same
    | collaborator message' _ also => cases failing.symm.trans also; rfl

/-- A reason to fail is the reason for which a call does fail. -/
theorem Verdict.of_misfit {result : Except HostError Reply}
    (verdict : Verdict global arguments services result) {index : Nat} {demand : Demand} {found : Value}
    (misfit : global.Misfit arguments index demand found) (first : global.Fits arguments index) :
    result = .error (.typeMismatch global.name index demand.kind found.kind) := by
  cases verdict with
  | mismatch other wish value again also =>
    obtain ⟨rfl, rfl, rfl⟩ := misfit.unique first again also
    rfl
  | declined fits => exact absurd misfit (fits index misfit.inside demand found)
  | served fits => exact absurd misfit (fits index misfit.inside demand found)

theorem Verdict.of_declined {result : Except HostError Reply}
    (verdict : Verdict global arguments services result)
    (fits : global.Fits arguments global.demands.length) {error : HostError}
    (declined : global.Declined arguments services error) : result = .error error := by
  cases verdict with
  | mismatch index demand found misfit => exact absurd misfit (fits index misfit.inside demand found)
  | declined _ other again => rw [declined.unique again]
  | served _ willing => exact absurd declined (willing error)

theorem answer_verdict (global : Global) {arguments : List Value}
    (enough : global.arity ≤ arguments.length) (services : Services) :
    Verdict global arguments services (global.answer arguments enough services) := by
  have inside {index : Nat} (below : index < global.arity) : index < arguments.length :=
    Nat.lt_of_lt_of_le below enough
  have start : global.Fits arguments 0 := .zero
  cases global with
  | getUrl =>
    have fits := start.skip rfl
    cases urls : services.urls with
    | echo =>
      have fetched : ∃ reply, getUrl.answer arguments enough services = .ok reply := by
        simp only [answer, UrlFetcher.fetch, urls]
        exact ⟨_, rfl⟩
      obtain ⟨reply, answered⟩ := fetched
      rw [answered]
      refine .served fits (fun error declined => ?_) reply
      cases declined with
      | unknownThing thing which => rcases which with same | same | same <;> cases same
      | collaborator message _ failing => cases urls.symm.trans failing
    | failing message =>
      have failed : getUrl.answer arguments enough services =
          .error (.collaborator "get_url" message) := by
        simp only [answer, UrlFetcher.fetch, urls]
        rfl
      rw [failed]
      exact .declined fits _ (.collaborator message rfl urls)
  | hello =>
    have fits := start.skip rfl
    simp only [answer]
    split
    · exact .willing fits (by decide) (by decide) _
    · exact .willing fits (by decide) (by decide) _
  | notifyOnThingStatesChange =>
    apply Verdict.reading (string_reads (inside (by decide))) rfl start
    intro thing _ fits
    apply Verdict.reading (function_reads (inside (by decide))) rfl fits
    intro callback _ fits
    exact .willing fits (by decide) (by decide) _
  | unregisterThingStateListener =>
    apply Verdict.reading (listener_reads (inside (by decide))) rfl start
    intro id _ fits
    exact .willing fits (by decide) (by decide) _
  | execThingAction =>
    apply Verdict.reading (string_reads (inside (by decide))) rfl start
    intro thing named fits
    apply Verdict.reading (string_reads (inside (by decide))) rfl fits
    intro action _ fits
    apply Verdict.about (string_eq_ok_iff.mp named) (fits.skip rfl) (.inl rfl)
    · intro unknown
      simp only [Things.execute, unknown]
      rfl
    · intro known
      simp only [Things.execute, known]
      exact ⟨_, rfl⟩
  | getThingState =>
    apply Verdict.reading (string_reads (inside (by decide))) rfl start
    intro thing named fits
    apply Verdict.reading (string_reads (inside (by decide))) rfl fits
    intro state _ fits
    apply Verdict.reading (stateNumber_reads _ _ _) rfl fits
    intro number _ fits
    apply Verdict.about (string_eq_ok_iff.mp named) fits (.inr (.inl rfl))
    · intro unknown
      simp only [Things.state, Things.find?_of_knows_false unknown]
      rfl
    · intro known
      obtain ⟨states, found⟩ := Things.find?_of_knows known
      simp only [Things.state, found]
      exact ⟨_, rfl⟩
  | getAllThingStates =>
    apply Verdict.reading (string_reads (inside (by decide))) rfl start
    intro thing named fits
    apply Verdict.about (string_eq_ok_iff.mp named) fits (.inr (.inr rfl))
    · intro unknown
      simp only [Things.allStates, Things.find?_of_knows_false unknown]
      rfl
    · intro known
      obtain ⟨states, found⟩ := Things.find?_of_knows known
      simp only [Things.allStates, found]
      exact ⟨_, rfl⟩
  | cmdThingState =>
    apply Verdict.reading (string_reads (inside (by decide))) rfl start
    intro thing _ fits
    apply Verdict.reading (string_reads (inside (by decide))) rfl fits
    intro state _ fits
    apply Verdict.reading (stateNumber_reads _ _ _) rfl fits
    intro number _ fits
    exact .willing (fits.skip rfl) (by decide) (by decide) _
  | setGlobalVar =>
    apply Verdict.reading (string_reads (inside (by decide))) rfl start
    intro name _ fits
    exact .willing (fits.skip rfl) (by decide) (by decide) _
  | getGlobalVar =>
    apply Verdict.reading (string_reads (inside (by decide))) rfl start
    intro name _ fits
    exact .willing fits (by decide) (by decide) _
  | getNamedInputValue =>
    apply Verdict.reading (string_reads (inside (by decide))) rfl start
    intro name _ fits
    exact .willing fits (by decide) (by decide) _
  | setNamedOutputValue =>
    apply Verdict.reading (string_reads (inside (by decide))) rfl start
    intro name _ fits
    exact .willing (fits.skip rfl) (by decide) (by decide) _
  | ruleType => exact .willing start (by decide) (by decide) _

theorem arity_le_demands (global : Global) : global.arity ≤ global.demands.length := by
  cases global <;> decide

theorem viewed_append {α : Type} {view : Value → Option α} {kind : Kind} {name : String} {index : Nat}
    (inside : index < arguments.length) (more : List Value) :
    Arguments.viewed view kind name (arguments ++ more) index =
      Arguments.viewed view kind name arguments index := by
  simp only [Arguments.viewed, Arguments.required, List.getElem?_append_left inside,
    List.getElem?_eq_getElem inside]

theorem orUndefined_append {index : Nat} (inside : index < arguments.length) (more : List Value) :
    Arguments.orUndefined (arguments ++ more) index = Arguments.orUndefined arguments index := by
  simp only [Arguments.orUndefined, List.getElem?_append_left inside]

theorem stateNumber_append {name : String} {index : Nat} (inside : index < arguments.length)
    (more : List Value) :
    Arguments.stateNumber name (arguments ++ more) index = Arguments.stateNumber name arguments index := by
  simp only [Arguments.stateNumber, orUndefined_append inside, viewed_append inside]

theorem get_append {index : Nat} (inside : index < arguments.length) (more : List Value)
    (still : index < (arguments ++ more).length) :
    (arguments ++ more).get ⟨index, still⟩ = arguments.get ⟨index, inside⟩ := by
  simp only [List.get_eq_getElem, List.getElem_append_left inside]

/-- What is given beyond the arguments that a global reads changes nothing. -/
theorem answer_append (global : Global) (enough : global.arity ≤ arguments.length)
    (all : global.demands.length ≤ arguments.length) (more : List Value)
    (still : global.arity ≤ (arguments ++ more).length) (services : Services) :
    global.answer (arguments ++ more) still services = global.answer arguments enough services := by
  have inside {index : Nat} (read : index < global.demands.length) : index < arguments.length :=
    Nat.lt_of_lt_of_le read all
  have string {index : Nat} (read : index < global.demands.length) :
      Arguments.string global.name (arguments ++ more) index =
        Arguments.string global.name arguments index := viewed_append (inside read) more
  have number {index : Nat} (read : index < global.demands.length) :
      Arguments.stateNumber global.name (arguments ++ more) index =
        Arguments.stateNumber global.name arguments index := stateNumber_append (inside read) more
  cases global with
  | getUrl =>
    have taken := get_append (inside (by decide : 0 < 1)) more still
    simp only [answer]
    rw [taken]
  | hello =>
    have taken := get_append (inside (by decide : 0 < 1)) more still
    simp only [answer]
    rw [taken]
  | notifyOnThingStatesChange =>
    have callback {name : String} :
        Arguments.function name (arguments ++ more) 1 = Arguments.function name arguments 1 :=
      viewed_append (inside (by decide : 1 < 2)) more
    simp only [answer, string (by decide : 0 < 2), callback]
  | unregisterThingStateListener =>
    have listener {name : String} :
        Arguments.listener name (arguments ++ more) 0 = Arguments.listener name arguments 0 :=
      viewed_append (inside (by decide : 0 < 1)) more
    simp only [answer, listener]
  | execThingAction =>
    simp only [answer, string (by decide : 0 < 3), string (by decide : 1 < 3),
      orUndefined_append (inside (by decide : 2 < 3))]
  | getThingState =>
    simp only [answer, string (by decide : 0 < 3), string (by decide : 1 < 3), number (by decide : 2 < 3)]
  | getAllThingStates => simp only [answer, string (by decide : 0 < 1)]
  | cmdThingState =>
    have taken := get_append (inside (by decide : 3 < 4)) more still
    simp only [answer, string (by decide : 0 < 4), string (by decide : 1 < 4), number (by decide : 2 < 4)]
    rw [taken]
  | setGlobalVar =>
    have taken := get_append (inside (by decide : 1 < 2)) more still
    simp only [answer, string (by decide : 0 < 2)]
    rw [taken]
  | getGlobalVar => simp only [answer, string (by decide : 0 < 1)]
  | getNamedInputValue => simp only [answer, string (by decide : 0 < 1)]
  | setNamedOutputValue =>
    have taken := get_append (inside (by decide : 1 < 2)) more still
    simp only [answer, string (by decide : 0 < 2)]
    rw [taken]
  | ruleType => rfl

end Global

namespace Loop.Machine

variable {σ : Type} [HostMemory σ] {m n : Machine σ} {name : String} {arguments : List Value}
  {outcome : Except HostError Value}

theorem installed_name {global : Global}
    (installed : Registry.globals.find? name = some (.ofGlobal global)) : global.name = name := by
  obtain ⟨other, named, same⟩ := Registry.find?_globals_iff.mp installed
  exact (congrArg HostFunction.name same).trans named

theorem installed_unique {global other : Global}
    (installed : Registry.globals.find? name = some (.ofGlobal global))
    (again : Registry.globals.find? name = some (.ofGlobal other)) : other = global :=
  Global.name_injective ((installed_name again).trans (installed_name installed).symm)

theorem contains_eq_false_iff : Registry.globals.contains name = false ↔
    Registry.globals.find? name = none := by
  rw [Registry.contains, Registry.find?, Table.contains_eq_isSome]
  simp

/-- A call that fails has a reason. -/
theorem Called.refusal (called : Called m name arguments outcome n) {error : HostError}
    (failed : outcome = .error error) : Refusal m.services name arguments error := by
  cases called with
  | undefinedFunction absent =>
    cases failed
    exact .undefinedFunction (contains_eq_false_iff.mpr absent)
  | short global installed short =>
    cases failed
    exact .arity (.ofGlobal global) installed short
  | refused global installed enough other refused =>
    cases failed
    have verdict := global.answer_verdict enough m.services
    rw [refused] at verdict
    cases verdict with
    | mismatch index demand found misfit first =>
      rw [installed_name installed]
      exact .typeMismatch global installed enough index demand found misfit first
    | declined fits _ declined => exact .declined global installed enough fits _ declined
  | answered => cases failed

/-- A call of a global with enough arguments is carried out. -/
theorem Called.carried (called : Called m name arguments outcome n) {global : Global}
    (installed : Registry.globals.find? name = some (.ofGlobal global))
    (enough : global.arity ≤ arguments.length) :
    outcome = (global.answer arguments enough m.services).map Global.Reply.value ∧
      n.memory = match global.answer arguments enough m.services with
        | .error _ => m.memory
        | .ok reply => (m.replied reply).memory := by
  cases called with
  | undefinedFunction absent => cases absent.symm.trans installed
  | short other again short =>
    obtain rfl := installed_unique installed again
    exact absurd short (Nat.not_lt.mpr enough)
  | refused other again _ _ refused =>
    obtain rfl := installed_unique installed again
    rw [refused]
    exact ⟨rfl, rfl⟩
  | answered other again _ _ answered =>
    obtain rfl := installed_unique installed again
    rw [answered]
    exact ⟨rfl, rfl⟩

/-- A call that has a reason to fail does fail, for that reason. -/
theorem Called.of_refusal (called : Called m name arguments outcome n) {error : HostError}
    (refusal : Refusal m.services name arguments error) : outcome = .error error := by
  cases refusal with
  | undefinedFunction missing =>
    have absent := contains_eq_false_iff.mp missing
    cases called with
    | undefinedFunction => rfl
    | short _ installed | refused _ installed | answered _ installed =>
      cases absent.symm.trans installed
  | arity function installed short =>
    cases called with
    | undefinedFunction absent => cases absent.symm.trans installed
    | short global again => cases installed.symm.trans again; rfl
    | refused global again enough | answered global again enough =>
      cases installed.symm.trans again
      exact absurd short (Nat.not_lt.mpr enough)
  | typeMismatch global installed enough index demand found misfit first =>
    have failed := (global.answer_verdict enough m.services).of_misfit misfit first
    rw [(called.carried installed enough).1, failed, installed_name installed]
    rfl
  | declined global installed enough fits _ declined =>
    have failed := (global.answer_verdict enough m.services).of_declined fits declined
    rw [(called.carried installed enough).1, failed]
    rfl

/-- More arguments than a global reads lead to the same outcome and the same memory. -/
theorem Called.append (called : Called m name arguments outcome n) {global : Global}
    (named : global.name = name) (all : global.demands.length ≤ arguments.length) (more : List Value)
    {other : Except HostError Value} {last : Machine σ}
    (longer : Called m name (arguments ++ more) other last) :
    other = outcome ∧ last.memory = n.memory := by
  have installed : Registry.globals.find? name = some (.ofGlobal global) :=
    named ▸ Registry.find?_globals_name global
  have enough : global.arity ≤ arguments.length := Nat.le_trans (Global.arity_le_demands global) all
  have still : global.arity ≤ (arguments ++ more).length := by
    rw [List.length_append]
    omega
  have same := global.answer_append enough all more still m.services
  obtain ⟨value, memory⟩ := called.carried installed enough
  obtain ⟨other, changed⟩ := longer.carried installed still
  rw [same] at other changed
  exact ⟨other.trans value.symm, changed.trans memory.symm⟩

/-- A call of any name with any arguments comes back, whatever the services hold. It fails exactly for the
reasons listed, of which there is never more than one, and what is given beyond the arguments that a global
reads makes no difference. -/
theorem dispatch_exact (m : Machine σ) (name : String) (arguments : List Value) :
    ∃ (outcome : Except HostError Value) (n : Machine σ),
      m.Yields (Host.call Registry.globals name arguments) (outcome.mapError .host) n ∧
      (∀ error, outcome = .error error ↔ Refusal m.services name arguments error) ∧
      ((∃ value, outcome = .ok value) ↔ ∀ error, ¬ Refusal m.services name arguments error) ∧
      ∀ global : Global, global.name = name → global.demands.length ≤ arguments.length →
        ∀ more, ∃ other : Machine σ,
          m.Yields (Host.call Registry.globals name (arguments ++ more)) (outcome.mapError .host) other ∧
            other.memory = n.memory := by
  obtain ⟨outcome, n, yields, called⟩ := call_called m name arguments
  have failed (error : HostError) : outcome = .error error ↔ Refusal m.services name arguments error :=
    ⟨called.refusal, called.of_refusal⟩
  refine ⟨outcome, n, yields, failed, ?_, ?_⟩
  · constructor
    · rintro ⟨value, rfl⟩ error refusal
      cases (failed error).mpr refusal
    · intro none
      cases outcome with
      | error error => exact absurd ((failed error).mp rfl) (none error)
      | ok value => exact ⟨value, rfl⟩
  · intro global named all more
    obtain ⟨other, last, further, longer⟩ := call_called m name (arguments ++ more)
    obtain ⟨rfl, same⟩ := called.append named all more longer
    exact ⟨last, further, same⟩

end Loop.Machine
end RuleHost
