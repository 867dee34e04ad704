import RuleHost.Host.Act
import RuleHost.Proofs.ActResults

/-! What a call of a global by its name can come to. What is said of such calls is proved by cases on this,
and nothing follows a call through the loop again. -/

namespace RuleHost

namespace Global

theorem mem_all (global : Global) : global ∈ all := by
  cases global <;> decide

theorem name_injective {first second : Global} (same : first.name = second.name) : first = second := by
  have distinct : ∀ a ∈ all, ∀ b ∈ all, a.name = b.name → a = b := by decide
  exact distinct first (mem_all first) second (mem_all second) same

end Global

namespace Registry

theorem find?_register (registry : Registry) (function : HostFunction) (name : String) :
    (registry.register function).find? name =
      if function.name = name then some function else registry.find? name :=
  Table.find?_insert registry.table function.name name function

/-- Of several functions of one name the last one stays. -/
theorem find?_registerAll (registry : Registry) (functions : List HostFunction) (name : String) :
    (registry.registerAll functions).2.find? name =
      (functions.reverse.find? fun function => function.name == name).or (registry.find? name) := by
  induction functions generalizing registry with
  | nil => rfl
  | cons function rest ih =>
    rw [registerAll, ih, find?_register, List.reverse_cons, List.find?_append, Option.or_assoc]
    congr 1
    by_cases same : function.name = name <;> simp [same]

/-- Exactly the globals are installed, each under its own name. -/
theorem find?_globals_iff {name : String} {function : HostFunction} :
    globals.find? name = some function ↔
      ∃ global : Global, global.name = name ∧ function = .ofGlobal global := by
  have installed : globals.find? name =
      (Global.all.map HostFunction.ofGlobal).reverse.find? fun function => function.name == name := by
    have all := find?_registerAll ⟨.empty⟩ (Global.all.map HostFunction.ofGlobal) name
    exact all.trans (Option.or_none)
  rw [installed]
  constructor
  · intro found
    have named := List.find?_some found
    have member := List.mem_of_find?_eq_some found
    rw [List.mem_reverse, List.mem_map] at member
    obtain ⟨global, _, rfl⟩ := member
    exact ⟨global, by simpa [HostFunction.ofGlobal] using named, rfl⟩
  · rintro ⟨global, rfl, rfl⟩
    cases found : (Global.all.map HostFunction.ofGlobal).reverse.find?
        fun function => function.name == global.name with
    | none =>
      rw [List.find?_eq_none] at found
      have absent := found (.ofGlobal global) (by
        rw [List.mem_reverse]
        exact List.mem_map_of_mem (Global.mem_all global))
      exact absurd (beq_self_eq_true global.name) absent
    | some other =>
      have named := List.find?_some found
      have member := List.mem_of_find?_eq_some found
      rw [List.mem_reverse, List.mem_map] at member
      obtain ⟨same, _, rfl⟩ := member
      have names : same.name = global.name := by simpa [HostFunction.ofGlobal] using named
      rw [Global.name_injective names]

theorem find?_globals_name (global : Global) : globals.find? global.name = some (.ofGlobal global) :=
  find?_globals_iff.mpr ⟨global, rfl, rfl⟩

end Registry

namespace Loop.Machine

variable {σ : Type}

def told (m : Machine σ) (notices : List Notice) : Machine σ :=
  { m with notices := notices.reverse ++ m.notices }

theorem within_noteAll (m : Machine σ) (notices : List Notice) :
    m.Within (Host.noteAll notices) notices.length () (m.told notices) := by
  induction notices generalizing m with
  | nil => exact .pure m 0 ()
  | cons notice rest ih =>
    have same : m.told (notice :: rest) = (m.note notice).told rest := by simp [told, note]
    rw [same]
    exact (within_note m notice).bind (ih (m.note notice)) (Nat.le_add_left 1 rest.length)

variable [HostMemory σ]

def services (m : Machine σ) : Services := (HostMemory.host m.memory).services

theorem within_get (m : Machine σ) : m.Within Host.get 1 (HostMemory.host m.memory) m :=
  (within_memory m).bind (.pure m 0 _) (Nat.le_refl 1)

theorem within_modify (m : Machine σ) (change : Host → Host) :
    m.Within (Host.modify change) 2 ()
      { m with memory := HostMemory.setHost (change (HostMemory.host m.memory)) m.memory } :=
  within_modifyMemory m _

/-- The machine whose services are those after a reply, and whose log was told what the reply tells. -/
def replied (m : Machine σ) (reply : Global.Reply) : Machine σ :=
  let host := { HostMemory.host m.memory with services := reply.services }
  { m with memory := HostMemory.setHost host m.memory }.told reply.notice.toList

theorem within_callGlobal (m : Machine σ) (global : Global) {arguments : List Value}
    (enough : global.arity ≤ arguments.length) :
    (∀ error, global.answer arguments enough m.services = .error error →
      m.Within (Host.callGlobal global arguments enough) 4 (.error (.host error)) m) ∧
    ∀ reply, global.answer arguments enough m.services = .ok reply →
      m.Within (Host.callGlobal global arguments enough) 4 (.ok reply.value) (m.replied reply) := by
  constructor
  · intro error refused
    refine (within_get m).bind ?_ (by decide)
    have refused : global.answer arguments enough (HostMemory.host m.memory).services = .error error :=
      refused
    rw [refused]
    exact .pure m _ _
  · intro reply answered
    refine (within_get m).bind ?_ (by decide)
    have answered : global.answer arguments enough (HostMemory.host m.memory).services = .ok reply :=
      answered
    rw [answered]
    have few : reply.notice.toList.length ≤ 1 := by cases reply.notice <;> simp
    refine (within_modify m _).bind ?_ (by decide)
    exact ((within_noteAll _ reply.notice.toList).mono few).bind (.pure _ _ _) (Nat.le_refl 1)

theorem callFunction_ofGlobal (global : Global) {arguments : List Value}
    (enough : global.arity ≤ arguments.length) :
    Host.callFunction (σ := σ) (.ofGlobal global) arguments = Host.callGlobal global arguments enough := by
  unfold Host.callFunction
  rw [dif_neg (show ¬ arguments.length < (HostFunction.ofGlobal global).arity from Nat.not_lt.mpr enough)]
  rfl

/-- A call of a global by its name, with enough arguments. -/
theorem within_call_global (m : Machine σ) (global : Global) {arguments : List Value}
    (enough : global.arity ≤ arguments.length) :
    (∀ error, global.answer arguments enough m.services = .error error →
      m.Within (Host.call Registry.globals global.name arguments) 5 (.error (.host error))
        (m.note (.hostCall global.name arguments.length))) ∧
    ∀ reply, global.answer arguments enough m.services = .ok reply →
      m.Within (Host.call Registry.globals global.name arguments) 5 (.ok reply.value)
        ((m.note (.hostCall global.name arguments.length)).replied reply) := by
  have noted := within_note m (.hostCall global.name arguments.length)
  have call := within_callGlobal (m.note (.hostCall global.name arguments.length)) global enough
  unfold Host.call
  rw [Registry.find?_globals_name]
  constructor
  · intro error refused
    refine noted.bind ?_ (by decide)
    rw [callFunction_ofGlobal global enough]
    exact call.1 error refused
  · intro reply answered
    refine noted.bind ?_ (by decide)
    rw [callFunction_ofGlobal global enough]
    exact call.2 reply answered

/-- The ways in which a call of a name with some arguments can end. -/
inductive Called (m : Machine σ) (name : String) (arguments : List Value) :
    Except HostError Value → Machine σ → Prop where
  | undefinedFunction (absent : Registry.globals.find? name = none) :
      Called m name arguments (.error (.undefinedFunction name)) m
  | short (global : Global) (installed : Registry.globals.find? name = some (.ofGlobal global))
      (short : arguments.length < global.arity) :
      Called m name arguments (.error (.arity name global.arity arguments.length))
        (m.note (.hostCall name arguments.length))
  | refused (global : Global) (installed : Registry.globals.find? name = some (.ofGlobal global))
      (enough : global.arity ≤ arguments.length) (error : HostError)
      (refused : global.answer arguments enough m.services = .error error) :
      Called m name arguments (.error error) (m.note (.hostCall name arguments.length))
  | answered (global : Global) (installed : Registry.globals.find? name = some (.ofGlobal global))
      (enough : global.arity ≤ arguments.length) (reply : Global.Reply)
      (answered : global.answer arguments enough m.services = .ok reply) :
      Called m name arguments (.ok reply.value)
        ((m.note (.hostCall name arguments.length)).replied reply)

/-- A call of a name always comes back, in one of these ways. -/
theorem within_call (m : Machine σ) (name : String) (arguments : List Value) :
    ∃ outcome n, m.Within (Host.call Registry.globals name arguments) 5 (outcome.mapError .host) n ∧
      Called m name arguments outcome n := by
  cases found : Registry.globals.find? name with
  | none =>
    refine ⟨_, m, ?_, .undefinedFunction found⟩
    unfold Host.call
    rw [found]
    exact .pure m 5 _
  | some function =>
    obtain ⟨global, rfl, rfl⟩ := Registry.find?_globals_iff.mp found
    by_cases short : arguments.length < global.arity
    · refine ⟨_, _, ?_, .short global found short⟩
      unfold Host.call
      rw [found]
      refine (within_note m _).bind ?_ (by decide)
      unfold Host.callFunction
      rw [dif_pos (show arguments.length < (HostFunction.ofGlobal global).arity from short)]
      exact .pure _ _ _
    · have enough := Nat.le_of_not_lt short
      have call := within_call_global m global enough
      cases answer : global.answer arguments enough m.services with
      | error error =>
        exact ⟨.error error, _, call.1 error answer, .refused global found enough error answer⟩
      | ok reply =>
        exact ⟨.ok reply.value, _, call.2 reply answer, .answered global found enough reply answer⟩

theorem call_called (m : Machine σ) (name : String) (arguments : List Value) :
    ∃ outcome n, m.Yields (Host.call Registry.globals name arguments) (outcome.mapError .host) n ∧
      Called m name arguments outcome n := by
  obtain ⟨outcome, n, within, called⟩ := within_call m name arguments
  exact ⟨outcome, n, within.yields, called⟩

end Loop.Machine
end RuleHost
