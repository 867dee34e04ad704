import RuleHost.Proofs.HostDispatch
import RuleHost.Proofs.IntegerConversion

/-! A state is found again under every spelling of its number, and under no other number. What spells no
number is refused before any state is looked at. -/

namespace RuleHost

/-- The number of a state that an argument stands for, if it is there. -/
inductive Denotes : Option Value → Nat → Prop where
  | missing : Denotes none 0
  | undefined : Denotes (some .undefined) 0
  | null : Denotes (some .null) 0
  | int {number : Int64} {n : Nat} (small : n ≤ 65535) (same : number.toInt = n) :
      Denotes (some (.int number)) n
  | float {number : Binary64} {n : Nat} (small : n ≤ 65535) (equal : number.equals (.ofInt n) = true) :
      Denotes (some (.float number)) n

namespace Arguments

theorem naturalBelow_eq_some_iff {bound n : Nat} {value : Value} :
    naturalBelow bound value = some n ↔ ∃ number, value.toInt? = some number ∧ number.toInt = n ∧ n < bound := by
  unfold naturalBelow
  rw [Option.bind_eq_some_iff]
  refine exists_congr fun number => and_congr_right fun _ => ?_
  rw [Option.ite_none_right_eq_some, Bool.and_eq_true, decide_eq_true_eq, decide_eq_true_eq, Option.some.injEq]
  omega

theorem toInt?_float_iff {number : Binary64} {n : Nat} (small : n ≤ 65535) :
    (∃ integer, (Value.float number).toInt? = some integer ∧ integer.toInt = n) ↔
      number.equals (.ofInt n) = true := by
  rw [← Binary64.toInt?_eq_some_iff (by omega)]
  constructor
  · rintro ⟨integer, stands, same⟩
    rw [← same]
    exact Value.toInt?_float_eq_some_iff.mp stands
  · intro stands
    have same : (Int64.ofInt n).toInt = n := Int64.toInt_ofInt_of_le (by omega) (by omega)
    exact ⟨_, Value.toInt?_float_eq_some_iff.mpr (same.symm ▸ stands), same⟩

theorem naturalBelow_iff_denotes {n : Nat} {value : Value} (given : value.isNullish = false) :
    naturalBelow UInt16.size value = some n ↔ Denotes (some value) n := by
  have bound : n < UInt16.size ↔ n ≤ 65535 := Nat.lt_succ_iff
  rw [naturalBelow_eq_some_iff, bound]
  cases value with
  | undefined | null => cases given
  | int number =>
    constructor
    · rintro ⟨_, stands, same, small⟩
      cases stands
      exact .int small same
    · rintro ⟨⟩
      exact ⟨number, rfl, ‹_›, ‹_›⟩
  | float number =>
    constructor
    · rintro ⟨integer, stands, same, small⟩
      exact .float small ((toInt?_float_iff small).mp ⟨integer, stands, same⟩)
    · intro denotes
      cases denotes with
      | float small equal =>
        obtain ⟨integer, stands, same⟩ := (toInt?_float_iff small).mpr equal
        exact ⟨integer, stands, same, small⟩
  | bool | string | list | function => exact ⟨nofun, nofun⟩

variable {name : String} {arguments : List Value} {index n : Nat}

theorem stateNumber_eq_ok (denotes : Denotes arguments[index]? n) :
    stateNumber name arguments index = .ok n := by
  unfold stateNumber orUndefined
  cases given : arguments[index]? with
  | none =>
    rw [given] at denotes
    cases denotes
    rfl
  | some value =>
    rw [given] at denotes
    cases nullish : value.isNullish with
    | true =>
      rw [Option.getD_some, if_pos nullish]
      cases denotes <;> first | rfl | cases nullish
    | false =>
      have read := (naturalBelow_iff_denotes nullish).mpr denotes
      simp only [Option.getD_some, nullish, Bool.false_eq_true, if_false, viewed, required, given, bind, Except.bind,
        read]

theorem stateNumber_eq_error {value : Value} (given : arguments[index]? = some value)
    (other : ∀ n, ¬Denotes (some value) n) :
    stateNumber name arguments index = .error (.typeMismatch name index .int value.kind) := by
  have nullish : value.isNullish = false := by
    cases value with
    | undefined => exact absurd .undefined (other 0)
    | null => exact absurd .null (other 0)
    | _ => rfl
  have unread : naturalBelow UInt16.size value = none :=
    Option.eq_none_iff_forall_ne_some.mpr fun n => mt (naturalBelow_iff_denotes nullish).mp (other n)
  unfold stateNumber orUndefined
  simp only [given, Option.getD_some, nullish, Bool.false_eq_true, if_false, viewed, required, bind, Except.bind,
    unread]
  rfl

end Arguments

section Calls

variable (thing state : String) (number value : Value) (asked : Option Value)

def commandArguments : List Value := [.string thing, .string state, number, value]

def readArguments : List Value := [.string thing, .string state] ++ asked.toList

theorem commandArguments_enough : Global.cmdThingState.arity ≤ (commandArguments thing state number value).length :=
  Nat.le_refl 4

theorem readArguments_enough : Global.getThingState.arity ≤ (readArguments thing state asked).length :=
  Nat.le_add_left 2 _

variable {σ : Type} [HostMemory σ]

def commandState : Loop.Act σ Loop.Outcome :=
  Host.call .globals "cmdThingState" (commandArguments thing state number value)

def readState : Loop.Act σ Loop.Outcome := Host.call .globals "getThingState" (readArguments thing state asked)

/-- Both globals read the number of the state before they look at the things. -/
theorem answer_command (services : Services) :
    Global.cmdThingState.answer _ (commandArguments_enough thing state number value) services =
      (Arguments.stateNumber "cmdThingState" (commandArguments thing state number value) 2).map fun n =>
        let (accepted, things) := services.things.command thing ⟨state, n⟩ value
        ⟨.bool accepted, { services with things }, none⟩ := by
  have texts : Arguments.string "cmdThingState" (commandArguments thing state number value) 0 = .ok thing ∧
      Arguments.string "cmdThingState" (commandArguments thing state number value) 1 = .ok state := ⟨rfl, rfl⟩
  simp only [Global.answer, Global.name, texts, bind, Except.bind]
  cases Arguments.stateNumber "cmdThingState" (commandArguments thing state number value) 2 <;> rfl

theorem answer_read (services : Services) :
    Global.getThingState.answer _ (readArguments_enough thing state asked) services =
      (Arguments.stateNumber "getThingState" (readArguments thing state asked) 2).bind fun n =>
        (services.things.state thing ⟨state, n⟩).map fun value => ⟨value, services, none⟩ := by
  have texts : Arguments.string "getThingState" (readArguments thing state asked) 0 = .ok thing ∧
      Arguments.string "getThingState" (readArguments thing state asked) 1 = .ok state := ⟨rfl, rfl⟩
  simp only [Global.answer, Global.name, texts, bind, Except.bind]
  rfl

end Calls

namespace Loop.Machine

variable {σ : Type} [HostMemory σ] (m : Machine σ) (thing state : String)

theorem replied_services (reply : Global.Reply) : (m.replied reply).services = reply.services := by
  simp [replied, told, services]

theorem commandState_yields {number : Value} (value : Value) {n : Nat} (denotes : Denotes (some number) n) :
    ∃ last, m.Yields (commandState thing state number value)
        (.ok (.bool (m.services.things.command thing ⟨state, n⟩ value).1)) last ∧
      last.services.things = (m.services.things.command thing ⟨state, n⟩ value).2 := by
  have answered := answer_command thing state number value m.services
  rw [Arguments.stateNumber_eq_ok denotes] at answered
  exact ⟨_, ((m.within_call_global .cmdThingState _).2 _ answered).yields, by rw [replied_services]⟩

theorem readState_yields {asked : Option Value} {n : Nat} {value : Value} (denotes : Denotes asked n)
    (stored : m.services.things.state thing ⟨state, n⟩ = .ok value) :
    ∃ last, m.Yields (readState thing state asked) (.ok value) last := by
  have given : (readArguments thing state asked)[2]? = asked := by cases asked <;> rfl
  have answered := answer_read thing state asked m.services
  rw [Arguments.stateNumber_eq_ok (given.symm ▸ denotes), Except.bind, stored] at answered
  exact ⟨_, ((m.within_call_global .getThingState _).2 _ answered).yields⟩

theorem commandState_refused {number : Value} (value : Value) (other : ∀ n, ¬Denotes (some number) n) :
    m.Yields (commandState thing state number value)
      (.error (.host (.typeMismatch "cmdThingState" 2 .int number.kind))) (m.note (.hostCall "cmdThingState" 4)) := by
  have refused := answer_command thing state number value m.services
  rw [Arguments.stateNumber_eq_error rfl other] at refused
  exact ((m.within_call_global .cmdThingState _).1 _ refused).yields

theorem readState_refused {number : Value} (other : ∀ n, ¬Denotes (some number) n) :
    m.Yields (readState thing state (some number))
      (.error (.host (.typeMismatch "getThingState" 2 .int number.kind))) (m.note (.hostCall "getThingState" 3)) := by
  have refused := answer_read thing state (some number) m.services
  rw [Arguments.stateNumber_eq_error rfl other] at refused
  exact ((m.within_call_global .getThingState _).1 _ refused).yields

end Loop.Machine

/-- A command to a known thing is accepted. It gives one state its value and leaves all others. -/
theorem Things.command_of_knows {things : Things} {thing : String} (known : things.knows thing = true)
    (key : StateKey) (value : Value) :
    (things.command thing key value).1 = true ∧ ∃ states, things.known.find? thing = some states ∧
      ∀ other, (things.command thing key value).2.state thing other =
        .ok (if key = other then value else (states.find? other).getD .undefined) := by
  obtain ⟨states, found⟩ := Things.find?_of_knows known
  rw [command, found]
  refine ⟨rfl, states, rfl, fun other => ?_⟩
  simp only [state, Table.find?_insert, if_true]
  split <;> rfl

namespace Loop.Machine

variable {σ : Type} [HostMemory σ]

/-- What is read after a command is the commanded value if both numbers are the same, however they are spelled,
and otherwise what was read before the command. A number that stands for no state is a mismatch, whatever things
there are, and leaves them as they are. -/
theorem readState_commandState (m : Machine σ) (thing state : String) (number value : Value)
    (asked : Option Value) :
    (∀ n k, m.services.things.knows thing = true → Denotes (some number) n → Denotes asked k →
        ∃ before earlier middle last,
          m.Yields (readState thing state asked) (.ok before) earlier ∧
          m.Yields (commandState thing state number value) (.ok (.bool true)) middle ∧
          middle.Yields (readState thing state asked) (.ok (if n = k then value else before)) last) ∧
      ((∀ n, ¬Denotes (some number) n) →
        m.Yields (commandState thing state number value)
          (.error (.host (.typeMismatch "cmdThingState" 2 .int number.kind)))
          (m.note (.hostCall "cmdThingState" 4)) ∧
        m.Yields (readState thing state (some number))
          (.error (.host (.typeMismatch "getThingState" 2 .int number.kind)))
          (m.note (.hostCall "getThingState" 3))) := by
  refine ⟨fun n k known denotes asks => ?_, fun other => ?_⟩
  · obtain ⟨accepted, states, found, reads⟩ := Things.command_of_knows known ⟨state, n⟩ value
    have stored : m.services.things.state thing ⟨state, k⟩ = .ok ((states.find? ⟨state, k⟩).getD .undefined) := by
      rw [Things.state, found]
    obtain ⟨earlier, before⟩ := m.readState_yields thing state asks stored
    obtain ⟨middle, command, things⟩ := m.commandState_yields thing state value denotes
    rw [accepted] at command
    obtain ⟨last, after⟩ := middle.readState_yields thing state asks (things ▸ reads ⟨state, k⟩)
    refine ⟨_, earlier, middle, last, before, command, ?_⟩
    simpa only [StateKey.mk.injEq, true_and] using after
  · exact ⟨m.commandState_refused thing state value other, m.readState_refused thing state other⟩

def lit : Machine Host := { memory := { services := { things := ({} : Things).add "lamp" } }, script := .busy }

/-- The negative zero is a way to write 0, and 65536 is none. -/
theorem readState_commandState_lit :
    lit.services.things.knows "lamp" = true ∧ Denotes (some (.float ⟨0x8000000000000000⟩)) 0 ∧ Denotes none 0 ∧
      (∃ middle last,
        lit.Yields (commandState "lamp" "on" (.float ⟨0x8000000000000000⟩) (.bool true)) (.ok (.bool true)) middle ∧
        middle.Yields (readState "lamp" "on" none) (.ok (.bool true)) last) ∧
      lit.Yields (readState "lamp" "on" (some (.int 65536)))
        (.error (.host (.typeMismatch "getThingState" 2 .int .int))) (lit.note (.hostCall "getThingState" 3)) := by
  have known : lit.services.things.knows "lamp" = true := by decide
  have zero : Denotes (some (.float ⟨0x8000000000000000⟩)) 0 := .float (by decide) (by decide)
  have other (n : Nat) : ¬Denotes (some (.int 65536)) n := by
    rintro ⟨⟩
    rename_i small same
    have size : (65536 : Int64).toInt = 65536 := by decide
    omega
  obtain ⟨_, _, middle, last, _, command, read⟩ :=
    (lit.readState_commandState "lamp" "on" (.float ⟨0x8000000000000000⟩) (.bool true) none).1 0 0 known zero .missing
  exact ⟨known, zero, .missing, ⟨middle, last, command, read⟩,
    ((lit.readState_commandState "lamp" "on" (.int 65536) (.bool true) none).2 other).2⟩

end Loop.Machine
end RuleHost
