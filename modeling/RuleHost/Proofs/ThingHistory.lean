import Mathlib.Data.List.Nodup
import RuleHost.Service.Things

/-! What the things hold, told by what was done to them. A history lists the operations, newest first; what it
says about a thing is read off the operations that name it, without any table. -/

namespace RuleHost.Things

inductive Operation where
  | add (thing : String)
  | set (thing : String) (key : StateKey) (value : Value)
  | command (thing : String) (key : StateKey) (value : Value)
  | execute (thing action : String) (arguments : Value)

/-- The things after one more operation. An action on a thing that is not known leaves them as they are. -/
def perform (things : Things) : Operation → Things
  | .add thing => things.add thing
  | .set thing key value => things.setState thing key value
  | .command thing key value => (things.command thing key value).2
  | .execute thing action arguments =>
    match things.execute thing action arguments with
    | .ok after => after
    | .error _ => things

def after : List Operation → Things
  | [] => {}
  | operation :: earlier => (after earlier).perform operation

def Operation.introduces (thing : String) : Operation → Bool
  | .add name => name = thing
  | .set name _ _ => name = thing
  | .command .. => false
  | .execute .. => false

/-- A thing was added, or a state of it was set. -/
def Known (history : List Operation) (thing : String) : Prop :=
  ∃ operation ∈ history, operation.introduces thing = true

instance (history : List Operation) (thing : String) : Decidable (Known history thing) :=
  inferInstanceAs (Decidable (∃ operation ∈ history, operation.introduces thing = true))

/-- The writes to states of a thing, oldest first. A command writes if the thing was known then. -/
def writes (thing : String) : List Operation → List (StateKey × Value)
  | [] => []
  | .set name key value :: earlier => writes thing earlier ++ if name = thing then [(key, value)] else []
  | .command name key value :: earlier =>
    writes thing earlier ++ if name = thing ∧ Known earlier name then [(key, value)] else []
  | .add _ :: earlier => writes thing earlier
  | .execute .. :: earlier => writes thing earlier

def executions : List Operation → List Action
  | [] => []
  | .execute thing action arguments :: earlier =>
    executions earlier ++ if Known earlier thing then [⟨thing, action, arguments⟩] else []
  | .add _ :: earlier => executions earlier
  | .set .. :: earlier => executions earlier
  | .command .. :: earlier => executions earlier

def lastValue (log : List (StateKey × Value)) (key : StateKey) : Value :=
  (log.reverse.lookup key).getD .undefined

/-- Each written key once, in the order in which the keys were first written. -/
structure FirstWritten (keys written : List StateKey) : Prop where
  distinct : keys.Nodup
  members : ∀ key, key ∈ keys ↔ key ∈ written
  ordered : keys.Pairwise fun first second => written.idxOf first < written.idxOf second

structure Holds (states : Table StateKey Value) (log : List (StateKey × Value)) : Prop where
  keys : FirstWritten states.keys (log.map Prod.fst)
  values : ∀ key, states.find? key = log.reverse.lookup key

theorem Holds.empty : Holds .empty [] :=
  ⟨⟨.nil, fun _ => Iff.rfl, .nil⟩, fun _ => rfl⟩

variable {keys written : List StateKey} {states : Table StateKey Value} {log : List (StateKey × Value)}
  {history : List Operation} {thing : String}

/-- Writing under a key again changes nothing about which keys were first written when. -/
theorem FirstWritten.again (first : FirstWritten keys written) {key : StateKey} (known : key ∈ keys) :
    FirstWritten keys (written ++ [key]) := by
  have before {other : StateKey} (member : other ∈ keys) : (written ++ [key]).idxOf other = written.idxOf other :=
    List.idxOf_append_of_mem ((first.members other).mp member)
  refine ⟨first.distinct, fun other => ?_, first.ordered.imp_of_mem fun left right order => ?_⟩
  · rw [List.mem_append, List.mem_singleton, ← first.members other]
    exact ⟨Or.inl, fun either => either.elim id fun same => same ▸ known⟩
  · rw [before left, before right]
    exact order

/-- A key that was not written before comes after all that were. -/
theorem FirstWritten.fresh (first : FirstWritten keys written) {key : StateKey} (fresh : key ∉ keys) :
    FirstWritten (keys ++ [key]) (written ++ [key]) := by
  have unwritten : key ∉ written := fun member => fresh ((first.members key).mpr member)
  have before {other : StateKey} (member : other ∈ keys) : (written ++ [key]).idxOf other = written.idxOf other :=
    List.idxOf_append_of_mem ((first.members other).mp member)
  refine ⟨?_, fun other => ?_, List.pairwise_append.mpr ⟨?_, List.pairwise_singleton _ _, ?_⟩⟩
  · exact List.nodup_append.mpr ⟨first.distinct, List.nodup_singleton key, fun other member last same => by
      rintro rfl
      exact fresh (List.mem_singleton.mp ‹_› ▸ member)⟩
  · rw [List.mem_append, List.mem_append, first.members other]
  · exact first.ordered.imp_of_mem fun left right order => by rwa [before left, before right]
  · intro other member last same
    rw [List.mem_singleton.mp same, before member, List.idxOf_append_of_notMem unwritten]
    have inside := List.idxOf_lt_length_of_mem ((first.members other).mp member)
    omega

theorem Holds.insert (held : Holds states log) (key : StateKey) (value : Value) :
    Holds (states.insert key value) (log ++ [(key, value)]) := by
  constructor
  · rw [List.map_append, List.map_singleton]
    by_cases known : key ∈ states.keys
    · rw [Table.keys_insert_of_mem value known]
      exact held.keys.again known
    · rw [Table.keys_insert_of_not_mem value known]
      exact held.keys.fresh known
  · intro other
    rw [Table.find?_insert, List.reverse_append, List.reverse_singleton, List.singleton_append, List.lookup_cons,
      held.values other]
    by_cases same : key = other
    · simp [same]
    · simp [same, beq_false_of_ne (Ne.symm same)]

theorem Holds.state (held : Holds states log) (key : StateKey) :
    (states.find? key).getD .undefined = lastValue log key := by
  rw [held.values, lastValue]

/-- The entries of the table are its keys with the values last written under them. -/
theorem Holds.entries (held : Holds states log) :
    states.entries = states.keys.map fun key => (key, lastValue log key) := by
  rw [Table.keys, List.map_map]
  refine (List.map_id _).symm.trans (List.map_congr_left fun entry member => ?_)
  have found : states.find? entry.1 = some entry.2 := Table.find?_eq_some_iff.mpr member
  rw [id, Function.comp, ← held.state, found, Option.getD_some]

/-- What is found under the name of a thing after a history. -/
def Reflects (history : List Operation) (thing : String) : Option (Table StateKey Value) → Prop
  | none => ¬Known history thing
  | some states => Known history thing ∧ Holds states (writes thing history)

theorem Reflects.known_iff {found : Option (Table StateKey Value)} (reflects : Reflects history thing found) :
    found.isSome ↔ Known history thing := by
  cases found with
  | none => exact ⟨nofun, fun known => absurd known reflects⟩
  | some states => exact ⟨fun _ => reflects.1, fun _ => rfl⟩

theorem known_cons (operation : Operation) :
    Known (operation :: history) thing ↔ operation.introduces thing = true ∨ Known history thing :=
  List.exists_mem_cons_iff _ _ _

/-- Nothing is written to a thing before it is known. -/
theorem writes_eq_nil (unknown : ¬Known history thing) : writes thing history = [] := by
  induction history with
  | nil => rfl
  | cons operation earlier ih =>
    rw [known_cons, not_or] at unknown
    obtain ⟨apart, unknown⟩ := unknown
    cases operation with
    | add | execute => exact ih unknown
    | set name key value =>
      have differ : name ≠ thing := by simpa [Operation.introduces] using apart
      rw [writes, ih unknown, if_neg differ, List.nil_append]
    | command name key value =>
      rw [writes, ih unknown, if_neg, List.nil_append]
      rintro ⟨rfl, known⟩
      exact unknown known

/-- An operation that writes nothing to a thing and does not introduce it anew leaves it as it is. -/
theorem Reflects.pass {found : Option (Table StateKey Value)} (reflects : Reflects history thing found)
    {operation : Operation} (old : operation.introduces thing = true → Known history thing)
    (unwritten : writes thing (operation :: history) = writes thing history) :
    Reflects (operation :: history) thing found := by
  have same : Known (operation :: history) thing ↔ Known history thing :=
    (known_cons operation).trans ⟨fun either => either.elim old id, Or.inr⟩
  cases found with
  | none => exact mt same.mp reflects
  | some states => exact ⟨same.mpr reflects.1, unwritten ▸ reflects.2⟩

theorem Reflects.holds {found : Option (Table StateKey Value)} (reflects : Reflects history thing found) :
    Holds (found.getD .empty) (writes thing history) := by
  cases found with
  | none =>
    rw [writes_eq_nil reflects]
    exact .empty
  | some states => exact reflects.2

theorem perform_execute (things : Things) (name action : String) (arguments : Value) :
    things.perform (.execute name action arguments) =
      if things.knows name then { things with actions := ⟨name, action, arguments⟩ :: things.actions }
      else things := by
  by_cases known : things.knows name = true
  · simp only [perform, execute, known, if_true]
  · simp only [perform, execute, known, Bool.false_eq_true, if_false]

/-- What one more operation does under the name of one thing. -/
theorem reflects_perform {things : Things} (reflects : ∀ thing, Reflects history thing (things.known.find? thing))
    (operation : Operation) (thing : String) :
    Reflects (operation :: history) thing ((things.perform operation).known.find? thing) := by
  cases operation with
  | add name =>
    rw [perform, add, knows, Table.contains_eq_isSome]
    split
    next known =>
      refine (reflects thing).pass (fun introduced => ?_) rfl
      exact of_decide_eq_true introduced ▸ (reflects name).known_iff.mp known
    next unknown =>
      rw [Table.find?_insert]
      split
      next same =>
        subst same
        have fresh := mt (reflects name).known_iff.mpr unknown
        refine ⟨(known_cons _).mpr (.inl (decide_eq_true rfl)), ?_⟩
        rw [writes, writes_eq_nil fresh]
        exact .empty
      next apart =>
        exact (reflects thing).pass (fun introduced => absurd (of_decide_eq_true introduced) apart) rfl
  | set name key value =>
    rw [perform, setState, Table.find?_insert]
    split
    next same =>
      subst same
      refine ⟨(known_cons _).mpr (.inl (decide_eq_true rfl)), ?_⟩
      rw [writes, if_pos rfl]
      exact (reflects name).holds.insert key value
    next apart =>
      refine (reflects thing).pass (fun introduced => absurd (of_decide_eq_true introduced) apart) ?_
      rw [writes, if_neg apart, List.append_nil]
  | command name key value =>
    rw [perform, command]
    split
    next states found =>
      have named := reflects name
      rw [found] at named
      rw [Table.find?_insert]
      split
      next same =>
        subst same
        refine ⟨(known_cons _).mpr (.inr named.1), ?_⟩
        rw [writes, if_pos ⟨rfl, named.1⟩]
        exact named.2.insert key value
      next apart =>
        refine (reflects thing).pass (absurd · Bool.false_ne_true) ?_
        rw [writes, if_neg (fun both => apart both.1), List.append_nil]
    next absent =>
      have unknown := reflects name
      rw [absent] at unknown
      refine (reflects thing).pass (absurd · Bool.false_ne_true) ?_
      rw [writes, if_neg (fun both => unknown both.2), List.append_nil]
  | execute name action arguments =>
    have kept : (things.perform (.execute name action arguments)).known = things.known := by
      rw [perform_execute]
      split <;> rfl
    rw [kept]
    exact (reflects thing).pass (absurd · Bool.false_ne_true) rfl

theorem reflects_after (history : List Operation) (thing : String) :
    Reflects history thing ((after history).known.find? thing) := by
  induction history generalizing thing with
  | nil =>
    rintro ⟨operation, member, _⟩
    cases member
  | cons operation earlier ih => exact reflects_perform ih operation thing

theorem knows_iff : (after history).knows thing = true ↔ Known history thing := by
  rw [knows, Table.contains_eq_isSome]
  exact (reflects_after history thing).known_iff

theorem executed_after (history : List Operation) : (after history).executed = executions history := by
  induction history with
  | nil => rfl
  | cons operation earlier ih =>
    rw [after]
    cases operation with
    | add name =>
      rw [executions, ← ih, perform, add]
      split <;> rfl
    | set name key value => exact ih
    | command name key value =>
      rw [executions, ← ih, perform, command]
      split <;> rfl
    | execute name action arguments =>
      rw [executions, ← ih, perform_execute, apply_ite executed, executed, List.reverse_cons]
      by_cases known : Known earlier name
      · rw [if_pos (knows_iff.mpr known), if_pos known, executed]
      · rw [if_neg (mt knows_iff.mp known), if_neg known, List.append_nil]

/-- What can be asked of a thing, and done to it, after a history in which it is known. -/
structure Present (history : List Operation) (thing : String) : Prop where
  add : after (.add thing :: history) = after history
  command : ∀ key value,
    (after history).command thing key value = (true, after (.command thing key value :: history))
  execute : ∀ action arguments,
    (after history).execute thing action arguments = .ok (after (.execute thing action arguments :: history))
  state : ∀ key, (after history).state thing key = .ok (lastValue (writes thing history) key)
  allStates : ∃ keys, FirstWritten keys ((writes thing history).map Prod.fst) ∧
    (after history).allStates thing =
      .ok (.list (keys.map fun key => stateEntry (key, lastValue (writes thing history) key)))

structure Missing (history : List Operation) (thing : String) : Prop where
  /-- It refuses commands and actions, which leave everything as it is. -/
  command : ∀ key value, (after history).command thing key value = (false, after history) ∧
    after (.command thing key value :: history) = after history
  execute : ∀ action arguments,
    (after history).execute thing action arguments = .error (.unknownThing thing) ∧
      after (.execute thing action arguments :: history) = after history
  state : ∀ key, (after history).state thing key = .error (.unknownThing thing)
  allStates : (after history).allStates thing = .error (.unknownThing thing)

theorem present (known : Known history thing) : Present history thing := by
  have knows := knows_iff.mpr known
  have reflects := reflects_after history thing
  cases found : (after history).known.find? thing with
  | none =>
    rw [found] at reflects
    exact absurd known reflects
  | some states =>
    rw [found] at reflects
    obtain ⟨_, held⟩ := reflects
    refine ⟨?_, fun key value => ?_, fun action arguments => ?_, fun key => ?_, states.keys, held.keys, ?_⟩
    · rw [after, perform, Things.add, if_pos knows]
    · rw [after, perform, Things.command, found]
    · rw [after, perform_execute, Things.execute, if_pos knows, if_pos knows]
    · rw [Things.state, found]
      exact congrArg Except.ok (held.state key)
    · rw [Things.allStates, found]
      exact congrArg (fun entries => Except.ok (Value.list entries)) (by rw [held.entries, List.map_map]; rfl)

theorem missing (unknown : ¬Known history thing) : Missing history thing := by
  have knows : (after history).knows thing = false := Bool.eq_false_iff.mpr (mt knows_iff.mp unknown)
  have absent : (after history).known.find? thing = none := by
    have reflects := reflects_after history thing
    cases found : (after history).known.find? thing with
    | none => rfl
    | some states =>
      rw [found] at reflects
      exact absurd reflects.1 unknown
  refine ⟨fun key value => ?_, fun action arguments => ?_, fun key => ?_, ?_⟩
  · rw [after, perform, Things.command, absent]
    exact ⟨rfl, rfl⟩
  · rw [after, perform_execute, Things.execute, knows]
    exact ⟨rfl, rfl⟩
  · rw [Things.state, absent]
  · rw [Things.allStates, absent]

/-- A thing is known just if it was added or a state of it was set. A known thing has the states that were
written to it; one that is not known refuses everything. The actions on record are those that found their
thing known. -/
theorem after_told (history : List Operation) :
    (∀ thing, (after history).knows thing = true ↔ Known history thing) ∧
      (∀ thing, Known history thing → Present history thing) ∧
      (∀ thing, ¬Known history thing → Missing history thing) ∧
      (after history).executed = executions history :=
  ⟨fun _ => knows_iff, fun _ => present, fun _ => missing, executed_after history⟩

/-- A command and an action that come before their thing is known, and writes to two states of it. -/
def evening : List Operation :=
  [.execute "lamp" "dim" .null, .command "lamp" ⟨"on", 0⟩ (.bool false), .add "lamp",
    .set "lamp" ⟨"level", 1⟩ (.int 7), .set "lamp" ⟨"on", 0⟩ (.bool true), .execute "lamp" "dim" .undefined,
    .command "lamp" ⟨"level", 1⟩ (.int 9)]

theorem after_told_evening :
    Present evening "lamp" ∧ Missing evening "door" ∧
      (after evening).allStates "lamp" = .ok (.list [.list [.string "on", .int 0, .bool false],
        .list [.string "level", .int 1, .int 7]]) ∧
      (after evening).executed = [⟨"lamp", "dim", .null⟩] := by
  obtain ⟨_, present, missing, executed⟩ := after_told evening
  exact ⟨present "lamp" (by decide), missing "door" (by decide), rfl, executed⟩

end RuleHost.Things
