import Mathlib.Data.List.Basic
import RuleHost.Proofs.HostConfinement
import RuleHost.Proofs.Publishing
import RuleHost.Proofs.StateInstances

/-! Subscriptions, told by what was done about them, at the notifier itself or by calls of globals. The numbers
count the subscriptions from 1 on, and the live subscriptions are those that were not given up since they were
made, in the order in which they were made. A history lists the operations, newest first. -/

namespace RuleHost

namespace Notifier

/-- What can be done about subscriptions: at the notifier, or by a call of a global, whichever it is and
whatever its arguments are. -/
inductive Operation where
  | subscribe (thing : String) (callback : FunctionRef)
  | unsubscribe (id : Nat)
  | call (global : Global) (arguments : List Value)

def Operation.subscribes? : Operation → Option Listener
  | .subscribe thing callback => some ⟨thing, callback⟩
  | .call .notifyOnThingStatesChange (.string thing :: .function callback :: _) => some ⟨thing, callback⟩
  | _ => none

/-- The number that an operation gives up. A call may name it by a whole float. -/
def Operation.drops? : Operation → Option Nat
  | .unsubscribe id => some id
  | .call .unregisterThingStateListener (value :: _) => value.toInt?.bind fun number => number.toInt.toNat?
  | _ => none

/-- The subscriptions made so far, oldest first. -/
def made (history : List Operation) : List Listener := (history.filterMap Operation.subscribes?).reverse

/-- A number was given up after a subscription was made under it. -/
def Dropped (id : Nat) : List Operation → Prop
  | [] => False
  | operation :: earlier =>
    (operation.drops? = some id ∧ 1 ≤ id ∧ id ≤ (made earlier).length) ∨ Dropped id earlier

instance Dropped.decidable (id : Nat) : (history : List Operation) → Decidable (Dropped id history)
  | [] => inferInstanceAs (Decidable False)
  | operation :: earlier =>
    have := Dropped.decidable id earlier
    inferInstanceAs (Decidable ((operation.drops? = some id ∧ 1 ≤ id ∧ id ≤ (made earlier).length) ∨
      Dropped id earlier))

def Live (history : List Operation) (id : Nat) : Prop :=
  1 ≤ id ∧ id ≤ (made history).length ∧ ¬Dropped id history

instance (history : List Operation) (id : Nat) : Decidable (Live history id) :=
  inferInstanceAs (Decidable (1 ≤ id ∧ id ≤ (made history).length ∧ ¬Dropped id history))

/-- The subscriptions that are live, oldest first, each with its number. -/
def standing (history : List Operation) : List (Listener × Nat) :=
  ((made history).zipIdx 1).filter fun entry => ¬Dropped entry.2 history

def standingTo (thing : String) (history : List Operation) : List Nat :=
  ((standing history).filter fun entry => entry.1.thing = thing).map Prod.snd

def perform (notifier : Notifier) (operation : Operation) : Notifier :=
  match operation.subscribes? with
  | some listener => (notifier.subscribe listener.thing listener.callback).2
  | none =>
    match operation.drops? with
    | some id => (notifier.unsubscribe id).2
    | none => notifier

/-- A notifier that numbers and holds the subscriptions as a history has them. -/
structure Reflects (history : List Operation) (notifier : Notifier) : Prop where
  next : notifier.next = (made history).length + 1
  entries : notifier.listeners.entries = (standing history).map Prod.swap

variable {history : List Operation} {operation : Operation} {notifier : Notifier} {id : Nat}

theorem Operation.drops?_of_subscribes {listener : Listener} (subscribes : operation.subscribes? = some listener) :
    operation.drops? = none := by
  unfold subscribes? at subscribes
  split at subscribes
  · rfl
  · rfl
  · cases subscribes

theorem made_cons (operation : Operation) :
    made (operation :: history) = made history ++ operation.subscribes?.toList := by
  unfold made
  cases subscribes : operation.subscribes? with
  | none => simp [subscribes]
  | some listener => simp [subscribes]

theorem Dropped.made (dropped : Dropped id history) : 1 ≤ id ∧ id ≤ (made history).length := by
  induction history with
  | nil => cases dropped
  | cons operation earlier ih =>
    have bounds : 1 ≤ id ∧ id ≤ (Notifier.made earlier).length := by
      obtain ⟨_, bounds⟩ | before := dropped
      · exact bounds
      · exact ih before
    rw [made_cons, List.length_append]
    exact ⟨bounds.1, Nat.le_add_right_of_le bounds.2⟩

theorem Live.dropped (live : Live history id) (drops : operation.drops? = some id) :
    Dropped id (operation :: history) := .inl ⟨drops, live.1, live.2.1⟩

/-- What was given up stays so. -/
theorem Dropped.later (dropped : Dropped id history) (newer : List Operation) : Dropped id (newer ++ history) := by
  induction newer with
  | nil => exact dropped
  | cons operation newer ih => exact .inr ih

theorem dropped_cons_of_drops_none (keeps : operation.drops? = none) :
    Dropped id (operation :: history) ↔ Dropped id history := by
  simp [Dropped, keeps]

theorem mem_standing {entry : Listener × Nat} (member : entry ∈ standing history) : Live history entry.2 := by
  obtain ⟨numbered, kept⟩ := List.mem_filter.mp member
  have bounds := List.mem_zipIdx numbered
  exact ⟨bounds.1, by omega, of_decide_eq_true kept⟩

theorem standing_subscribe {listener : Listener} (subscribes : operation.subscribes? = some listener) :
    standing (operation :: history) = standing history ++ [(listener, (made history).length + 1)] := by
  have same (id : Nat) : Dropped id (operation :: history) ↔ Dropped id history :=
    dropped_cons_of_drops_none (Operation.drops?_of_subscribes subscribes)
  have fresh : ¬Dropped ((made history).length + 1) history := fun dropped => Nat.lt_irrefl _ dropped.made.2
  simp only [standing, made_cons, subscribes, Option.toList_some, same, List.zipIdx_append, List.filter_append,
    List.zipIdx_singleton, Nat.add_comm 1]
  congr 1
  exact List.filter_eq_self.mpr fun entry member => by
    rw [List.mem_singleton.mp member]
    exact decide_eq_true fresh

theorem standing_drop (subscribes : operation.subscribes? = none) (drops : operation.drops? = some id) :
    standing (operation :: history) = (standing history).filter fun entry => entry.2 != id := by
  have same : made (operation :: history) = made history := by
    rw [made_cons, subscribes, Option.toList_none, List.append_nil]
  unfold standing
  rw [same, List.filter_filter]
  apply List.filter_congr
  intro entry member
  have bounds := List.mem_zipIdx member
  have inside : 1 ≤ entry.2 ∧ entry.2 ≤ (made history).length := by omega
  have apart : (entry.2 != id) = decide (¬id = entry.2) := by
    rw [Bool.eq_iff_iff, bne_iff_ne, ne_comm, decide_eq_true_eq]
  simp only [Dropped, drops, Option.some.injEq, inside, and_true, not_or, Bool.decide_and, apart]

theorem Reflects.fresh (reflects : Reflects history notifier) : notifier.next ∉ notifier.listeners.keys := by
  intro taken
  rw [Table.keys, reflects.entries, List.map_map] at taken
  obtain ⟨entry, member, same⟩ := List.mem_map.mp taken
  have bound := (mem_standing member).2.1
  have next := reflects.next
  simp only [Function.comp, Prod.fst_swap] at same
  omega

theorem Reflects.perform (reflects : Reflects history notifier) (operation : Operation) :
    Reflects (operation :: history) (notifier.perform operation) := by
  cases subscribes : operation.subscribes? with
  | some listener =>
    simp only [Notifier.perform, subscribes]
    constructor
    · simp only [Notifier.subscribe, made_cons, subscribes, Option.toList_some, List.length_append, reflects.next,
        List.length_singleton]
    · rw [standing_subscribe subscribes, List.map_append, ← reflects.entries, ← reflects.next]
      exact Table.entries_insert_of_not_mem _ reflects.fresh
  | none =>
    have same : made (operation :: history) = made history := by
      rw [made_cons, subscribes, Option.toList_none, List.append_nil]
    cases drops : operation.drops? with
    | some id =>
      simp only [Notifier.perform, subscribes, drops]
      refine ⟨same ▸ reflects.next, ?_⟩
      rw [standing_drop subscribes drops]
      simp only [Notifier.unsubscribe, Table.erase, reflects.entries, List.filter_map]
      rfl
    | none =>
      simp only [Notifier.perform, subscribes, drops]
      refine ⟨same ▸ reflects.next, ?_⟩
      simp only [standing, same, dropped_cons_of_drops_none drops]
      exact reflects.entries

theorem Reflects.start : Reflects [] {} := ⟨rfl, rfl⟩

theorem Reflects.unsubscribe_iff (reflects : Reflects history notifier) :
    (notifier.unsubscribe id).1 = true ↔ Live history id := by
  rw [Notifier.unsubscribe, Table.contains_eq_true_iff, Table.keys, reflects.entries, List.map_map, List.mem_map]
  constructor
  · rintro ⟨entry, member, rfl⟩
    exact mem_standing member
  · rintro ⟨positive, bound, kept⟩
    refine ⟨((made history)[id - 1], id), List.mem_filter.mpr ⟨?_, decide_eq_true kept⟩, rfl⟩
    exact List.mk_mem_zipIdx_iff_le_and_getElem?_sub.mpr ⟨positive, List.getElem?_eq_getElem _⟩

theorem Reflects.subscribed (reflects : Reflects history notifier) (thing : String) :
    notifier.subscribed thing = standingTo thing history := by
  rw [Notifier.subscribed, reflects.entries, List.filter_map, List.map_map, standingTo]
  rfl

end Notifier

namespace Arguments

theorem naturalBelow_listener (value : Value) :
    naturalBelow UInt64.size value = value.toInt?.bind fun number => number.toInt.toNat? := by
  unfold naturalBelow
  congr 1
  funext number
  have below : number.toInt < (UInt64.size : Nat) := by
    have less := number.toInt_lt
    have wide : (2 : Int) ^ 63 < (UInt64.size : Nat) := by decide
    omega
  cases stands : number.toInt with
  | ofNat n =>
    rw [stands] at below
    rw [if_pos (by simpa using below)]
    rfl
  | negSucc n =>
    rw [if_neg (by simp)]
    rfl

/-- The number of a subscription, whatever comes after it. Every natural number that a value stands for will do. -/
theorem listener_cons (name : String) (value : Value) (more : List Value) :
    listener name (value :: more) 0 =
      match value.toInt?.bind fun number => number.toInt.toNat? with
      | some id => .ok id
      | none => .error (mismatch name 0 .int value) := by
  rw [← naturalBelow_listener]
  simp only [listener, viewed, required, List.getElem?_cons_zero, bind, Except.bind]
  cases naturalBelow UInt64.size value <;> rfl

end Arguments

namespace Global

variable {arguments : List Value}

/-- The services after a call. One that fails leaves them as they were. -/
def left (services : Services) : Except HostError Reply → Services
  | .error _ => services
  | .ok reply => reply.services

theorem eq_of_port_notifier {global : Global} (mine : global.port = .notifier) :
    global = .notifyOnThingStatesChange ∨ global = .unregisterThingStateListener := by
  cases global <;> first | exact .inl rfl | exact .inr rfl | cases mine

theorem perform_elsewhere {global : Global} (elsewhere : global.port ≠ .notifier) (notifier : Notifier) :
    notifier.perform (.call global arguments) = notifier := by
  cases global <;> first | rfl | exact absurd rfl elsewhere

/-- A call of a global changes the subscriptions as its operation does, if at all. -/
theorem notifier_answer (services : Services) (global : Global) (enough : global.arity ≤ arguments.length) :
    (left services (global.answer arguments enough services)).notifier =
      services.notifier.perform (.call global arguments) := by
  by_cases mine : global.port = .notifier
  · obtain rfl | rfl := eq_of_port_notifier mine
    · match arguments, enough with
      | first :: second :: more, _ =>
        cases first with
        | string thing =>
          cases second with
          | function callback => rfl
          | undefined | null | bool | int | float | string | list => rfl
        | undefined | null | bool | int | float | list | function => rfl
    · match arguments, enough with
      | value :: more, enough =>
        have drops : (Notifier.Operation.call unregisterThingStateListener (value :: more)).drops? =
          value.toInt?.bind fun number => number.toInt.toNat? := rfl
        simp only [answer, Arguments.listener_cons, Notifier.perform, drops, Notifier.Operation.subscribes?]
        cases value.toInt?.bind fun number => number.toInt.toNat? <;> rfl
  · rw [perform_elsewhere mine]
    cases answered : global.answer arguments enough services with
    | error error => rfl
    | ok reply => exact (global.answer_confined enough answered).ports .notifier (Ne.symm mine)

/-- A call with too few arguments does nothing. -/
theorem perform_short (global : Global) (short : arguments.length < global.arity) (notifier : Notifier) :
    notifier.perform (.call global arguments) = notifier := by
  by_cases mine : global.port = .notifier
  · obtain rfl | rfl := eq_of_port_notifier mine
    · match arguments, short with
      | [], _ => rfl
      | [first], _ => cases first <;> rfl
    · match arguments, short with
      | [], _ => rfl
  · exact perform_elsewhere mine notifier

end Global

namespace Loop

open Notifier (Operation)

namespace Deed

mutual

def operations : Deed → List Operation
  | .subscribed thing callback => [.subscribe thing callback]
  | .unsubscribed id => [.unsubscribe id]
  | .entered _ _ inside => allOperations inside

def allOperations : List Deed → List Operation
  | [] => []
  | deed :: rest => allOperations rest ++ deed.operations

end

theorem allOperations_append (first rest : List Deed) :
    allOperations (first ++ rest) = allOperations rest ++ allOperations first := by
  induction first with
  | nil => exact (List.append_nil _).symm
  | cons deed first ih => rw [List.cons_append, allOperations, ih, allOperations, List.append_assoc]

end Deed

namespace Machine

open Notifier (Reflects Live Dropped made standingTo)

variable {σ : Type}

/-- An act comes to one result. -/
theorem Yields.unique {α : Type} {m n k : Machine σ} {act : Act σ α} {result other : α} (first : m.Yields act result n)
    (second : m.Yields act other k) : result = other ∧ k = { n with focus := k.focus } := by
  obtain ⟨count, first⟩ := first
  obtain ⟨more, second⟩ := second
  obtain order | order := Nat.le_total count more
  · exact (first.unique second order).2
  · obtain ⟨_, same, machines⟩ := second.unique first order
    rw [machines]
    exact ⟨same.symm, rfl⟩

variable [HostMemory σ]

/-- The machines in which a history of subscriptions happened, which began without any. What else is done
leaves the subscriptions as they are. -/
inductive Told : List Operation → Machine σ → Prop where
  | start {m : Machine σ} (none : m.notifier = {}) : Told [] m
  | aside {history : List Operation} {m n : Machine σ} (before : Told history m)
      (same : n.notifier = m.notifier) : Told history n
  | subscribe {history : List Operation} {m n : Machine σ} (before : Told history m) (thing : String)
      (callback : FunctionRef) (changed : n.notifier = (m.notifier.subscribe thing callback).2) :
      Told (.subscribe thing callback :: history) n
  | unsubscribe {history : List Operation} {m n : Machine σ} (before : Told history m) (id : Nat)
      (changed : n.notifier = (m.notifier.unsubscribe id).2) : Told (.unsubscribe id :: history) n
  | call {history : List Operation} {m n : Machine σ} (before : Told history m) (global : Global)
      (arguments : List Value) {outcome : Outcome}
      (yields : m.Yields (Host.call .globals global.name arguments) outcome n) :
      Told (.call global arguments :: history) n

variable {m n : Machine σ} {history : List Operation}

theorem Called.notifier {global : Global} {arguments : List Value} {outcome : Except HostError Value}
    (called : Called m global.name arguments outcome n) :
    n.notifier = m.notifier.perform (.call global arguments) := by
  cases called with
  | undefinedFunction absent => cases absent.symm.trans (Registry.find?_globals_name global)
  | short other installed short =>
    obtain rfl := installed_unique installed (Registry.find?_globals_name global)
    exact (global.perform_short short _).symm
  | refused other installed enough error refused =>
    obtain rfl := installed_unique installed (Registry.find?_globals_name global)
    have answered := global.notifier_answer m.services enough
    rw [refused] at answered
    exact answered
  | answered other installed enough reply answered =>
    obtain rfl := installed_unique installed (Registry.find?_globals_name global)
    have replied := global.notifier_answer m.services enough
    rw [answered] at replied
    exact (congrArg Services.notifier (replied_services _ reply)).trans replied

theorem Yields.notifier {global : Global} {arguments : List Value} {outcome : Outcome}
    (yields : m.Yields (Host.call .globals global.name arguments) outcome n) :
    n.notifier = m.notifier.perform (.call global arguments) := by
  obtain ⟨_, k, comes, called⟩ := call_called m global.name arguments
  rw [← called.notifier, (comes.unique yields).2]
  rfl

theorem Told.alters {memory : σ} {deeds : List Deed} (told : Told history m)
    (alters : Alters m.notifier deeds (HostMemory.notifier memory)) :
    Told (Deed.allOperations deeds ++ history) { m with memory } := by
  generalize after : HostMemory.notifier memory = notifier at alters
  cases alters with
  | kept => exact told.aside after
  | subscribed thing callback => exact told.subscribe thing callback after
  | unsubscribed => exact told.unsubscribe _ after

/-- What a program does from its beginning to its end is a history, with all that the callbacks do that it
enters. -/
theorem Runs.told {program : Program σ} {deeds : List Deed} {outcome : Outcome}
    (runs : Runs m program deeds outcome n) (told : Told history m) :
    Told (Deed.allOperations deeds ++ history) n := by
  induction runs generalizing history with
  | finish => exact told
  | read _ ih | missing _ _ ih => exact ih told
  | write alters _ ih =>
    rw [Deed.allOperations_append, List.append_assoc]
    exact ih (told.alters alters)
  | @perform m _ request _ _ _ _ ih =>
    exact ih (told.aside (congrArg HostMemory.notifier (perform_steady m request).memory))
  | define _ ih => exact ih (told.aside rfl)
  | call _ _ _ inner rest =>
    rw [Deed.allOperations, List.append_assoc]
    exact rest (inner (told.aside rfl))
  | @setTimeout m _ scheduler duration callback _ _ _ _ ih =>
    exact ih (told.aside (congrArg HostMemory.notifier (startTimer_steady m scheduler duration _).memory))
  | @attach m _ counter source body _ _ _ _ ih =>
    exact ih (told.aside (congrArg HostMemory.notifier (startContinuation_steady m counter source body).memory))

theorem Told.reflects (told : Told history m) : Reflects history m.notifier := by
  induction told with
  | start none => exact none ▸ .start
  | aside _ same ih => exact same ▸ ih
  | subscribe _ thing callback changed ih => exact changed ▸ ih.perform (.subscribe thing callback)
  | unsubscribe _ id changed ih => exact changed ▸ ih.perform (.unsubscribe id)
  | call _ global arguments yields ih => exact yields.notifier ▸ ih.perform (.call global arguments)

/-- Whatever happened, any operation can be the next. -/
theorem Told.exists_cons (told : Told history m) (operation : Operation) :
    ∃ n : Machine σ, Told (operation :: history) n := by
  let set (notifier : Notifier) : Machine σ :=
    { m with memory := HostMemory.setHost { HostMemory.host m.memory with
        services := { m.services with notifier } } m.memory }
  have notifier_set (notifier : Notifier) : (set notifier).notifier = notifier := by
    simp [set, Machine.notifier, HostMemory.notifier]
  cases operation with
  | subscribe thing callback => exact ⟨_, told.subscribe thing callback (notifier_set _)⟩
  | unsubscribe id => exact ⟨_, told.unsubscribe id (notifier_set _)⟩
  | call global arguments =>
    obtain ⟨_, n, yields, _⟩ := call_called m global.name arguments
    exact ⟨n, told.call global arguments yields⟩

theorem exists_told (none : m.notifier = {}) (history : List Operation) : ∃ n : Machine σ, Told history n := by
  induction history with
  | nil => exact ⟨m, .start none⟩
  | cons operation _ ih =>
    obtain ⟨n, told⟩ := ih
    exact told.exists_cons operation

/-- What a machine says about its subscriptions, beside what their history says. -/
structure Accounts (history : List Operation) (m : Machine σ) : Prop where
  number : ∀ thing callback, (m.notifier.subscribe thing callback).1 = (made history).length + 1
  called : ∀ thing callback more, ∃ n : Machine σ,
    m.Yields (Host.call .globals Global.notifyOnThingStatesChange.name (.string thing :: .function callback :: more))
      (.ok (Notifier.receipt thing)) n ∧
    n.notifier = (m.notifier.subscribe thing callback).2 ∧
    n.notices.head? = some (.listenerRegistered ((made history).length + 1) thing)
  subscribed : ∀ thing, m.notifier.subscribed thing = standingTo thing history
  unsubscribe : ∀ id, (m.notifier.unsubscribe id).1 = true ↔ Live history id
  unregister : ∀ arguments id,
    (Operation.call .unregisterThingStateListener arguments).drops? = some id → ∃ n : Machine σ,
      m.Yields (Host.call .globals Global.unregisterThingStateListener.name arguments)
        (.ok (.bool (decide (Live history id)))) n ∧
      n.notifier = (m.notifier.unsubscribe id).2
  others : ∀ id thing, (m.notifier.unsubscribe id).2.subscribed thing =
    (m.notifier.subscribed thing).filter fun other => other != id
  once : ∀ operation id newer (n : Machine σ), operation.drops? = some id → Live history id →
    Told (newer ++ operation :: history) n →
      (n.notifier.unsubscribe id).1 = false ∧ (∀ thing, id ∉ n.notifier.subscribed thing) ∧
        ∀ thing callback, (n.notifier.subscribe thing callback).1 ≠ id

theorem Told.number (told : Told history m) (thing : String) (callback : FunctionRef) :
    (m.notifier.subscribe thing callback).1 = (made history).length + 1 :=
  told.reflects.next

theorem Told.called (told : Told history m) (thing : String) (callback : FunctionRef) (more : List Value) :
    ∃ n : Machine σ,
      m.Yields (Host.call .globals Global.notifyOnThingStatesChange.name
        (.string thing :: .function callback :: more)) (.ok (Notifier.receipt thing)) n ∧
      n.notifier = (m.notifier.subscribe thing callback).2 ∧
      n.notices.head? = some (.listenerRegistered ((made history).length + 1) thing) := by
  have enough : Global.notifyOnThingStatesChange.arity ≤
      (Value.string thing :: Value.function callback :: more).length := Nat.le_add_left 2 _
  have yields := ((m.within_call_global .notifyOnThingStatesChange enough).2 _ rfl).yields
  refine ⟨_, yields, yields.notifier, ?_⟩
  rw [← told.number thing callback]
  rfl

theorem Told.unregister (told : Told history m) {arguments : List Value} {id : Nat}
    (drops : (Operation.call .unregisterThingStateListener arguments).drops? = some id) :
    ∃ n : Machine σ,
      m.Yields (Host.call .globals Global.unregisterThingStateListener.name arguments)
        (.ok (.bool (decide (Live history id)))) n ∧
      n.notifier = (m.notifier.unsubscribe id).2 := by
  match arguments, drops with
  | value :: more, drops =>
    have seen : (value.toInt?.bind fun number => number.toInt.toNat?) = some id := drops
    have live : (m.notifier.unsubscribe id).1 = decide (Live history id) := by
      rw [Bool.eq_iff_iff, told.reflects.unsubscribe_iff, decide_eq_true_eq]
    have answered : Global.unregisterThingStateListener.answer (value :: more) (Nat.le_add_left 1 _) m.services =
        .ok ⟨.bool (decide (Live history id)),
          { m.services with notifier := (m.notifier.unsubscribe id).2 }, none⟩ := by
      simp only [Global.answer, Arguments.listener_cons, seen, ← live]
      rfl
    have yields := ((m.within_call_global .unregisterThingStateListener _).2 _ answered).yields
    refine ⟨_, yields, ?_⟩
    rw [yields.notifier]
    simp only [Notifier.perform, Operation.subscribes?, drops]

/-- What was given up once is gone for good. -/
theorem Told.gone (told : Told history m) {id : Nat} (dropped : Dropped id history) :
    (m.notifier.unsubscribe id).1 = false ∧ (∀ thing, id ∉ m.notifier.subscribed thing) ∧
      ∀ thing callback, (m.notifier.subscribe thing callback).1 ≠ id := by
  have dead : ¬Live history id := fun live => live.2.2 dropped
  refine ⟨Bool.eq_false_iff.mpr (mt told.reflects.unsubscribe_iff.mp dead), fun thing member => ?_,
    fun thing callback same => ?_⟩
  · rw [told.reflects.subscribed, standingTo] at member
    obtain ⟨entry, kept, rfl⟩ := List.mem_map.mp member
    exact dead (Notifier.mem_standing (List.mem_filter.mp kept).1)
  · have bound := dropped.made.2
    have next := told.number thing callback
    omega

/-- Whatever was done about subscriptions, at the notifier or by calls, what is found is what the history says:
the numbers count the subscriptions, the live ones stand in their order, and a number is given up once. -/
theorem told_accounts (told : Told history m) : Accounts history m where
  number := told.number
  called := told.called
  subscribed := told.reflects.subscribed
  unsubscribe _ := told.reflects.unsubscribe_iff
  unregister _ _ := told.unregister
  others id thing := by
    simp only [Notifier.unsubscribe, Notifier.subscribed, Table.erase, List.filter_map, List.filter_filter]
    simp only [Function.comp, Bool.and_comm]
  once _ _ newer _ drops live later := later.gone ((live.dropped drops).later newer)

/-- Subscriptions by calls and at the notifier, the same one twice, and numbers given up by a whole float, again by
an integer, and without ever having been given out. -/
def visits : List Operation :=
  [.unsubscribe 7, .call .unregisterThingStateListener [.int 1], .subscribe "lamp" ⟨0, "seen"⟩,
    .call .unregisterThingStateListener [.float ⟨0x3FF0000000000000⟩], .subscribe "lamp" ⟨0, "seen"⟩,
    .call .notifyOnThingStatesChange [.string "door", .function ⟨1, "opened"⟩],
    .call .notifyOnThingStatesChange [.string "lamp", .function ⟨0, "seen"⟩]]

theorem told_accounts_visits :
    ∃ m : Machine Host, Told visits m ∧ m.notifier.subscribed "lamp" = [3, 4] ∧
      m.notifier.subscribed "door" = [2] ∧ (m.notifier.unsubscribe 3).1 = true ∧
      (∀ thing callback, (m.notifier.subscribe thing callback).1 = 5) ∧
      ∀ newer (n : Machine Host), Told (newer ++ .unsubscribe 3 :: visits) n →
        (n.notifier.unsubscribe 3).1 = false := by
  let fresh : Machine Host := { memory := {}, script := .busy }
  obtain ⟨m, told⟩ := exists_told (show fresh.notifier = {} from rfl) visits
  have accounts := told_accounts told
  refine ⟨m, told, accounts.subscribed "lamp", accounts.subscribed "door", (accounts.unsubscribe 3).mpr (by decide),
    accounts.number, fun newer n later => ?_⟩
  exact (accounts.once (.unsubscribe 3) 3 newer n rfl (by decide) later).1

end Machine
end Loop
end RuleHost
