import Mathlib.Data.List.Forall2
import RuleHost.Proofs.HonestActs

/-! Delivery of a state change to the subscriptions that a thing has when it is published. The callbacks
may change the very subscriptions that are told: who is told is settled at the start, and the subscriptions
afterwards are what the callbacks made of them. -/

namespace RuleHost

namespace Notifier

/-- The numbers of subscriptions ascend, and the next one is above them all. -/
structure Ordered (notifier : Notifier) : Prop where
  ascending : notifier.listeners.keys.Pairwise (· < ·)
  fresh : ∀ id ∈ notifier.listeners.keys, id < notifier.next

theorem Reachable.ordered {notifier : Notifier} (reachable : notifier.Reachable) : notifier.Ordered := by
  induction reachable with
  | start => exact ⟨.nil, nofun⟩
  | @subscribe notifier before thing callback ih =>
    have absent : notifier.next ∉ notifier.listeners.keys :=
      fun found => Nat.lt_irrefl _ (ih.fresh _ found)
    have keys : (notifier.subscribe thing callback).2.listeners.keys =
        notifier.listeners.keys ++ [notifier.next] := Table.keys_insert_of_not_mem _ absent
    constructor
    · rw [keys, List.pairwise_append]
      refine ⟨ih.ascending, List.pairwise_singleton _ _, fun id old last new => ?_⟩
      rw [List.mem_singleton.mp new]
      exact ih.fresh id old
    · intro id found
      rw [keys, List.mem_append, List.mem_singleton] at found
      obtain old | rfl := found
      · exact Nat.lt_succ_of_lt (ih.fresh id old)
      · exact Nat.lt_succ_self _
  | @unsubscribe notifier before id ih =>
    have keys : (notifier.unsubscribe id).2.listeners.keys =
        notifier.listeners.keys.filter fun other => other != id := Table.keys_erase notifier.listeners id
    constructor
    · rw [keys]
      exact ih.ascending.filter _
    · intro other found
      rw [keys] at found
      exact ih.fresh other (List.mem_filter.mp found).1

/-- The subscriptions to a thing, oldest first, each with its callback. -/
def live (notifier : Notifier) (thing : String) : List (Nat × FunctionRef) :=
  (notifier.listeners.entries.filter fun entry => entry.2.thing == thing).map
    fun entry => (entry.1, entry.2.callback)

variable {notifier : Notifier} {thing : String}

theorem mem_live_iff {id : Nat} {callback : FunctionRef} :
    (id, callback) ∈ notifier.live thing ↔ notifier.listeners.find? id = some ⟨thing, callback⟩ := by
  rw [Table.find?_eq_some_iff, live, List.mem_map]
  constructor
  · rintro ⟨⟨number, listener⟩, found, same⟩
    obtain ⟨stored, named⟩ := List.mem_filter.mp found
    cases same
    rw [← eq_of_beq named]
    exact stored
  · intro stored
    exact ⟨_, List.mem_filter.mpr ⟨stored, beq_self_eq_true thing⟩, rfl⟩

theorem map_snd_live : (notifier.live thing).map Prod.snd = notifier.callbacks thing := by
  rw [live, List.map_map]
  rfl

theorem Ordered.live_ascending (ordered : notifier.Ordered) :
    ((notifier.live thing).map Prod.fst).Pairwise (· < ·) := by
  rw [live, List.map_map]
  exact ordered.ascending.sublist (List.filter_sublist.map Prod.fst)

end Notifier

namespace Host

open Loop

variable {σ : Type}

theorem callAll_cons (arguments : List Value) (callback : FunctionRef) (rest : List FunctionRef)
    (next : Unit → Program σ) :
    Host.callAll arguments (callback :: rest) next =
      .call callback.id arguments fun _ => Host.callAll arguments rest next := by
  change Program.call callback.id arguments _ = _
  congr 1
  funext outcome
  cases outcome <;> rfl

theorem callAll_andThen (arguments : List Value) (callbacks : List FunctionRef) (next : Unit → Program σ)
    (after : Outcome → Program σ) :
    (Host.callAll arguments callbacks next).andThen after =
      Host.callAll arguments callbacks fun done => (next done).andThen after := by
  induction callbacks with
  | nil => rfl
  | cons callback rest ih => simp only [callAll_cons, Program.andThen, ih]

variable [HostMemory σ]

theorem publish_eq (thing : String) (state : Value) (next : Nat → Program σ) :
    Host.publish thing state next = .read fun memory =>
      Host.callAll [.string thing, state] ((HostMemory.notifier memory).callbacks thing) fun _ =>
        next ((HostMemory.notifier memory).callbacks thing).length := rfl

end Host

namespace Loop.Machine

variable {σ : Type} [HostMemory σ]

/-- Callbacks are entered one after the other with the same arguments. Each runs to its end in the loop as
the one before has left it. Where there is no function behind a callback, nothing happens. -/
inductive Delivers (arguments : List Value) :
    Machine σ → List FunctionRef → List Deed → Machine σ → Prop where
  | nil (m : Machine σ) : Delivers arguments m [] [] m
  | cons {m middle n : Machine σ} {callback : FunctionRef} {rest : List FunctionRef}
      {body : List Value → Program σ} {inside deeds : List Deed} {ended : Outcome}
      (defined : m.functions[callback.id]? = some body)
      (runs : Runs (m.enter (.function callback.id arguments m.now)) (body arguments) inside ended middle)
      (delivers : Delivers arguments middle rest deeds n) :
      Delivers arguments m (callback :: rest) (.entered callback.id arguments inside :: deeds) n
  | missing {m n : Machine σ} {callback : FunctionRef} {rest : List FunctionRef} {deeds : List Deed}
      (undefined : m.functions[callback.id]? = none) (delivers : Delivers arguments m rest deeds n) :
      Delivers arguments m (callback :: rest) deeds n

def Defines (m : Machine σ) (callbacks : List FunctionRef) : Prop :=
  ∀ callback ∈ callbacks, ∃ body, m.functions[callback.id]? = some body

theorem Delivers.leaves {arguments : List Value} {m n : Machine σ} {callbacks : List FunctionRef}
    {deeds : List Deed} (delivers : Delivers arguments m callbacks deeds n) : Leaves m deeds n := by
  induction delivers with
  | nil m => exact .refl m
  | cons _ runs _ ih => exact runs.leaves.entered.trans ih
  | missing _ _ ih => exact ih

/-- Functions stay defined, so that a callback that is one at the start is entered in its turn. -/
theorem Delivers.entered {arguments : List Value} {m n : Machine σ} {callbacks : List FunctionRef}
    {deeds : List Deed} (delivers : Delivers arguments m callbacks deeds n)
    (defines : m.Defines callbacks) :
    List.Forall₂ (fun callback deed => ∃ inside, deed = .entered callback.id arguments inside)
      callbacks deeds := by
  induction delivers with
  | nil => exact .nil
  | @cons m middle n callback rest body inside deeds ended _ runs _ ih =>
    refine .cons ⟨inside, rfl⟩ (ih fun other member => ?_)
    obtain ⟨body, known⟩ := defines other (List.mem_cons_of_mem callback member)
    exact ⟨body, runs.leaves.functions other.id body known⟩
  | missing undefined =>
    obtain ⟨body, known⟩ := defines _ List.mem_cons_self
    cases undefined.symm.trans known

/-- A state change is delivered to the subscriptions that are live at the start: to each of them once,
oldest first, and to no other. -/
structure Delivered (m : Machine σ) (thing : String) (state : Value) (live : List (Nat × FunctionRef))
    (deeds : List Deed) (total : Nat) (n : Machine σ) : Prop where
  mem_live_iff : ∀ id callback,
    (id, callback) ∈ live ↔ m.notifier.listeners.find? id = some ⟨thing, callback⟩
  oldest : (live.map Prod.fst).Pairwise (· < ·)
  delivers : Delivers [.string thing, state] m (live.map Prod.snd) deeds n
  entered : m.Defines (live.map Prod.snd) → List.Forall₂
    (fun callback deed => ∃ inside, deed = .entered callback.id [.string thing, state] inside)
    (live.map Prod.snd) deeds
  total : total = live.length
  leaves : Leaves m deeds n

theorem runs_callAll {m n : Machine σ} {arguments : List Value} {callbacks : List FunctionRef}
    {next : Unit → Program σ} {deeds : List Deed} {outcome : Outcome}
    (runs : Runs m (Host.callAll arguments callbacks next) deeds outcome n) :
    ∃ first rest middle, deeds = first ++ rest ∧ Delivers arguments m callbacks first middle ∧
      Runs middle (next ()) rest outcome n := by
  induction callbacks generalizing m deeds with
  | nil => exact ⟨[], deeds, m, rfl, .nil m, runs⟩
  | cons callback callbacks ih =>
    rw [Host.callAll_cons] at runs
    cases runs with
    | missing undefined remaining =>
      obtain ⟨first, rest, middle, rfl, delivers, runs⟩ := ih remaining
      exact ⟨first, rest, middle, rfl, .missing undefined delivers, runs⟩
    | call defined inner remaining =>
      obtain ⟨first, rest, middle, rfl, delivers, runs⟩ := ih remaining
      exact ⟨_ :: first, rest, middle, rfl, .cons defined inner delivers, runs⟩

theorem Delivers.delivered {m n : Machine σ} {thing : String} {state : Value} {deeds : List Deed}
    (honest : m.Honest)
    (delivers : Delivers [.string thing, state] m (m.notifier.callbacks thing) deeds n) :
    Delivered m thing state (m.notifier.live thing) deeds (m.notifier.callbacks thing).length n := by
  rw [← Notifier.map_snd_live] at delivers ⊢
  refine ⟨fun _ _ => Notifier.mem_live_iff, honest.notifier.ordered.live_ascending, delivers,
    delivers.entered, ?_, delivers.leaves⟩
  rw [List.length_map]

/-- A program that publishes, inside a callback or not, has delivered before it goes on. -/
theorem runs_publish {m n : Machine σ} {thing : String} {state : Value} {next : Nat → Program σ}
    {deeds : List Deed} {outcome : Outcome} (honest : m.Honest)
    (runs : Runs m (Host.publish thing state next) deeds outcome n) :
    ∃ live first total rest middle, deeds = first ++ rest ∧
      Delivered m thing state live first total middle ∧ Runs middle (next total) rest outcome n := by
  cases runs with
  | read runs =>
    obtain ⟨first, rest, middle, same, delivers, runs⟩ := runs_callAll runs
    exact ⟨_, first, _, rest, middle, same, delivers.delivered honest, runs⟩

/-- The loop comes back from the calls of a publication, unless a callback never does. -/
theorem publish_progress {m : Machine σ} (honest : m.Honest) (thing : String) (state : Value)
    (count : Nat) :
    (∃ n : Machine σ, n.Honest ∧ ∀ (next : Nat → Program σ) (owner : Owner σ), ∃ rest, Unfinished rest ∧
      after count (m.proceed (Host.publish thing state next) owner) = some (n.proceed rest owner)) ∨
    ∃ used ≤ count, ∃ (deeds : List Deed) (n : Machine σ), n.Honest ∧
      m.Returns (Host.publish thing state) used (m.notifier.callbacks thing).length n ∧
      Delivers [.string thing, state] m (m.notifier.callbacks thing) deeds n := by
  cases count with
  | zero =>
    refine .inl ⟨m, honest, fun next owner => ⟨_, fun outcome => ?_, rfl⟩⟩
    rw [Host.publish_eq]
    nofun
  | succ count =>
    let calls : Program σ := Host.callAll [.string thing, state] (m.notifier.callbacks thing)
      fun _ => .finish (.ok .undefined)
    have sound : calls.Honest m.memory := Host.honest_callAll _ _ _ _ fun _ _ => trivial
    have whole : ∀ (next : Nat → Program σ) (owner : Owner σ),
        after 1 (m.proceed (Host.publish thing state next) owner) =
          some (m.proceed (calls.andThen fun _ => next (m.notifier.callbacks thing).length) owner) := by
      intro next owner
      rw [Host.callAll_andThen]
      rfl
    rw [Nat.add_comm]
    obtain ⟨n, rest, comes, unfinished, honest⟩ | ⟨used, bound, deeds, outcome, n, runs, comes, honest⟩ :=
      progress honest sound count
    · refine .inl ⟨n, honest, fun next owner => ?_⟩
      refine ⟨_, unfinished.andThen fun _ => next (m.notifier.callbacks thing).length, ?_⟩
      rw [after_add (whole next owner)]
      exact comes _ owner
    · refine .inr ⟨1 + used, Nat.add_le_add_left bound 1, deeds, n, honest, fun next owner => ?_, ?_⟩
      · rw [after_add (whole next owner)]
        exact comes _ owner
      · obtain ⟨first, rest, middle, rfl, delivers, ended⟩ := runs_callAll runs
        cases ended
        rw [List.append_nil]
        exact delivers

section Returns

variable {m n : Machine σ} {thing : String} {state : Value} {count total : Nat}

/-- A publication that returns has run to its end, in no more and no fewer steps. -/
theorem delivers_of_returns (honest : m.Honest)
    (returns : m.Returns (Host.publish thing state) count total n) :
    ∃ deeds k, m.Returns (Host.publish thing state) count total k ∧ k.Honest ∧
      Delivered m thing state (m.notifier.live thing) deeds total k := by
  obtain ⟨k, _, going⟩ | ⟨used, spent, deeds, k, sound, returned, delivers⟩ :=
    publish_progress honest thing state count
  · obtain ⟨rest, unfinished, steps⟩ := going (fun _ => .finish (.ok .undefined)) .callback
    rw [returns] at steps
    have both := (proceed_injective (Option.some.inj steps)).1
    exact absurd both.symm (unfinished _)
  · obtain ⟨rfl, rfl, _⟩ := returned.unique returns spent
    exact ⟨deeds, k, returned, sound, delivers.delivered honest⟩

theorem delivered_of_returns (honest : m.Honest)
    (returns : m.Returns (Host.publish thing state) count total n) :
    ∃ live deeds, Delivered m thing state live deeds total { n with focus := m.focus } := by
  obtain ⟨deeds, k, returned, _, delivered⟩ := delivers_of_returns honest returns
  have same := (returned.unique returns (Nat.le_refl count)).2.2
  rw [same, ← delivered.leaves.focus]
  exact ⟨_, deeds, delivered⟩

/-- The loop is honest whenever it is looked at before a publication is over. -/
theorem honest_of_returns (honest : m.Honest)
    (returns : m.Returns (Host.publish thing state) count total n) {earlier : Nat} (order : earlier ≤ count)
    {next : Nat → Program σ} {owner : Owner σ} {mid : Machine σ}
    (steps : after earlier (m.proceed (Host.publish thing state next) owner) = some mid) : mid.Honest := by
  obtain ⟨l, honest, going⟩ | ⟨early, bound, _, l, honest, sooner, _⟩ :=
    publish_progress honest thing state earlier
  · obtain ⟨rest, _, here⟩ := going next owner
    rw [here] at steps
    cases steps
    exact honest.proceed rest owner
  · have turns := (sooner.unique returns (Nat.le_trans bound order)).1
    obtain rfl : early = earlier := by omega
    rw [sooner] at steps
    cases steps
    exact honest.proceed _ owner

/-- Whenever publishing returns, it has entered the callbacks of the subscriptions that were live when it
began, oldest first, each once and each with the thing and its state, and it returns their number, whatever
the callbacks do; and the subscriptions are those at the beginning, changed by what the callbacks did in the
order in which they did it. The same holds of whatever is published meanwhile, inside a callback, with the
subscriptions that are live then. -/
theorem publish_delivers (honest : m.Honest)
    (returns : m.Returns (Host.publish thing state) count total n) :
    (∃ live deeds, Delivered m thing state live deeds total { n with focus := m.focus }) ∧
      ∀ earlier ≤ count, ∀ (next : Nat → Program σ) (owner : Owner σ) (mid : Machine σ),
        after earlier (m.proceed (Host.publish thing state next) owner) = some mid →
          ∀ (other : String) (value : Value) (turns sum : Nat) (last : Machine σ),
            mid.Returns (Host.publish other value) turns sum last →
              ∃ live deeds, Delivered mid other value live deeds sum { last with focus := mid.focus } := by
  refine ⟨delivered_of_returns honest returns, ?_⟩
  intro earlier order next owner mid steps other value turns sum last nested
  have sound := honest_of_returns honest returns order steps
  exact delivered_of_returns sound nested

end Returns

section Crowded

def meddling (_ : List Value) : Act Host Value := do
  let _ ← Host.callGlobal .unregisterThingStateListener [.int 2] (by decide)
  let _ ← Host.publish "door" .null
  return .undefined

def crowded : Machine Host :=
  let notifier := (({} : Notifier).subscribe "lamp" ⟨0, "meddling"⟩).2
  let notifier := (notifier.subscribe "lamp" ⟨1, "dropped"⟩).2
  let notifier := (notifier.subscribe "door" ⟨2, "nested"⟩).2
  { memory := { services := { notifier } }
    functions := #[fun arguments => (meddling arguments).program, fun _ => .finish (.ok .undefined),
      fun _ => .finish (.ok .undefined)]
    script := .busy }

/-- The callback that was dropped has been told all the same. -/
def thinned : Machine Host :=
  { crowded with
    memory := { services := { notifier := (crowded.notifier.unsubscribe 2).2 } }
    entries := [.function 1 [.string "lamp", .bool true] 0, .function 2 [.string "door", .null] 0,
      .function 0 [.string "lamp", .bool true] 0] }

theorem honest_meddling (arguments : List Value) : (meddling arguments).Honest := by
  apply (Host.honest_callGlobal _ _ _).bind
  intro _
  apply (Host.honest_publish _ _).bind
  intro _
  exact .pure _

theorem honest_crowded : crowded.Honest := by
  constructor
  · exact ((Notifier.Reachable.start.subscribe "lamp" _).subscribe "lamp" _).subscribe "door" _
  · intro id body found arguments memory
    have member : body ∈ crowded.functions := Array.mem_of_getElem? found
    simp only [crowded, List.mem_toArray, List.mem_cons, List.not_mem_nil, or_false, or_self] at member
    obtain rfl | rfl := member
    · exact (honest_meddling arguments).program memory
    · exact trivial

theorem publish_delivers_crowded :
    crowded.Honest ∧ crowded.Defines (crowded.notifier.callbacks "lamp") ∧
      crowded.Returns (Host.publish "lamp" (.bool true)) 8 2 thinned ∧
      (∃ live deeds, Delivered crowded "lamp" (.bool true) live deeds 2 thinned) ∧
      thinned.notifier.subscribed "lamp" = [1] := by
  have defines : crowded.Defines (crowded.notifier.callbacks "lamp") := by
    have callbacks : crowded.notifier.callbacks "lamp" = [⟨0, "meddling"⟩, ⟨1, "dropped"⟩] := rfl
    rw [callbacks]
    intro callback member
    simp only [List.mem_cons, List.not_mem_nil, or_false] at member
    obtain rfl | rfl := member
    · exact ⟨_, rfl⟩
    · exact ⟨_, rfl⟩
  have returns : crowded.Returns (Host.publish "lamp" (.bool true)) 8 2 thinned := by
    intro next owner
    rfl
  exact ⟨honest_crowded, defines, returns, (publish_delivers honest_crowded returns).1, rfl⟩

end Crowded

end Loop.Machine
end RuleHost
