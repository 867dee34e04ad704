import RuleHost.Proofs.ContinuationOrder
import RuleHost.Proofs.ScriptProgress

/-! What a deferred value looks like to those who hold a handle on it. It is pending until it is resolved or
lost, and stays what it has become. Whoever looks at it, waits for it or is attached to it learns the same,
whether before or after that moment. -/

namespace RuleHost.Loop

variable {σ : Type}

/-- The three ways in which a deferred value can be found, with what a handle shows of each. Only the value
that is held tells the two ends apart from what is still pending and from each other. -/
inductive Cell.Found (c : Cell) : Prop where
  | pending (waits : c.isPending = true) (empty : c.peek = none) (kept : c.isAbandoned = false)
      (text : c.debug = "Deferred \x7b state: " ++ "Pending" ++ ", .. \x7d")
  | resolved (value : Value) (finished : c.isPending = false) (held : c.peek = some value)
      (kept : c.isAbandoned = false)
      (text : c.debug = "Deferred \x7b state: " ++ "Resolved" ++ ", .. \x7d")
  | abandoned (finished : c.isPending = false) (empty : c.peek = none) (lost : c.isAbandoned = true)
      (text : c.debug = "Deferred \x7b state: " ++ "Pending" ++ ", .. \x7d")

theorem Cell.found (c : Cell) : c.Found := by
  obtain ⟨state, handles⟩ := c
  cases state with
  | pending writer => exact .pending rfl rfl rfl rfl
  | resolved value time => exact .resolved value rfl rfl rfl rfl
  | abandoned => exact .abandoned rfl rfl rfl rfl

theorem Cell.peek_eq_some_iff {c : Cell} {value : Value} :
    c.peek = some value ↔ ∃ time, c.state = .resolved value time := by
  obtain ⟨state, handles⟩ := c
  cases state <;> simp [peek]

theorem Cell.isAbandoned_iff {c : Cell} : c.isAbandoned = true ↔ c.state = .abandoned := by
  obtain ⟨state, handles⟩ := c
  cases state <;> simp [isAbandoned]

theorem Cell.isPending_eq_false_iff {c : Cell} :
    c.isPending = false ↔ ∀ writer, c.state ≠ .pending writer := by
  obtain ⟨state, handles⟩ := c
  cases state <;> simp [isPending]

namespace Machine

/-- What a wait for a deferred value can end with: the value, the news that it is lost, or nothing by the
time the wait was limited to. -/
inductive Tells (m : Machine σ) (c : Cell) (limit : Option Nat) : Answer → Prop where
  | value (value : Value) (held : c.peek = some value) : Tells m c limit (.value value)
  | abandoned (lost : c.isAbandoned = true) : Tells m c limit .abandoned
  | limit (waits : c.isPending = true) (reached : limit.any (· ≤ m.now) = true) : Tells m c limit .limit

theorem answer?_settled_iff {m : Machine σ} {cell : CellId} {c : Cell} (held : m.cells[cell]? = some c)
    {limit : Option Nat} {answer : Answer} :
    m.answer? (.settled cell limit) = some answer ↔ Tells m c limit answer := by
  obtain ⟨state, handles⟩ := c
  simp only [answer?, held, Option.map_some]
  constructor
  · intro reply
    cases state with
    | resolved value time => cases reply; exact .value value rfl
    | abandoned => cases reply; exact .abandoned rfl
    | pending writer =>
      simp only at reply
      split at reply
      next reached => cases reply; exact .limit rfl reached
      next => cases reply
  · intro tells
    cases tells with
    | value value here =>
      obtain ⟨time, same⟩ := Cell.peek_eq_some_iff.mp here
      cases same
      rfl
    | abandoned lost =>
      cases Cell.isAbandoned_iff.mp lost
      rfl
    | limit waits reached =>
      cases state with
      | pending writer => exact if_pos reached
      | resolved | abandoned => cases waits

section Waits

variable {m next : Machine σ} {alarm other : Alarm} {rest left : Answer → Script σ}

theorem Pauses.unique (pauses : m.Pauses alarm rest) (also : m.Pauses other left) :
    other = alarm ∧ left = rest := by
  rcases pauses with waits | ⟨wait, asks, rfl⟩
  · rcases also with again | ⟨_, asks, _⟩
    · cases waits.symm.trans again
      exact ⟨rfl, rfl⟩
    · cases waits.symm.trans asks
  · rcases also with waits | ⟨_, again, rfl⟩
    · cases asks.symm.trans waits
    · cases asks.symm.trans again
      exact ⟨rfl, rfl⟩

/-- A script that waits goes on with the answer and with nothing else. -/
theorem Turn.wait {new : List (Record σ)} (turn : Turn m new next) (scripted : Scripted m)
    (pauses : m.Pauses alarm rest) : next.script = m.script ∨ next.script = .waiting alarm rest ∨
      ∃ answer, next.answer? alarm = some answer ∧ next.script = .ready (rest answer) := by
  have idle {progress : Progress σ} (script : m.script = progress)
      (waits : ∀ alarm after, progress ≠ .waiting alarm after)
      (asks : ∀ wait after, progress ≠ .ready (.pause wait after)) : False := by
    rcases pauses with found | ⟨wait, found, _⟩
    · exact waits _ _ (script.symm.trans found)
    · exact asks _ _ (script.symm.trans found)
  cases turn.stride with
  | aside aside => exact .inl aside.script
  | returned _ _ running => exact (idle (scripted _ _ running) (by simp) (by simp)).elim
  | ended _ script => exact (idle script (by simp) (by simp)).elim
  | began _ _ script => exact (idle script (by simp) (by simp)).elim
  | paused alarm after again _ goes =>
    obtain ⟨rfl, rfl⟩ := pauses.unique again
    exact .inr (.inl goes)
  | answered alarm after answer again reply _ goes =>
    obtain ⟨rfl, rfl⟩ := pauses.unique again
    exact .inr (.inr ⟨answer, reply, goes⟩)

theorem Life.scripted {history : List (Record σ)} (life : Life history m) : Scripted m := by
  induction life with
  | start => exact .of_idle rfl
  | turn _ turn ih => exact turn.stride.scripted ih
  | enter _ idle => exact .of_idle idle
  | leave _ idle => exact .of_idle ((focus_tearDown _).trans idle)

end Waits

theorem state?_eq_some_iff {w : World} {cell : CellId} {state : CellState} :
    w.state? cell = some state ↔ ∃ c, w.cells[cell]? = some c ∧ c.state = state := Option.map_eq_some_iff

/-- A deferred value as it is found later on. -/
structure Observed (before after : Cell) (n : Machine σ) (cell : CellId) : Prop where
  found : after.Found
  final : before.isPending = false → after.state = before.state
  resolved : ∀ value, before.peek = some value → after.peek = some value ∧ after.isAbandoned = false ∧
    ∀ limit, n.answer? (.settled cell limit) = some (.value value)
  abandoned : before.isAbandoned = true → after.isAbandoned = true ∧ after.peek = none ∧
    ∀ limit, n.answer? (.settled cell limit) = some .abandoned
  replies : ∀ limit answer, n.answer? (.settled cell limit) = some answer ↔ Tells n after limit answer
  attached : ∀ target value time, .continuation cell target value time ∈ n.entries →
    after.peek = some value
  waited : ∀ new next limit rest, Turn n new next → n.Pauses (.settled cell limit) rest →
    next.script = n.script ∨ next.script = .waiting (.settled cell limit) rest ∨
      ∃ last answer, next.cells[cell]? = some last ∧ Tells next last limit answer ∧
        next.script = .ready (rest answer) ∧ (after.isPending = false → last.state = after.state)

theorem Persists.cell {m n : Machine σ} (persists : Persists m n) {cell : CellId} {before : Cell}
    (held : m.cells[cell]? = some before) :
    ∃ after, n.cells[cell]? = some after ∧ (before.isPending = false → after.state = before.state) := by
  have stored : m.toWorld.state? cell = some before.state := state?_eq_some_iff.mpr ⟨before, held, rfl⟩
  obtain ⟨state, present⟩ := Option.ne_none_iff_exists'.mp
    (persists.exist cell (stored ▸ Option.some_ne_none _))
  obtain ⟨after, found, _⟩ := state?_eq_some_iff.mp present
  refine ⟨after, found, fun final => ?_⟩
  have kept := persists.settled cell before.state stored (Cell.isPending_eq_false_iff.mp final)
  obtain ⟨same, again, state⟩ := state?_eq_some_iff.mp kept
  cases found.symm.trans again
  exact state

/-- A deferred value is pending, resolved or abandoned, and never two of these; only what is pending can
change. All who look at it, at any time and from anywhere, see the one value that it was resolved with, or
that it is lost. -/
theorem observers_agree {earlier later : List (Record σ)} {m n : Machine σ} (life : Life earlier m)
    (onward : Onward m later n) {cell : CellId} {before : Cell} (held : m.cells[cell]? = some before) :
    ∃ after, n.cells[cell]? = some after ∧ Observed before after n cell := by
  have later := life.onward onward
  obtain ⟨after, found, final⟩ := (life.persists onward).cell held
  have finished {state : CellState} (settled : before.state = state)
      (ends : ∀ writer, state ≠ .pending writer) : after.state = state := by
    subst settled
    exact final (Cell.isPending_eq_false_iff.mpr ends)
  refine ⟨after, found, after.found, final, ?_, ?_, ?_, ?_, ?_⟩
  · intro value resolved
    obtain ⟨time, same⟩ := Cell.peek_eq_some_iff.mp resolved
    have here : after.peek = some value := Cell.peek_eq_some_iff.mpr ⟨time, finished same (by simp)⟩
    refine ⟨here, ?_, fun limit => (answer?_settled_iff found).mpr (.value value here)⟩
    cases after.found with
    | resolved _ _ _ kept => exact kept
    | pending _ empty | abandoned _ empty => cases empty.symm.trans here
  · intro lost
    have here : after.isAbandoned = true :=
      Cell.isAbandoned_iff.mpr (finished (Cell.isAbandoned_iff.mp lost) (by simp))
    refine ⟨here, ?_, fun limit => (answer?_settled_iff found).mpr (.abandoned here)⟩
    cases after.found with
    | abandoned _ empty => exact empty
    | pending _ _ kept | resolved _ _ _ kept => cases kept.symm.trans here
  · exact fun limit answer => answer?_settled_iff found
  · intro target value time member
    obtain ⟨_, _, _, _, settled, _, _, _, resolved, _⟩ := later.causal.begun _ _ _ _ member
    obtain ⟨same, again, state⟩ := state?_eq_some_iff.mp resolved
    cases found.symm.trans again
    exact Cell.peek_eq_some_iff.mpr ⟨settled, state⟩
  · intro new next limit rest turn pauses
    rcases turn.wait later.scripted pauses with still | waits | ⟨answer, reply, goes⟩
    · exact .inl still
    · exact .inr (.inl waits)
    · obtain ⟨last, stored, kept⟩ := (Traced.start.turn turn).persists.cell found
      exact .inr (.inr ⟨last, answer, stored, (answer?_settled_iff stored).mp reply, goes, kept⟩)

/-- A script that waits for the sooner of two delays and ends before the later one is over. -/
def watched : Script Unit :=
  .run (.perform (.delay none 10 .null) fun _ => .perform (.delay none 20 .undefined) fun _ =>
    .finish (.ok .undefined)) fun _ => .pause (fun _ => .settled 0 none) fun _ => .finish (.ok .undefined)

private def watching : Machine Unit := (runScript 60 (start () watched)).getD (start () watched)

theorem observers_agree_watched : ∃ (history : List (Record Unit)) (m : Machine Unit)
    (kept pending : Cell), Life history m ∧ m.cells[0]? = some kept ∧ kept.peek = some .null ∧
    m.cells[1]? = some pending ∧ pending.isPending = true ∧
    (∃ after, m.tearDown.cells[0]? = some after ∧ Observed kept after m.tearDown 0 ∧
      after.peek = some .null) ∧
    ∃ after, m.tearDown.cells[1]? = some after ∧ Observed pending after m.tearDown 1 ∧
      after.isAbandoned = true := by
  have body : runScript 60 (start () watched) = some watching := rfl
  obtain ⟨⟨history, run⟩, _⟩ := runScript_traced body
  have life := (Life.start () watched true).traced run
  have left : Onward watching [] watching.tearDown := Onward.start.leave rfl
  have sooner : watching.cells[0]? = some ⟨.resolved .null 10, 1⟩ := rfl
  have later : watching.cells[1]? = some ⟨.pending .task, 1⟩ := rfl
  obtain ⟨after, found, seen⟩ := observers_agree life left sooner
  obtain ⟨gone, lost, other⟩ := observers_agree life left later
  refine ⟨_, watching, _, _, life, sooner, rfl, later, rfl, ⟨after, found, seen, ?_⟩,
    gone, lost, other, ?_⟩
  · cases found
    rfl
  · cases lost
    rfl

end Machine
end RuleHost.Loop
