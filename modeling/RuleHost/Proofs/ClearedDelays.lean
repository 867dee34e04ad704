import RuleHost.Proofs.LoopDrain

/-! What clearing does to delays. A counted delay shares the numbers of the timers, and who knows its number
can clear it: then its value is abandoned. Nothing else can keep a counted delay from its value. -/

namespace RuleHost.Loop

variable {σ : Type}

theorem Call.issues?_eq_some_iff {call : Call σ} {scheduler : SchedulerId} {id : TimerId} :
    call.issues? scheduler = some id ↔
      (∃ duration callback, call = .timeout scheduler duration callback id) ∨
        ∃ duration value handle, call = .countedDelay scheduler duration value id handle := by
  constructor
  · intro issues
    cases call with
    | timeout other duration callback given =>
      obtain ⟨rfl, same⟩ := Option.ite_none_right_eq_some.mp issues
      cases same
      exact .inl ⟨duration, callback, rfl⟩
    | countedDelay other duration value given handle =>
      obtain ⟨rfl, same⟩ := Option.ite_none_right_eq_some.mp issues
      cases same
      exact .inr ⟨duration, value, handle, rfl⟩
    | delay | attach | clear | answer => cases issues
  · intro made
    obtain ⟨_, _, rfl⟩ | ⟨_, _, _, rfl⟩ := made <;> exact if_pos rfl

theorem clearings_pos {history : List (Record σ)} {scheduler : SchedulerId} {id : TimerId} :
    0 < clearings scheduler id history ↔ ∃ time, ⟨time, .clear scheduler id true⟩ ∈ history := by
  rw [clearings, List.countP_pos_iff]
  constructor
  · intro some
    obtain ⟨⟨time, call⟩, member, clears⟩ := some
    cases call with
    | clear other cleared found =>
      simp only [Call.clears, Bool.and_eq_true, beq_iff_eq] at clears
      obtain ⟨⟨rfl, rfl⟩, rfl⟩ := clears
      exact ⟨time, member⟩
    | timeout | delay | countedDelay | attach | answer => cases clears
  · intro cleared
    obtain ⟨time, member⟩ := cleared
    exact ⟨_, member, by simp [Call.clears]⟩

/-- Only numbers that were handed out before are cleared. -/
def Granted (history : List (Record σ)) : Prop :=
  ∀ newer older moment scheduler id, history = newer ++ ⟨moment, .clear scheduler id true⟩ :: older →
    id ∈ issued scheduler older

namespace Machine

variable {history : List (Record σ)} {m n : Machine σ}

theorem mem_issued_iff {scheduler : SchedulerId} {id : TimerId} :
    id ∈ issued scheduler history ↔
      (∃ time duration callback, ⟨time, .timeout scheduler duration callback id⟩ ∈ history) ∨
        ∃ time duration value handle, ⟨time, .countedDelay scheduler duration value id handle⟩ ∈ history := by
  constructor
  · intro handed
    obtain ⟨⟨time, call⟩, member, issues⟩ := List.mem_filterMap.mp handed
    obtain ⟨duration, callback, rfl⟩ | ⟨duration, value, handle, rfl⟩ := Call.issues?_eq_some_iff.mp issues
    · exact .inl ⟨time, duration, callback, member⟩
    · exact .inr ⟨time, duration, value, handle, member⟩
  · intro made
    obtain ⟨_, _, _, member⟩ | ⟨_, _, _, _, member⟩ := made
    · exact mem_issued member (if_pos rfl)
    · exact mem_issued member (if_pos rfl)

theorem mem_pending_of_clear {table next : TimerTable} {id : TimerId} {task : TaskId}
    (held : table.clear? id = some (task, next)) : id ∈ table.pending.keys := by
  obtain ⟨_, found, _⟩ := Option.map_eq_some_iff.mp held
  rw [← Table.contains_eq_true_iff, Table.contains_eq_isSome, found]
  rfl

theorem Move.cleared {scheduler : SchedulerId} {id : TimerId} (move : Move m (some (.clear scheduler id true)) n) :
    id ∈ (m.toWorld.scheduler scheduler).pending.keys := by
  cases move with
  | clear _ _ task table held => exact mem_pending_of_clear held
  | clearGone _ _ task table held => exact mem_pending_of_clear held

theorem Granted.invariant : Invariant (σ := σ) Ledger fun history _ => Granted history where
  alike _ granted := granted
  move := by
    intro history m n call ledger move granted
    cases call with
    | none => exact granted
    | some call =>
      intro newer older moment scheduler id split
      cases newer with
      | nil =>
        obtain ⟨same, rfl⟩ := List.cons.inj split
        cases same
        exact (ledger scheduler).handed move.cleared
      | cons newest newer => exact granted newer older moment scheduler id (List.cons.inj split).2

theorem Traced.granted {memory : σ} {script : Script σ} {attached : Bool}
    (run : Traced (Machine.start memory script attached) history m) : Granted history :=
  Granted.invariant.traced run (fun run => run.orderly.ledger) fun newer _ _ _ _ split => by
    cases newer <;> cases split

/-- What clearing has done by the end of a finished run. -/
structure Cleared (history : List (Record σ)) (final : Machine σ) : Prop where
  kept : ∀ time scheduler duration value id handle,
    ⟨time, .countedDelay scheduler duration value id handle⟩ ∈ history →
      (∀ moment, ⟨moment, .clear scheduler id true⟩ ∉ history) →
        final.toWorld.state? handle = some (.resolved value (time + duration))
  lost : ∀ time scheduler duration value id handle,
    ⟨time, .countedDelay scheduler duration value id handle⟩ ∈ history →
      ∀ moment, ⟨moment, .clear scheduler id true⟩ ∈ history → final.toWorld.state? handle = some .abandoned
  /-- Whatever is cleared was given to a timer or to a counted delay before. -/
  granted : ∀ newer older moment scheduler id, history = newer ++ ⟨moment, .clear scheduler id true⟩ :: older →
    (∃ time duration callback, ⟨time, .timeout scheduler duration callback id⟩ ∈ older) ∨
      ∃ time duration value handle, ⟨time, .countedDelay scheduler duration value id handle⟩ ∈ older
  /-- Where programs clear only the timers that they were told the numbers of, all delays come to their values. -/
  spared : (∀ moment scheduler id, ⟨moment, .clear scheduler id true⟩ ∈ history →
      ∃ time duration callback, ⟨time, .timeout scheduler duration callback id⟩ ∈ history) →
    ∀ time scheduler duration value id handle,
      ⟨time, .countedDelay scheduler duration value id handle⟩ ∈ history →
        final.toWorld.state? handle = some (.resolved value (time + duration))

/-- The number of a timer that a program was told is not that of a counted delay. -/
theorem Filed.timeout_ne_countedDelay (filed : Filed history m) (ledger : Ledger history m)
    {time moment : Nat} {scheduler : SchedulerId} {duration span : Nat} {callback : Program σ} {value : Value}
    {id other : TimerId} {handle : CellId} (made : ⟨time, .timeout scheduler duration callback id⟩ ∈ history)
    (member : ⟨moment, .countedDelay scheduler span value other handle⟩ ∈ history) : id ≠ other := by
  rintro rfl
  obtain ⟨_, task, found, _, job⟩ := filed.task made rfl
  obtain ⟨_, second, stored, _, work⟩ := filed.task member rfl
  have same := (filed.timer_unique ledger found stored job work).2
  rw [job, work] at same
  cases same

theorem delays_cleared {memory : σ} {script : Script σ} {attached : Bool} :
    (∀ fuel final, run fuel (start memory script attached) = some final →
      ∃ history last, Finished (start memory script attached) history last final) ∧
      ∀ history last final, Finished (start memory script attached) history last final → Cleared history final := by
  refine ⟨fun _ _ => run_finished, ?_⟩
  rintro history last _ ⟨run, still, drained, rfl⟩
  have orderly := run.orderly
  have filed := run.filed
  rw [tearDown_drained drained]
  have left {time scheduler duration : Nat} {value : Value} {id : TimerId} {handle : CellId}
      (member : ⟨time, .countedDelay scheduler duration value id handle⟩ ∈ history) :=
    run.standing.countedDelay orderly filed (idle_of_still still) drained member
  have kept : ∀ time scheduler duration value id handle,
      ⟨time, .countedDelay scheduler duration value id handle⟩ ∈ history →
        (∀ moment, ⟨moment, .clear scheduler id true⟩ ∉ history) →
          last.toWorld.state? handle = some (.resolved value (time + duration)) := by
    intro time scheduler duration value id handle member never
    have none : clearings scheduler id history = 0 := by
      apply Nat.eq_zero_of_not_pos
      intro some
      obtain ⟨moment, cleared⟩ := clearings_pos.mp some
      exact never moment cleared
    rw [left member, if_pos none]
  refine ⟨kept, ?_, ?_, ?_⟩
  · intro time scheduler duration value id handle member moment cleared
    have some : 0 < clearings scheduler id history := clearings_pos.mpr ⟨moment, cleared⟩
    exact (left member).trans (if_neg (by omega))
  · intro newer older moment scheduler id split
    exact mem_issued_iff.mp (run.granted newer older moment scheduler id split)
  · intro told time scheduler duration value id handle member
    apply kept time scheduler duration value id handle member
    intro moment cleared
    obtain ⟨_, _, _, made⟩ := told moment scheduler id cleared
    exact filed.timeout_ne_countedDelay orderly.ledger made member rfl

/-- A script that clears the first of two delays, whose numbers it was not told. -/
def hasty : Script Unit :=
  .run (.perform (.delay (some 0) 10 .null) fun _ => .perform (.delay (some 0) 20 .null) fun _ =>
    .perform (.clearTimeout 0 ⟨1⟩) fun found => .finish (.ok (.bool found))) .finish

private def hastened : Machine Unit := (runScript 60 (start () hasty)).getD (start () hasty)

private def hastySettled : Machine Unit := (settleAll 60 (hastened.note .draining)).getD hastened

private theorem hasty_scripted : runScript 60 (start () hasty) = some hastened := rfl

private theorem hasty_settled : settleAll 60 (hastened.note .draining) = some hastySettled := rfl

private theorem hasty_drained : hastySettled.isDrained = true := by
  rw [isDrained, ← Array.all_toList]
  rfl

private theorem hasty_returned : run 60 (start () hasty) = some hastySettled.tearDown := by
  rw [run, hasty_scripted, Option.bind_some, drain, hasty_settled, Option.bind_some, if_pos hasty_drained]

theorem delays_cleared_hasty : ∃ (history : List (Record Unit)) (last final : Machine Unit),
    run 60 (start () hasty) = some final ∧ Finished (start () hasty) history last final ∧
    Cleared history final ∧ (final.toWorld.scheduler 0).stats = ⟨2, 1, 1, 0⟩ ∧
    final.toWorld.state? 1 = some (.resolved .null 20) := by
  obtain ⟨history, last, finished⟩ := delays_cleared.1 _ _ hasty_returned
  refine ⟨history, last, _, hasty_returned, finished, delays_cleared.2 _ _ _ finished, ?_, ?_⟩
  · rw [tearDown_drained hasty_drained]
    rfl
  · rw [tearDown_drained hasty_drained]
    rfl

/-- The clearing is answered as that of a timer, though no timer was set, and the delay comes to nothing. -/
theorem delay_lost_hasty : ∃ (history : List (Record Unit)) (last final : Machine Unit),
    run 60 (start () hasty) = some final ∧ Finished (start () hasty) history last final ∧
    ⟨0, .countedDelay 0 10 .null ⟨1⟩ 0⟩ ∈ history ∧ (∃ moment, ⟨moment, .clear 0 ⟨1⟩ true⟩ ∈ history) ∧
    (∀ time scheduler duration callback id, ⟨time, .timeout scheduler duration callback id⟩ ∉ history) ∧
    final.outcome? = some (.ok (.bool true)) ∧ final.toWorld.state? 0 = some .abandoned := by
  obtain ⟨⟨before, body⟩, _⟩ := runScript_traced hasty_scripted
  obtain ⟨⟨after, tail⟩, still⟩ := settleAll_traced hasty_settled
  have whole := (body.turn (.note .draining)).trans tail
  have both : hastySettled.tasks = #[⟨.timer 0 ⟨1⟩ 10 (.resolve 0 .null), .ended, 0⟩,
    ⟨.timer 0 ⟨2⟩ 20 (.resolve 1 .null), .ended, 0⟩] := rfl
  have delayed : ⟨0, .countedDelay 0 10 .null ⟨1⟩ 0⟩ ∈ after ++ ([] ++ before) := by
    have found : hastySettled.tasks[0]? = some ⟨.timer 0 ⟨1⟩ 10 (.resolve 0 .null), .ended, 0⟩ := by
      rw [both]
      rfl
    obtain ⟨⟨time, call⟩, member, starts, born⟩ := whole.filed.record found
    cases call with
    | countedDelay =>
      cases starts
      cases born
      exact member
    | timeout | delay | attach | clear | answer => cases starts
  have cleared : 0 < clearings 0 ⟨1⟩ (after ++ ([] ++ before)) := by
    have fate := (whole.orderly.ledger 0).fate (mem_issued_iff.mpr (.inr ⟨_, _, _, _, delayed⟩))
    have held : (hastySettled.toWorld.scheduler 0).pending.contains ⟨1⟩ = false := rfl
    have fired : firings 0 ⟨1⟩ hastySettled.entries = 0 := rfl
    rw [held, fired] at fate
    simp only [Bool.false_eq_true, if_false] at fate
    omega
  have unset (time scheduler duration : Nat) (callback : Program Unit) (id : TimerId) :
      ⟨time, .timeout scheduler duration callback id⟩ ∉ after ++ ([] ++ before) := by
    intro made
    obtain ⟨_, task, found, _, job⟩ := whole.filed.task made rfl
    have member := Array.mem_of_getElem? found
    rw [both, List.mem_toArray, List.mem_cons, List.mem_singleton] at member
    obtain rfl | rfl := member <;> cases job
  refine ⟨_, hastySettled, _, hasty_returned, ⟨whole, still, hasty_drained, rfl⟩, delayed, clearings_pos.mp cleared,
    unset, ?_, ?_⟩
  · rw [tearDown_drained hasty_drained]
    rfl
  · rw [tearDown_drained hasty_drained]
    rfl

end Machine
end RuleHost.Loop
