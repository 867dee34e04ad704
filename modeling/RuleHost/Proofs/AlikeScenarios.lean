import RuleHost.Proofs.RecountedSteps
import RuleHost.Scenario.State

/-! What scenarios tell and remember, but for counts of continuations: those are told by statistics, and by the
debug texts of what holds statistics. -/

namespace RuleHost.Scenario

open Loop

/-- Results that are the same, or tell statistics that are the same but for the count of continuations. -/
inductive Result.Alike : Result → Result → Prop where
  | same (result : Result) : Alike result result
  | stats {one two : TimerStats} (same : one.uncounted = two.uncounted) : Alike (.stats one) (.stats two)
  | statsText {one two : TimerStats} (same : one.uncounted = two.uncounted) :
      Alike (.text one.debug) (.text two.debug)
  | tableText {one two : TimerTable} (same : one.uncounted = two.uncounted) :
      Alike (.text one.debug) (.text two.debug)
  | contextText (context : Context) {w v : World} (same : w.uncounted = v.uncounted) (host : Host) :
      Alike (.text (context.debug w host)) (.text (context.debug v host))

structure Event.Alike (event other : Event) : Prop where
  label : event.label = other.label
  arguments : event.arguments = other.arguments
  time : event.time = other.time
  results : List.Forall₂ Result.Alike event.results other.results

structure Report.Alike (report other : Report) : Prop where
  result : report.result.Alike other.result
  events : List.Forall₂ Event.Alike report.events other.events
  lines : report.lines = other.lines
  notices : report.notices = other.notices

theorem Event.Alike.refl (event : Event) : event.Alike event :=
  ⟨rfl, rfl, rfl, List.forall₂_same.mpr fun result _ => .same result⟩

theorem Report.Alike.refl (report : Report) : report.Alike report :=
  ⟨.same report.result, List.forall₂_same.mpr fun event _ => .refl event, rfl, rfl⟩

/-- Scenarios remember the same but for the counts that they were told. -/
inductive State.Alike : State → State → Prop where
  | of (state : State) {events : Array Event} {reports : List Report}
      (entered : Aligned Event.Alike state.events events)
      (reported : List.Forall₂ Report.Alike state.reports reports) : Alike state { state with events, reports }

namespace State.Alike

variable {a b : State}

theorem refl (state : State) : state.Alike state :=
  .of state (.refl .refl state.events) (List.forall₂_same.mpr fun report _ => .refl report)

theorem host_eq (alike : a.Alike b) : a.host = b.host := by
  cases alike
  rfl

theorem reports (alike : a.Alike b) : List.Forall₂ Report.Alike a.reports b.reports := by
  cases alike with
  | of _ reported => exact reported

theorem scheduler_eq (alike : a.Alike b) : a.scheduler = b.scheduler := by
  cases alike
  rfl

/-- What is seen through the labels of a scenario does not depend on counts. -/
theorem views (alike : a.Alike b) {w v : World} (same : w.uncounted = v.uncounted) :
    viewHandles a w = viewHandles b v ∧ viewStarted a w = viewStarted b v := by
  rw [World.eq_of_uncounted same]
  cases alike
  exact ⟨rfl, rfl⟩

theorem size_events (alike : a.Alike b) : a.events.size = b.events.size := by
  cases alike with
  | of entered _ => exact entered.size_eq

theorem setScheduler (alike : a.Alike b) (scheduler : SchedulerId) :
    Alike { a with scheduler } { b with scheduler } := by
  cases alike with
  | of entered reported => exact .of { a with scheduler } entered reported

theorem enter (alike : a.Alike b) (event : Event) :
    Alike { a with events := a.events.push event } { b with events := b.events.push event } := by
  cases alike with
  | of entered reported => exact .of { a with events := a.events.push event } (entered.push (.refl event)) reported

theorem answer (alike : a.Alike b) (index : Nat) {results others : List Result}
    (told : List.Forall₂ Result.Alike results others) :
    Alike { a with events := a.events.modify index fun event => { event with results } }
      { b with events := b.events.modify index fun event => { event with results := others } } := by
  cases alike with
  | of entered reported =>
    refine .of { a with events := a.events.modify index _ } (entered.modify index ?_) reported
    exact fun _ _ event => ⟨event.label, event.arguments, event.time, told⟩

theorem report (alike : a.Alike b) {w v : World} (same : w.uncounted = v.uncounted) {result other : Result}
    (results : result.Alike other) : (a.report w result).Alike (b.report v other) := by
  have notices : w.notices = v.notices := by rw [World.eq_of_uncounted same]
  cases alike with
  | of entered _ =>
    exact ⟨results, entered.forall₂, rfl, congrArg (since a.reportedNotices) notices⟩

theorem record (alike : a.Alike b) {w v : World} (same : w.uncounted = v.uncounted) {result other : Result}
    (results : result.Alike other) :
    Alike
      { a with
        reports := a.report w result :: a.reports
        events := #[]
        reportedLines := a.host.console.kept.length
        reportedNotices := w.notices.length }
      { b with
        reports := b.report v other :: b.reports
        events := #[]
        reportedLines := b.host.console.kept.length
        reportedNotices := v.notices.length } := by
  have notices : w.notices = v.notices := by rw [World.eq_of_uncounted same]
  have report := alike.report same results
  rw [notices]
  cases alike with
  | of _ reported =>
    exact .of
      { a with
        reports := a.report w result :: a.reports
        events := #[]
        reportedLines := a.host.console.kept.length
        reportedNotices := v.notices.length }
      (fun _ => .none) (.cons report reported)

end State.Alike

end RuleHost.Scenario
