import RuleHost.Proofs.LoopClock
import RuleHost.Proofs.LoopTeardown

/-! Life goes on through loops that are left, with whatever is in them, and entered again. What holds at
the start and survives every move and the loss of a loop holds through the whole of a life. -/

namespace RuleHost.Loop.Machine

variable {σ : Type}

/-- The ways in which a life can go on from a machine. -/
inductive Onward (first : Machine σ) : List (Record σ) → Machine σ → Prop where
  | start : Onward first [] first
  | turn {history : List (Record σ)} {m : Machine σ} {new : List (Record σ)} {next : Machine σ}
      (onward : Onward first history m) (turn : Turn m new next) : Onward first (new ++ history) next
  | leave {history : List (Record σ)} {m : Machine σ} (onward : Onward first history m)
      (idle : m.focus = .idle) : Onward first history m.tearDown
  | enter {history : List (Record σ)} {m : Machine σ} (onward : Onward first history m)
      (idle : m.focus = .idle) (script : Script σ) (attached : Bool) :
      Onward first history { m with script := .ready script, attached }

theorem Life.onward {m last : Machine σ} {earlier later : List (Record σ)} (life : Life earlier m)
    (onward : Onward m later last) : Life (later ++ earlier) last := by
  induction onward with
  | start => exact life
  | turn _ turn ih => rw [List.append_assoc]; exact ih.turn turn
  | leave _ idle ih => exact ih.leave idle
  | enter _ idle script attached ih => exact ih.enter idle script attached

theorem alike_enter (m : Machine σ) (script : Script σ) (attached : Bool) :
    Alike m { m with script := .ready script, attached } :=
  ⟨rfl, rfl, fun _ => rfl, rfl, rfl, fun _ => .rfl, rfl⟩

theorem Invariant.under {given known kept : List (Record σ) → Machine σ → Prop}
    (invariant : Invariant given kept) (implies : ∀ {history m}, known history m → given history m) :
    Invariant known kept where
  alike := invariant.alike
  move holds := invariant.move (implies holds)

/-- An invariant that the loss of a loop does not break either. -/
structure Lasting (given kept : List (Record σ) → Machine σ → Prop) : Prop
    extends Invariant given kept where
  leave : ∀ {history m}, given history m → m.focus = .idle → kept history m → kept history m.tearDown

section Lives

variable {given kept : List (Record σ) → Machine σ → Prop} {earlier later : List (Record σ)}
  {m n : Machine σ}

theorem Lasting.onward (lasting : Lasting given kept) (life : Life earlier m)
    (known : ∀ {history m}, Life history m → given history m) (holds : kept earlier m)
    (onward : Onward m later n) : kept (later ++ earlier) n := by
  induction onward with
  | start => exact holds
  | turn before turn ih =>
    rw [List.append_assoc]
    exact lasting.turn turn (known (life.onward before)) ih
  | leave before idle ih => exact lasting.leave (known (life.onward before)) idle ih
  | enter _ _ script attached ih => exact lasting.alike (alike_enter _ script attached) ih

theorem Lasting.life (lasting : Lasting given kept)
    (start : ∀ memory script attached, kept [] (start memory script attached))
    (known : ∀ {history m}, Life history m → given history m) (life : Life earlier m) :
    kept earlier m := by
  induction life with
  | start memory script attached => exact start memory script attached
  | turn life turn ih => exact lasting.turn turn (known life) ih
  | leave life idle ih => exact lasting.leave (known life) idle ih
  | enter _ _ script attached ih => exact lasting.alike (alike_enter _ script attached) ih

end Lives

theorem Ledger.lasting : Lasting (σ := σ) (fun _ _ => True) Ledger where
  toInvariant := Ledger.invariant
  leave _ _ ledger := ledger.same (schedulers_tearDown _) (entries_tearDown _)

theorem Filed.lasting : Lasting (σ := σ) (fun _ _ => True) Filed where
  toInvariant := Filed.invariant
  leave _ _ filed := filed.tearDown

theorem Owing.lasting : Lasting (σ := σ) (fun _ _ => True) fun _ m => Owing m where
  toInvariant := Owing.invariant
  leave _ idle owing := owing.tearDown idle

theorem Persists.lasting (first : Machine σ) :
    Lasting (σ := σ) (fun _ m => Owing m) fun _ m => Persists first m where
  toInvariant := (Persists.invariant first).under fun _ => trivial
  leave owing idle persists := persists.trans (persists_tearDown owing idle)

/-- The tasks of a loop that is gone have no time to miss. -/
theorem Punctual.lasting :
    Lasting (σ := σ) (fun _ m => Owing m) fun _ m => Punctual m where
  toInvariant := Punctual.invariant.under fun _ => trivial
  leave := by
    intro history m owing idle punctual
    refine ⟨fun id task found => ?_, fun cell value time stored => ?_, ?_, ?_⟩
    · obtain ⟨old, stored, rfl⟩ := found_tearDown found
      apply Timely.ended
      rw [now_tearDown]
      exact (punctual.tasks id old stored).born
    · rw [now_tearDown]
      rcases state?_tearDown owing idle cell with ⟨_, lost⟩ | kept
      · cases lost.symm.trans stored
      · exact punctual.settled cell value time (kept.symm.trans stored)
    · rw [entries_tearDown]
      exact punctual.ordered
    · rw [entries_tearDown, now_tearDown]
      exact punctual.past

section

variable {earlier later : List (Record σ)} {m n : Machine σ}

theorem Life.ledger (life : Life earlier m) : Ledger earlier m :=
  Ledger.lasting.life .start (fun _ => trivial) life

theorem Life.filed (life : Life earlier m) : Filed earlier m :=
  Filed.lasting.life .start (fun _ => trivial) life

theorem Life.owing (life : Life earlier m) : Owing m :=
  Owing.lasting.life .start (fun _ => trivial) life

theorem Life.punctual (life : Life earlier m) : Punctual m :=
  Punctual.lasting.life .start Life.owing life

theorem Life.persists (life : Life earlier m) (onward : Onward m later n) : Persists m n :=
  (Persists.lasting m).onward life Life.owing (.refl m) onward

end

end RuleHost.Loop.Machine
