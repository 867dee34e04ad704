import RuleHost.Proofs.ActCongruence
import RuleHost.Proofs.Recounting

/-! What scripts are made of is the same whoever counts their continuations. Two acts are the same but for
counters if the programs that begin with them are, as soon as what follows is; an act is steady if it does the
same and has the same result whatever was counted before. -/

namespace RuleHost

open Loop

/-- Memories that are alike stay so when both get the same host. -/
def Loop.Likeness.Rehosts {σ : Type} [HostMemory σ] (like : Likeness σ) : Prop :=
  ∀ {known : Nat} {a b : σ}, like.alike known a b → ∀ host,
    like.alike known (HostMemory.setHost host a) (HostMemory.setHost host b)

namespace Loop.Act

variable {σ α β γ δ ε : Type} [HostMemory σ] {like : Likeness σ}

def Recounted (like : Likeness σ) (related : α → β → Prop) (act : Act σ α) (same : Act σ β) : Prop :=
  ∀ (known : Nat) (next : α → Program σ) (other : β → Program σ),
    (∀ more, known ≤ more → ∀ x y, related x y → (next x).Recounted like more (other y)) →
      (act next).Recounted like known (same other)

/-- An act that does not depend on counts. -/
def Steady (like : Likeness σ) (act : Act σ α) : Prop := act.Recounted like Eq act

variable {related : α → β → Prop} {weaker : γ → δ → Prop}

theorem Recounted.pure {x : α} {y : β} (results : related x y) :
    Recounted like related (Pure.pure x) (Pure.pure y) :=
  fun known _ _ later => later known (Nat.le_refl known) x y results

theorem Recounted.bind {act : Act σ α} {same : Act σ β} {rest : α → Act σ γ} {other : β → Act σ δ}
    (first : act.Recounted like related same)
    (following : ∀ x y, related x y → (rest x).Recounted like weaker (other y)) :
    (act >>= rest).Recounted like weaker (same >>= other) := by
  intro known next last later
  apply first
  intro more less x y results
  exact following x y results more next last fun size enough => later size (Nat.le_trans less enough)

theorem Steady.pure (value : α) : Steady like (Pure.pure value) := Recounted.pure rfl

/-- Acts with the same result go on with it. -/
theorem Recounted.bindSame {act same : Act σ α} {rest : α → Act σ γ} {other : α → Act σ δ}
    (first : act.Recounted like Eq same) (following : ∀ value, (rest value).Recounted like weaker (other value)) :
    (act >>= rest).Recounted like weaker (same >>= other) :=
  first.bind fun value _ same => same ▸ following value

theorem Steady.bind {act : Act σ α} {rest : α → Act σ γ} {other : α → Act σ δ} (first : act.Steady like)
    (following : ∀ value, (rest value).Recounted like weaker (other value)) :
    (act >>= rest).Recounted like weaker (act >>= other) := Recounted.bindSame first following

theorem Recounted.programWith {act : Act σ α} {same : Act σ β} (acts : act.Recounted like related same)
    {outcome : α → Outcome} {other : β → Outcome} (told : ∀ x y, related x y → outcome x = other y) (known : Nat) :
    (act.programWith outcome).Recounted like known (same.programWith other) := by
  apply acts
  intro more less x y results
  rw [told x y results]
  exact .finish _

theorem Recounted.program {act same : Act σ Value} (acts : act.Recounted like Eq same) (known : Nat) :
    act.program.Recounted like known same.program :=
  acts.programWith (fun _ _ results => congrArg Except.ok results) known

theorem recounted_reading {rest : σ → Act σ α} {other : σ → Act σ β}
    (following : ∀ known a b, like.alike known a b → (rest a).Recounted like related (other b)) :
    (Act.memory >>= rest).Recounted like related (Act.memory >>= other) := by
  intro known next last later
  exact .read fun more less a b alike =>
    following more a b alike more next last fun size enough => later size (Nat.le_trans less enough)

theorem recounted_modifyMemory {change other : σ → σ}
    (kept : ∀ known a b, like.alike known a b → like.alike known (change a) (other b)) :
    (Act.modifyMemory change).Recounted like Eq (Act.modifyMemory other) := by
  intro known next last later
  exact .read fun more less a b alike => .write (kept more a b alike) (later more less () () rfl)

theorem recounted_looking {rest : World → Act σ α} {other : World → Act σ β}
    (following : ∀ w v : World, w.uncounted = v.uncounted → (rest w).Recounted like related (other v)) :
    (Act.look >>= rest).Recounted like related (Act.look >>= other) := by
  intro known next last later
  refine .perform .look fun more less (w : World) (v : World) alike => ?_
  exact following w v alike.1 more next last fun size enough => later size (Nat.le_trans less enough)

/-- A look is the only request whose reply tells counts. -/
theorem steady_perform (request : Request) (blind : request ≠ .look) :
    (Act.perform request : Act σ request.Reply).Steady like := by
  intro known next other later
  refine .perform request fun more less reply answer alike => later more less reply answer ?_
  cases request with
  | look => exact absurd rfl blind
  | newScheduler => exact alike.1
  | note | clearTimeout | delay | newDeferred | newResolved | resolve | dropResolver | cloneHandle | dropHandle =>
    exact alike

theorem steady_note (notice : Notice) : (Act.note notice : Act σ Unit).Steady like := steady_perform _ nofun

theorem recounted_define (outcome : α → Outcome) {body same : List Value → Act σ α}
    (bodies : ∀ arguments, (body arguments).Recounted like Eq (same arguments)) :
    Recounted like Eq (Program.define fun arguments => (body arguments).programWith outcome)
      (Program.define fun arguments => (same arguments).programWith outcome) := by
  intro known next other later
  refine .define (fun arguments => ?_) fun id => later known (Nat.le_refl known) id id rfl
  exact (bodies arguments).programWith (fun _ _ same => congrArg outcome same) known

theorem steady_call (function : FunctionId) (arguments : List Value) :
    (Act.call function arguments : Act σ Outcome).Steady like := by
  intro known next other later
  exact .call function arguments fun outcome => later known (Nat.le_refl known) outcome outcome rfl

theorem recounted_setTimeout (scheduler : SchedulerId) (duration : Nat) {callback same : Act σ Unit}
    (callbacks : callback.Recounted like Eq same) :
    (Act.setTimeout scheduler duration callback).Recounted like Eq (Act.setTimeout scheduler duration same) := by
  intro known next other later
  exact .setTimeout scheduler duration (callbacks.programWith (fun _ _ _ => rfl) known) fun id =>
    later known (Nat.le_refl known) id id rfl

/-- Counters may differ if as many schedulers are known as they name. -/
theorem recounted_attachProgram {known : Nat} {counter other : Option SchedulerId}
    (counters : Recounters known counter other) (source : CellId) {body same : Value → Act σ Value}
    (bodies : ∀ value, (body value).Recounted like Eq (same value)) {next last : Option CellId → Program σ}
    (later : ∀ cell, (next cell).Recounted like known (last cell)) :
    (Act.attach counter source body next).Recounted like known (Act.attach other source same last) :=
  .attach counters source (fun value => (bodies value).program known) later

theorem recounted_attach (counter : Option SchedulerId) (source : CellId) {body same : Value → Act σ Value}
    (bodies : ∀ value, (body value).Recounted like Eq (same value)) :
    (Act.attach counter source body).Recounted like Eq (Act.attach counter source same) := by
  intro known next other later
  exact recounted_attachProgram (.inl rfl) source bodies fun cell => later known (Nat.le_refl known) cell cell rfl

end Loop.Act

variable {σ : Type} [HostMemory σ] {like : Likeness σ}

namespace Host

theorem steady_get : (Host.get : Act σ Host).Steady like := by
  apply Act.recounted_reading
  intro known a b alike
  rw [like.host alike]
  exact .pure rfl

variable (rehosts : like.Rehosts)

include rehosts

theorem steady_modify (change : Host → Host) : (Host.modify change : Act σ Unit).Steady like := by
  apply Act.recounted_modifyMemory
  intro known a b alike
  rw [like.host alike]
  exact rehosts alike _

omit rehosts in
theorem steady_noteAll (notices : List Notice) : (Host.noteAll notices : Act σ Unit).Steady like := by
  induction notices with
  | nil => exact .pure ()
  | cons notice rest ih => exact (Act.steady_note _).bind fun _ => ih

theorem steady_callGlobal (global : Global) (arguments : List Value) (enough : global.arity ≤ arguments.length) :
    (Host.callGlobal global arguments enough : Act σ Outcome).Steady like := by
  refine steady_get.bind fun host => ?_
  split
  · exact .pure rfl
  · exact (steady_modify rehosts _).bind fun _ => (steady_noteAll _).bind fun _ => .pure rfl

end Host

def Loop.Likeness.congruence (like : Likeness σ) (rehosts : like.Rehosts) : Act.Congruence σ where
  Relates := Act.Recounted like
  pure results := .pure results
  bind first _ following := first.bind following
  perform request blind := Act.steady_perform request blind
  define outcome _ _ bodies := Act.recounted_define outcome bodies
  call := Act.steady_call
  setTimeout scheduler duration _ _ callbacks := Act.recounted_setTimeout scheduler duration callbacks
  attach counter source _ _ bodies := Act.recounted_attach counter source bodies
  get := Host.steady_get
  modify {change} _ := Host.steady_modify rehosts change
  callGlobal := Host.steady_callGlobal rehosts

end RuleHost
