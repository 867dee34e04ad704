import Mathlib.Data.List.Forall2
import RuleHost.Proofs.DefinedFunctions
import RuleHost.Proofs.ExactNumbers

/-! What the equality of values compares: not the values but what they stand for, which NaN does not have. A value
is therefore equal to itself unless NaN is in it, and equality is symmetric and transitive on all values. Functions
stand for their definitions, and in a run no two definitions are the same. -/

namespace RuleHost

/-- What a value stands for: a float stands for its number, and a function for what defined it. -/
inductive Meaning where
  | undefined
  | null
  | bool (value : Bool)
  | int (value : Int64)
  | number (value : Binary64.Number)
  | string (text : String)
  | list (items : List Meaning)
  | function (id : Loop.FunctionId)

def Meaning.kind : Meaning → Kind
  | .undefined => .undefined
  | .null => .null
  | .bool _ => .bool
  | .int _ => .int
  | .number _ => .float
  | .string _ => .string
  | .list _ => .list
  | .function _ => .function

namespace Value

mutual

/-- What a value stands for, if no NaN is in it. -/
def meaning? : Value → Option Meaning
  | .undefined => some .undefined
  | .null => some .null
  | .bool value => some (.bool value)
  | .int value => some (.int value)
  | .float value => value.number?.map .number
  | .string text => some (.string text)
  | .list items => (meanings? items).map .list
  | .function ref => some (.function ref.id)

def meanings? : List Value → Option (List Meaning)
  | [] => some []
  | item :: rest => do return (← meaning? item) :: (← meanings? rest)

end

/-- A value that occurs in another one, at any depth. -/
inductive Inside : Value → Value → Prop where
  | self (v : Value) : Inside v v
  | item {v item : Value} {items : List Value} (member : item ∈ items) (inside : Inside v item) :
      Inside v (.list items)

def Agree {α : Type} (first second : Option α) : Prop := ∃ value, first = some value ∧ second = some value

/-- Induction on how deep the lists of a value are nested. -/
theorem nested {motive : Value → Prop} (plain : ∀ v, (∀ items, v ≠ .list items) → motive v)
    (list : ∀ items, (∀ item ∈ items, motive item) → motive (.list items)) : ∀ v, motive v
  | .list items => list items fun item _ => nested plain list item
  | .undefined | .null | .bool _ | .int _ | .float _ | .string _ | .function _ => plain _ nofun

section Agreement

variable {α β : Type} {first second : Option α}

theorem agree_some {a b : α} : Agree (some a) (some b) ↔ a = b := by
  constructor
  · rintro ⟨value, same, other⟩
    exact Option.some.inj (same.trans other.symm)
  · rintro rfl
    exact ⟨a, rfl, rfl⟩

theorem agree_map {f : α → β} (injective : Function.Injective f) :
    Agree (first.map f) (second.map f) ↔ Agree first second := by
  constructor
  · rintro ⟨_, mapped, same⟩
    obtain ⟨value, stands, rfl⟩ := Option.map_eq_some_iff.mp mapped
    obtain ⟨other, agrees, equal⟩ := Option.map_eq_some_iff.mp same
    exact ⟨value, stands, injective equal ▸ agrees⟩
  · rintro ⟨value, rfl, rfl⟩
    exact ⟨f value, rfl, rfl⟩

theorem Agree.symm (agree : Agree first second) : Agree second first := by
  obtain ⟨value, stands, same⟩ := agree
  exact ⟨value, same, stands⟩

theorem Agree.trans {third : Option α} (agree : Agree first second) (next : Agree second third) :
    Agree first third := by
  obtain ⟨value, stands, same⟩ := agree
  obtain ⟨other, again, last⟩ := next
  cases same.symm.trans again
  exact ⟨value, stands, last⟩

theorem agree_self_iff : Agree first first ↔ first ≠ none := by
  rw [Option.ne_none_iff_exists']
  exact exists_congr fun value => and_self_iff

end Agreement

variable {v w : Value} {vs ws : List Value}

theorem kind_of_meaning {meaning : Meaning} (stands : v.meaning? = some meaning) : v.kind = meaning.kind := by
  cases v with
  | float | list =>
    obtain ⟨_, _, rfl⟩ := Option.map_eq_some_iff.mp stands
    rfl
  | undefined | null | bool | int | string | function => cases stands; rfl

theorem kind_of_equals (equal : v.equals w = true) : v.kind = w.kind := by
  cases v <;> cases w <;> first | rfl | (rw [equals] at equal <;> trivial)

theorem meanings?_cons_eq_some_iff {meanings : List Meaning} : meanings? (v :: vs) = some meanings ↔
    ∃ first rest, v.meaning? = some first ∧ meanings? vs = some rest ∧ meanings = first :: rest := by
  rw [meanings?]
  cases v.meaning? <;> cases meanings? vs <;> simp [eq_comm]

/-- Items are equal one by one if their meanings are. -/
theorem equalsAll_iff_agree (items : ∀ v ∈ vs, ∀ w : Value, v.equals w = true ↔ Agree v.meaning? w.meaning?) :
    equalsAll vs ws = true ↔ Agree (meanings? vs) (meanings? ws) := by
  induction vs generalizing ws with
  | nil =>
    cases ws with
    | nil => exact iff_of_true rfl ⟨[], rfl, rfl⟩
    | cons w ws =>
      refine iff_of_false Bool.false_ne_true ?_
      rintro ⟨_, empty, same⟩
      obtain ⟨_, _, _, _, rfl⟩ := meanings?_cons_eq_some_iff.mp same
      cases empty
  | cons v vs ih =>
    cases ws with
    | nil =>
      refine iff_of_false Bool.false_ne_true ?_
      rintro ⟨_, same, empty⟩
      obtain ⟨_, _, _, _, rfl⟩ := meanings?_cons_eq_some_iff.mp same
      cases empty
    | cons w ws =>
      rw [equalsAll, Bool.and_eq_true, items v List.mem_cons_self w,
        ih fun item member => items item (List.mem_cons_of_mem v member)]
      constructor
      · rintro ⟨⟨first, stands, same⟩, rest, others, agree⟩
        exact ⟨first :: rest, meanings?_cons_eq_some_iff.mpr ⟨first, rest, stands, others, rfl⟩,
          meanings?_cons_eq_some_iff.mpr ⟨first, rest, same, agree, rfl⟩⟩
      · rintro ⟨_, stands, same⟩
        obtain ⟨first, rest, leads, follows, rfl⟩ := meanings?_cons_eq_some_iff.mp stands
        obtain ⟨_, _, agrees, others, equal⟩ := meanings?_cons_eq_some_iff.mp same
        cases equal
        exact ⟨⟨first, leads, agrees⟩, rest, follows, others⟩

theorem equals_iff_agree_of_kind_ne (kinds : v.kind ≠ w.kind) : v.equals w = true ↔ Agree v.meaning? w.meaning? := by
  refine iff_of_false (mt kind_of_equals kinds) ?_
  rintro ⟨meaning, stands, same⟩
  exact kinds ((kind_of_meaning stands).trans (kind_of_meaning same).symm)

/-- Equality compares what values stand for. -/
theorem equals_iff_agree (v w : Value) : v.equals w = true ↔ Agree v.meaning? w.meaning? := by
  induction v using nested generalizing w with
  | plain v plain =>
    by_cases kinds : v.kind = w.kind
    · cases v with
      | undefined | null => cases w <;> cases kinds; exact iff_of_true rfl ⟨_, rfl, rfl⟩
      | bool | int | string | function => cases w <;> cases kinds; simp [equals, meaning?, agree_some]
      | float =>
        cases w <;> cases kinds
        rw [equals, meaning?, meaning?, agree_map fun _ _ => Meaning.number.inj]
        exact Binary64.equals_iff
      | list items => exact absurd rfl (plain items)
    · exact equals_iff_agree_of_kind_ne kinds
  | list items ih =>
    by_cases kinds : (Value.list items).kind = w.kind
    · cases w <;> cases kinds
      rw [equals, meaning?, meaning?, agree_map fun _ _ => Meaning.list.inj, equalsAll_iff_agree ih]
    · exact equals_iff_agree_of_kind_ne kinds

theorem meanings?_eq_none_iff : meanings? vs = none ↔ ∃ item ∈ vs, item.meaning? = none := by
  induction vs with
  | nil => simp [meanings?]
  | cons v vs ih =>
    rw [List.exists_mem_cons_iff, ← ih, meanings?]
    cases v.meaning? <;> cases meanings? vs <;> simp

/-- A value stands for nothing just if NaN is in it. -/
theorem meaning?_eq_none_iff (v : Value) :
    v.meaning? = none ↔ ∃ x : Binary64, Inside (.float x) v ∧ x.isNaN = true := by
  induction v using nested with
  | plain v plain =>
    cases v with
    | float x =>
      rw [meaning?, Option.map_eq_none_iff, Binary64.number?_eq_none_iff]
      constructor
      · intro nan
        exact ⟨x, .self _, nan⟩
      · rintro ⟨_, ⟨⟩, nan⟩
        exact nan
    | undefined | null | bool | int | string | function =>
      refine iff_of_false nofun ?_
      rintro ⟨_, ⟨⟩, _⟩
    | list items => exact absurd rfl (plain items)
  | list items ih =>
    rw [meaning?, Option.map_eq_none_iff, meanings?_eq_none_iff]
    constructor
    · rintro ⟨item, member, none⟩
      obtain ⟨x, inside, nan⟩ := (ih item member).mp none
      exact ⟨x, .item member inside, nan⟩
    · rintro ⟨x, ⟨⟩ | ⟨member, inside⟩, nan⟩
      exact ⟨_, member, (ih _ member).mpr ⟨x, inside, nan⟩⟩

theorem equals_self_iff (v : Value) :
    v.equals v = true ↔ ∀ x : Binary64, Inside (.float x) v → x.isNaN = false := by
  rw [equals_iff_agree, agree_self_iff, ne_eq, meaning?_eq_none_iff]
  simp only [not_exists, not_and, Bool.not_eq_true]

theorem equals_symm (v w : Value) : v.equals w = w.equals v := by
  rw [Bool.eq_iff_iff, equals_iff_agree, equals_iff_agree]
  exact ⟨Agree.symm, Agree.symm⟩

theorem equals_trans {u : Value} (first : u.equals v = true) (second : v.equals w = true) : u.equals w = true := by
  rw [equals_iff_agree] at first second ⊢
  exact first.trans second

theorem equalsAll_iff_forall₂ : equalsAll vs ws = true ↔ List.Forall₂ (fun v w => v.equals w = true) vs ws := by
  induction vs generalizing ws with
  | nil => cases ws <;> simp [equalsAll]
  | cons v vs ih => cases ws <;> simp [equalsAll, ih]

/-- Lists are equal if they are equally long and equal at every position. -/
theorem equals_list_iff : (Value.list vs).equals (.list ws) = true ↔
    vs.length = ws.length ∧ ∀ (i : Nat) (inside : i < vs.length) (within : i < ws.length),
      vs[i].equals ws[i] = true := by
  rw [equals, equalsAll_iff_forall₂, List.forall₂_iff_get]
  rfl

theorem equals_float_iff {x y : Binary64} : (Value.float x).equals (.float y) = true ↔
    ∃ number, x.number? = some number ∧ y.number? = some number := by
  rw [equals, Binary64.equals_iff]

theorem equals_function_iff {f g : FunctionRef} : (Value.function f).equals (.function g) = true ↔ f.id = g.id := by
  rw [equals, beq_iff_eq]

/-- Equality is a partial equivalence that tells kinds apart and misses only the values with NaN inside. Floats are
equal as numbers, lists item by item, and functions as what one step of a run has defined, under any names. -/
theorem equality_laws {σ : Type} :
    (∀ v w : Value, v.equals w = w.equals v) ∧
      (∀ u v w : Value, u.equals v = true → v.equals w = true → u.equals w = true) ∧
      (∀ v : Value, v.equals v = true ↔ ∀ x : Binary64, Inside (.float x) v → x.isNaN = false) ∧
      (∀ v w : Value, v.equals w = true → v.kind = w.kind) ∧
      (∀ x y : Binary64, (Value.float x).equals (.float y) = true ↔
        ∃ number, x.number? = some number ∧ y.number? = some number) ∧
      (∀ vs ws : List Value, (Value.list vs).equals (.list ws) = true ↔
        vs.length = ws.length ∧ ∀ (i : Nat) (inside : i < vs.length) (within : i < ws.length),
          vs[i].equals ws[i] = true) ∧
      (∀ f g : FunctionRef, (Value.function f).equals (.function g) = true ↔ f.id = g.id) ∧
      ∀ (m a b : Loop.Machine σ) (i j : Nat) (f g : Loop.FunctionId) (name other : String),
        Loop.Machine.after i m = some a → Loop.Machine.after j m = some b → a.defined? = some f → b.defined? = some g →
          ((Value.function ⟨f, name⟩).equals (.function ⟨g, other⟩) = true ↔ i = j) := by
  refine ⟨equals_symm, fun u v w => equals_trans, equals_self_iff, fun v w => kind_of_equals,
    fun x y => equals_float_iff, fun vs ws => equals_list_iff, fun f g => equals_function_iff, ?_⟩
  intro m a b i j f g name other first second defines again
  rw [equals_function_iff]
  exact Loop.Machine.defined_inj first second defines again

def boxed (zero : UInt64) (name : String) : Value := .list [.float ⟨zero⟩, .list [.function ⟨0, name⟩]]

def twice : Loop.Script Unit :=
  .run (.define (fun _ => .finish (.ok .undefined)) fun _ => .define (fun _ => .finish (.ok .undefined)) fun _ =>
    .finish (.ok .undefined)) .finish

/-- The zeros are equal and so are a function's copies, but not two functions of one name. -/
theorem equality_laws_boxed :
    (boxed 0 "a").equals (boxed 0x8000000000000000 "b") = true ∧
      (boxed 0x8000000000000000 "b").equals (boxed 0 "c") = true ∧
      (boxed 0 "a").equals (boxed 0 "c") = true ∧
      (Value.int 1).equals (.float (.ofInt 1)) ≠ true ∧
      Value.undefined.equals .null ≠ true ∧
      (Value.list [.null, .float ⟨0x7FF8000000000000⟩]).equals (.list [.null, .float ⟨0x7FF8000000000000⟩]) ≠ true ∧
      (Value.function ⟨0, "cb"⟩).equals (.function ⟨1, "cb"⟩) ≠ true := by
  obtain ⟨_, transitive, reflexive, kinds, _, _, _, defined⟩ := equality_laws (σ := Unit)
  have first : (boxed 0 "a").equals (boxed 0x8000000000000000 "b") = true := by decide
  have second : (boxed 0x8000000000000000 "b").equals (boxed 0 "c") = true := by decide
  refine ⟨first, second, transitive _ _ _ first second, fun equal => ?_, fun equal => ?_, fun equal => ?_, fun equal => ?_⟩
  · exact absurd (kinds _ _ equal) (by decide)
  · exact absurd (kinds _ _ equal) (by decide)
  · exact absurd ((reflexive _).mp equal _ (.item (List.mem_cons_of_mem _ List.mem_cons_self) (.self _))) (by decide)
  · have steps := defined (.start () twice) _ _ 1 2 0 1 "cb" "cb" rfl rfl rfl rfl
    exact absurd (steps.mp equal) (by decide)

end Value
end RuleHost
