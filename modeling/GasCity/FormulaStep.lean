import GasCity.RangeExpr

namespace GasCity

/-- A step of a formula, as far as conditions read it. -/
structure StepData where
  id : String
  condition : String := ""

inductive Step where
  | mk (data : StepData) (children : List Step)

inductive StepCondition where
  | always
  | truthy (name : List Char)
  | falsy (name : List Char)
  | equals (name : List Char) (value : List Char)
  | differs (name : List Char) (value : List Char)
  deriving DecidableEq

/-- The class `\s`. -/
def isPatternSpace (ch : Char) : Bool := ch.val ∈ [0x9, 0xa, 0xc, 0xd, 0x20]

def bracedName : List Char → Option (List Char × List Char)
  | '{' :: '{' :: rest =>
    match rest.takeWhile isWord, rest.dropWhile isWord with
    | first :: name, '}' :: '}' :: after => some (first :: name, after)
    | _, _ => none
  | _ => none

def unquoteValue (value : List Char) : List Char :=
  match value with
  | first :: rest =>
    if rest.getLast? = some first && (first = '"' || first = '\'') then rest.dropLast else value
  | [] => []

/-- The value of a comparison: `\s*(.+)$` of a text without blanks at its end. -/
def comparedValue (text : List Char) : Option (List Char) :=
  let value := text.dropWhile isPatternSpace
  if value.isEmpty || '\n' ∈ value then none else some (unquoteValue (trimChars value))

def parseStepCondition (condition : String) : Option StepCondition :=
  match trimChars condition.toList with
  | [] => some .always
  | '!' :: text =>
    match bracedName text with
    | some (name, []) => some (.falsy name)
    | _ => none
  | text =>
    match bracedName text with
    | some (name, []) => some (.truthy name)
    | some (name, after) =>
      match after.dropWhile isPatternSpace with
      | '=' :: '=' :: rest => (comparedValue rest).map (.equals name)
      | '!' :: '=' :: rest => (comparedValue rest).map (.differs name)
      | _ => none
    | none => none

def isTruthy (value : List Char) : Bool :=
  !(["", "false", "0", "no", "off"].contains (String.ofList value).toLower)

abbrev FormulaVars := List Char → Option (List Char)

namespace StepCondition

def holds (vars : FormulaVars) : StepCondition → Bool
  | always => true
  | truthy name => isTruthy ((vars name).getD [])
  | falsy name => !isTruthy ((vars name).getD [])
  | equals name value => (vars name).getD [] = value
  | differs name value => (vars name).getD [] ≠ value

def resolvable (vars : FormulaVars) : StepCondition → Bool
  | always => true
  | truthy name | falsy name | equals name _ | differs name _ => (vars name).isSome

end StepCondition

structure ConditionError where
  step : String
  condition : String

def StepData.parsed (d : StepData) : Except ConditionError StepCondition :=
  match parseStepCondition d.condition with
  | some condition => .ok condition
  | none => .error ⟨d.id, d.condition⟩

mutual

def filterStep (vars : FormulaVars) : Step → Except ConditionError (List Step)
  | .mk d children => do
    let condition ← d.parsed
    if condition.holds vars then return [.mk d (← filterSteps vars children)] else return []

def filterSteps (vars : FormulaVars) : List Step → Except ConditionError (List Step)
  | [] => .ok []
  | step :: rest => do return (← filterStep vars step) ++ (← filterSteps vars rest)

end

def filterStepsByCondition (steps : List Step) (vars : Option FormulaVars) :
    Except ConditionError (List Step) :=
  filterSteps (vars.getD fun _ => none) steps

mutual

def materializeStep (vars : FormulaVars) : Step → Except ConditionError (List Step)
  | .mk d children => do
    let condition ← d.parsed
    if condition.resolvable vars then
      if condition.holds vars then
        return [.mk { d with condition := "" } (← materializeSteps vars children)]
      else return []
    else return [.mk d (← materializeSteps vars children)]

def materializeSteps (vars : FormulaVars) : List Step → Except ConditionError (List Step)
  | [] => .ok []
  | step :: rest => do return (← materializeStep vars step) ++ (← materializeSteps vars rest)

end

def materializeExpandedStepConditions (steps : List Step) :
    Option FormulaVars → Except ConditionError (List Step)
  | none => .ok steps
  | some vars => materializeSteps vars steps

def mergeConditionVars : Option FormulaVars → Option FormulaVars → Option FormulaVars
  | none, none => none
  | base, overrides => some fun name => overrides.bind (· name) <|> base.bind (· name)

namespace Step

mutual

def Valid : Step → Prop
  | mk d children => (parseStepCondition d.condition).isSome = true ∧ ValidAll children

def ValidAll : List Step → Prop
  | [] => True
  | step :: rest => Valid step ∧ ValidAll rest

end

mutual

def bare : Step → Step
  | mk d children => mk { d with condition := "" } (bareAll children)

def bareAll : List Step → List Step
  | [] => []
  | step :: rest => bare step :: bareAll rest

end

theorem bareAll_append (xs ys : List Step) : bareAll (xs ++ ys) = bareAll xs ++ bareAll ys := by
  induction xs with
  | nil => rfl
  | cons x xs ih =>
    rw [List.cons_append, bareAll, bareAll, ih]
    rfl

end Step

section TwoPhases

open Step

theorem filterSteps_append {vars : FormulaVars} {xs ys as bs : List Step} (first : filterSteps vars xs = .ok as)
    (second : filterSteps vars ys = .ok bs) : filterSteps vars (xs ++ ys) = .ok (as ++ bs) := by
  induction xs generalizing as with
  | nil =>
    cases first
    exact second
  | cons x xs ih =>
    obtain ⟨head, here, first⟩ := bind_eq_ok first
    obtain ⟨tail, there, first⟩ := bind_eq_ok first
    cases first
    rw [List.append_assoc, List.cons_append, filterSteps, bind_of_ok here, bind_of_ok (ih there)]
    rfl

theorem filterSteps_singleton {vars : FormulaVars} {d : StepData} {condition : StepCondition}
    {children kept : List Step} (parsed : d.parsed = .ok condition)
    (inner : filterSteps vars children = .ok kept) :
    filterSteps vars [.mk d children] = .ok (if condition.holds vars then [.mk d kept] else []) := by
  rw [filterSteps, filterStep, bind_of_ok parsed]
  split
  next => rw [inner]; rfl
  next => rfl

theorem holds_of_unresolvable {merged parent : FormulaVars} {condition : StepCondition}
    (narrower : ∀ name, merged name = none → parent name = none)
    (open' : condition.resolvable merged = false) : condition.holds parent = condition.holds merged := by
  have unset {name : List Char} (none : (merged name).isSome = false) : parent name = merged name := by
    have none := Option.isSome_eq_false_iff.mp none
    rw [Option.isNone_iff_eq_none] at none
    rw [none, narrower name none]
  cases condition with
  | always => rfl
  | truthy | falsy | equals | differs => simp only [StepCondition.holds, unset open']

theorem parseStepCondition_empty : parseStepCondition "" = some .always := by
  decide +kernel

variable {merged parent : FormulaVars}

mutual

theorem materialize_filter_step (narrower : ∀ name, merged name = none → parent name = none) :
    ∀ step : Step, step.Valid → ∃ mid out out', materializeStep merged step = .ok mid ∧
      filterSteps parent mid = .ok out ∧ filterStep merged step = .ok out' ∧ bareAll out = bareAll out'
  | .mk d children, ⟨valid, inner⟩ => by
    obtain ⟨mid, out, out', first, second, once, same⟩ := materialize_filter_all narrower children inner
    obtain ⟨condition, is⟩ := Option.isSome_iff_exists.mp valid
    have parsed : d.parsed = .ok condition := by rw [StepData.parsed, is]
    have single : filterStep merged (.mk d children) =
        .ok (if condition.holds merged then [.mk d out'] else []) := by
      rw [filterStep, bind_of_ok parsed]
      split
      next => rw [once]; rfl
      next => rfl
    have stripped : ({ d with condition := "" } : StepData).parsed = .ok .always := by
      simp only [StepData.parsed, parseStepCondition_empty]
    rw [materializeStep, bind_of_ok parsed]
    by_cases resolvable : condition.resolvable merged = true
    · rw [if_pos resolvable]
      by_cases holds : condition.holds merged = true
      · rw [if_pos holds, bind_of_ok first]
        rw [if_pos holds] at single
        refine ⟨_, _, _, rfl, filterSteps_singleton stripped second, single, ?_⟩
        show [Step.mk _ (bareAll out)] = [Step.mk _ (bareAll out')]
        rw [same]
      · rw [if_neg holds]
        rw [if_neg holds] at single
        exact ⟨_, _, _, rfl, rfl, single, rfl⟩
    · rw [if_neg resolvable, bind_of_ok first]
      refine ⟨_, _, _, rfl, filterSteps_singleton parsed second, single, ?_⟩
      rw [holds_of_unresolvable narrower (Bool.eq_false_iff.mpr resolvable)]
      split
      next =>
        show [Step.mk _ (bareAll out)] = [Step.mk _ (bareAll out')]
        rw [same]
      next => rfl

theorem materialize_filter_all (narrower : ∀ name, merged name = none → parent name = none) :
    ∀ steps : List Step, ValidAll steps → ∃ mid out out', materializeSteps merged steps = .ok mid ∧
      filterSteps parent mid = .ok out ∧ filterSteps merged steps = .ok out' ∧ bareAll out = bareAll out'
  | [], _ => ⟨[], [], [], rfl, rfl, rfl, rfl⟩
  | step :: rest, ⟨valid, others⟩ => by
    obtain ⟨mid, out, out', first, second, once, same⟩ := materialize_filter_step narrower step valid
    obtain ⟨mids, outs, outs', firsts, seconds, onces, sames⟩ := materialize_filter_all narrower rest others
    refine ⟨mid ++ mids, out ++ outs, out' ++ outs', ?_, filterSteps_append second seconds, ?_, ?_⟩
    · rw [materializeSteps, bind_of_ok first, bind_of_ok firsts]
      rfl
    · rw [filterSteps, bind_of_ok once, bind_of_ok onces]
      rfl
    · rw [bareAll_append, bareAll_append, same, sames]

end

/-- To resolve what the merged variables can resolve and then filter by those of the parent is to filter
by the merged variables. -/
theorem filter_materialized (steps : List Step) (valid : ValidAll steps) (parent overrides : Option FormulaVars) :
    ((materializeExpandedStepConditions steps (mergeConditionVars parent overrides) >>= fun resolved =>
        filterStepsByCondition resolved parent).map bareAll) =
      (filterStepsByCondition steps (mergeConditionVars parent overrides)).map bareAll := by
  have phases (merged : FormulaVars)
      (narrower : ∀ name, merged name = none → (parent.getD fun _ => none) name = none) :
      ((materializeSteps merged steps >>= fun resolved =>
        filterStepsByCondition resolved parent).map bareAll) = (filterSteps merged steps).map bareAll := by
    obtain ⟨mid, out, out', first, second, once, same⟩ := materialize_filter_all narrower steps valid
    rw [bind_of_ok first, filterStepsByCondition, second, once]
    exact congrArg Except.ok same
  cases parent with
  | none =>
    cases overrides with
    | none => rfl
    | some own => exact phases _ fun _ _ => rfl
  | some base =>
    refine phases _ fun name none => ?_
    cases overrides with
    | none => exact none
    | some own =>
      have none : (own name <|> base name) = Option.none := none
      cases mine : own name with
      | none => simpa [mine] using none
      | some value => simp [mine] at none

def flagged : List Step :=
  [.mk { id := "a", condition := "\x7b\x7bx\x7d\x7d" }
    [.mk { id := "b", condition := "!\x7b\x7by\x7d\x7d" } []]]

theorem filter_materialized_flagged : ValidAll flagged ∧
    ((materializeExpandedStepConditions flagged (mergeConditionVars none (some fun _ => some ['1'])) >>=
      fun resolved => filterStepsByCondition resolved none).map bareAll) =
      (filterStepsByCondition flagged (mergeConditionVars none (some fun _ => some ['1']))).map bareAll := by
  have valid : ValidAll flagged := by
    refine ⟨⟨?_, ⟨?_, trivial⟩, trivial⟩, trivial⟩ <;> decide +kernel
  exact ⟨valid, filter_materialized flagged valid _ _⟩

end TwoPhases

end GasCity
