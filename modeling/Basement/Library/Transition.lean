import Mathlib.Data.List.Basic

namespace Basement
namespace Library

/-!
# Runs of a partial transition function

A system is given by one function `step : State -> Action -> Option State`.
The value `none` says that the action is not enabled in the state.  Nothing is
assumed about the state or the action type, and the environment's choices are
ordinary arguments of the actions, so that a list of actions determines a run.

Safety over runs is obtained from two rules.  `exec_invariant` carries an
invariant along every run.  `exec_invariant_of_meets` does so for the runs in
which each step satisfies a condition on the state before it and on the action,
which is how a result is stated whose code is right under a condition only.
`throughout_iff_meets` says when such a condition is exact.
-/

namespace Transition

variable {State Action : Type*} (step : State -> Action -> Option State)

/-- Execute the actions from left to right, stopping at a disabled one. -/
def exec : State -> List Action -> Option State
  | state, [] => some state
  | state, action :: rest =>
      match step state action with
      | some next => exec next rest
      | none => none

/-- Every step the run takes satisfies the condition where it is taken. -/
def Meets (condition : State -> Action -> Prop) : State -> List Action -> Prop
  | _, [] => True
  | state, action :: rest =>
      condition state action ∧
        forall next, step state action = some next -> Meets condition next rest

variable {step}

@[simp] theorem exec_nil (state : State) : exec step state [] = some state := rfl

theorem exec_cons_eq (state : State) (action : Action) (rest : List Action) :
    exec step state (action :: rest) =
      (step state action).bind fun next => exec step next rest := by
  change (match step state action with
    | some next => exec step next rest
    | none => none) = _
  cases step state action with
  | none => rfl
  | some next => rfl

/-- A run that starts with an action splits at the state after it. -/
theorem exec_cons {state final : State} {action : Action} {rest : List Action} :
    exec step state (action :: rest) = some final ↔
      Exists fun next => step state action = some next ∧ exec step next rest = some final := by
  rw [exec_cons_eq, Option.bind_eq_some_iff]

theorem exec_single (state : State) (action : Action) :
    exec step state [action] = step state action := by
  rw [exec_cons_eq]
  exact Option.bind_fun_some (step state action)

theorem exec_append {final : State} (first second : List Action) :
    forall {state : State}, exec step state (first ++ second) = some final ↔
      Exists fun middle =>
        exec step state first = some middle ∧ exec step middle second = some final := by
  induction first with
  | nil => intro state; simp
  | cons action rest ih =>
      intro state
      rw [List.cons_append, exec_cons]
      constructor
      · rintro ⟨next, taken, run⟩
        rcases ih.mp run with ⟨middle, before, after⟩
        exact ⟨middle, exec_cons.mpr ⟨next, taken, before⟩, after⟩
      · rintro ⟨middle, before, after⟩
        rcases exec_cons.mp before with ⟨next, taken, run⟩
        exact ⟨next, taken, ih.mpr ⟨middle, run, after⟩⟩

theorem meets_cons {condition : State -> Action -> Prop} {state next : State} {action : Action}
    {rest : List Action} (meets : Meets step condition state (action :: rest))
    (taken : step state action = some next) :
    condition state action ∧ Meets step condition next rest :=
  ⟨meets.1, meets.2 next taken⟩

/-- Build the conditions of a run from its first step. -/
theorem meets_of_step {condition : State -> Action -> Prop} {state next : State} {action : Action}
    {rest : List Action} (holds : condition state action) (taken : step state action = some next)
    (meets : Meets step condition next rest) : Meets step condition state (action :: rest) := by
  refine ⟨holds, ?_⟩
  intro other same
  cases Option.some.inj (taken.symm.trans same)
  exact meets

/-- The conditions along a run are the conditions along its two parts. -/
theorem meets_append {condition : State -> Action -> Prop} {middle : State}
    (first second : List Action) :
    forall {state : State}, Meets step condition state (first ++ second) ->
      exec step state first = some middle ->
        Meets step condition state first ∧ Meets step condition middle second := by
  induction first with
  | nil =>
      intro state meets run
      cases Option.some.inj run
      exact ⟨trivial, meets⟩
  | cons action rest ih =>
      intro state meets run
      rcases exec_cons.mp run with ⟨next, taken, tail⟩
      have parts := ih (meets_cons meets taken).2 tail
      exact ⟨meets_of_step meets.1 taken parts.1, parts.2⟩

/-- The invariant rule for runs whose steps all satisfy a condition. -/
theorem exec_invariant_of_meets {condition : State -> Action -> Prop} {invariant : State -> Prop}
    (preserved : forall state action next, invariant state -> condition state action ->
      step state action = some next -> invariant next) :
    forall {actions : List Action} {state final : State}, invariant state ->
      Meets step condition state actions -> exec step state actions = some final ->
        invariant final := by
  intro actions
  induction actions with
  | nil =>
      intro state final initially _ run
      cases Option.some.inj run
      exact initially
  | cons action rest ih =>
      intro state final initially meets run
      rcases exec_cons.mp run with ⟨next, taken, tail⟩
      have both := meets_cons meets taken
      exact ih (preserved state action next initially both.1 taken) both.2 tail

/-- Every run meets a condition that always holds. -/
theorem meets_of_forall {condition : State -> Action -> Prop}
    (holds : forall state action, condition state action) (actions : List Action) :
    forall state : State, Meets step condition state actions := by
  induction actions with
  | nil => intro _; trivial
  | cons action rest ih => intro state; exact ⟨holds state action, fun next _ => ih next⟩

theorem meets_true (actions : List Action) (state : State) :
    Meets step (fun _ _ => True) state actions :=
  meets_of_forall (fun _ _ => trivial) actions state

/-- The invariant rule for all runs. -/
theorem exec_invariant {invariant : State -> Prop}
    (preserved : forall state action next, invariant state ->
      step state action = some next -> invariant next)
    {actions : List Action} {state final : State} (initially : invariant state)
    (run : exec step state actions = some final) : invariant final :=
  exec_invariant_of_meets
    (fun before action after held _ taken => preserved before action after held taken)
    initially (meets_true actions state) run

/-- The invariant rule for a property of the past actions and the state. -/
theorem exec_history {invariant : List Action -> State -> Prop}
    (preserved : forall past state action next, invariant past state ->
      step state action = some next -> invariant (past ++ [action]) next) :
    forall {actions past : List Action} {state final : State}, invariant past state ->
      exec step state actions = some final -> invariant (past ++ actions) final := by
  intro actions
  induction actions with
  | nil =>
      intro past state final initially run
      cases Option.some.inj run
      rw [List.append_nil]
      exact initially
  | cons action rest ih =>
      intro past state final initially run
      rcases exec_cons.mp run with ⟨next, taken, tail⟩
      have later := ih (preserved past state action next initially taken) tail
      rw [List.append_assoc] at later
      exact later

theorem meets_cons_none {condition : State -> Action -> Prop} {state : State} {action : Action}
    {rest : List Action} (refused : step state action = none) :
    Meets step condition state (action :: rest) ↔ condition state action := by
  constructor
  · exact fun meets => meets.1
  · intro holds
    refine ⟨holds, ?_⟩
    intro next taken
    rw [refused] at taken
    cases taken

theorem meets_cons_some {condition : State -> Action -> Prop} {state next : State} {action : Action}
    {rest : List Action} (taken : step state action = some next) :
    Meets step condition state (action :: rest) ↔
      condition state action ∧ Meets step condition next rest :=
  ⟨fun meets => meets_cons meets taken, fun both => meets_of_step both.1 taken both.2⟩

/-- Whether a run meets a condition can be computed if this can be done at each step. -/
instance decidableMeets {condition : State -> Action -> Prop}
    [each : forall state action, Decidable (condition state action)] :
    forall (state : State) (actions : List Action), Decidable (Meets step condition state actions)
  | _, [] => .isTrue trivial
  | state, action :: rest =>
      match taken : step state action with
      | none => decidable_of_iff _ (meets_cons_none taken).symm
      | some next =>
          have : Decidable (Meets step condition next rest) := decidableMeets next rest
          decidable_of_iff _ (meets_cons_some taken).symm

/-- A condition that follows from an invariant holds along every run. -/
theorem meets_of_invariant {condition : State -> Action -> Prop} {invariant : State -> Prop}
    (preserved : forall state action next, invariant state ->
      step state action = some next -> invariant next) :
    forall {actions : List Action} {state : State}, invariant state ->
      (forall state action, invariant state -> action ∈ actions -> condition state action) ->
        Meets step condition state actions := by
  intro actions
  induction actions with
  | nil => intros; trivial
  | cons action rest ih =>
      intro state held holds
      refine ⟨holds state action held List.mem_cons_self, ?_⟩
      intro next taken
      exact ih (preserved state action next held taken) fun later other kept member =>
        holds later other kept (List.mem_cons_of_mem _ member)

/-- The invariant rule for runs of allowed actions. -/
theorem exec_invariant_of_allowed {allowed : Action -> Prop} {invariant : State -> Prop}
    (preserved : forall state action next, invariant state -> allowed action ->
      step state action = some next -> invariant next)
    {actions : List Action} {state final : State} (initially : invariant state)
    (all : forall action, action ∈ actions -> allowed action)
    (run : exec step state actions = some final) : invariant final := by
  have meets : Meets step (fun _ action => allowed action) state actions := by
    refine @meets_of_invariant _ _ step _ (fun _ => True) ?_ _ _ trivial ?_
    · intros
      trivial
    · intro _ action _ member
      exact all action member
  exact exec_invariant_of_meets preserved initially meets run

/-- Conditions that agree under an invariant agree along every run.  The invariant need only last
while they hold. -/
theorem meets_congr {first second : State -> Action -> Prop} {invariant : State -> Prop}
    (preserved : forall state action next, invariant state -> second state action ->
      step state action = some next -> invariant next)
    (agree : forall state action, invariant state -> (first state action ↔ second state action)) :
    forall {actions : List Action} {state : State}, invariant state ->
      (Meets step first state actions ↔ Meets step second state actions) := by
  intro actions
  induction actions with
  | nil => intros; exact Iff.rfl
  | cons action rest ih =>
      intro state held
      have same := agree state action held
      constructor
      · rintro ⟨here, tail⟩
        have there := same.mp here
        exact ⟨there, fun next taken =>
          (ih (preserved state action next held there taken)).mp (tail next taken)⟩
      · rintro ⟨there, tail⟩
        exact ⟨same.mpr there, fun next taken =>
          (ih (preserved state action next held there taken)).mpr (tail next taken)⟩

/-- Two conditions along a run are one. -/
theorem meets_both {first second : State -> Action -> Prop} :
    forall {actions : List Action} {state : State}, Meets step first state actions ->
      Meets step second state actions ->
        Meets step (fun state action => first state action ∧ second state action) state actions := by
  intro actions
  induction actions with
  | nil => intros; trivial
  | cons action rest ih =>
      intro state one other
      exact ⟨⟨one.1, other.1⟩, fun next taken => ih (one.2 next taken) (other.2 next taken)⟩

/-- A condition on the actions alone joins the condition along a run. -/
theorem meets_and {condition : State -> Action -> Prop} {allowed : Action -> Prop} :
    forall {actions : List Action} {state : State}, Meets step condition state actions ->
      (forall action, action ∈ actions -> allowed action) ->
        Meets step (fun state action => condition state action ∧ allowed action) state actions := by
  intro actions
  induction actions with
  | nil => intros; trivial
  | cons action rest ih =>
      intro state meets all
      refine ⟨⟨meets.1, all action List.mem_cons_self⟩, ?_⟩
      intro next taken
      exact ih (meets.2 next taken) fun other member => all other (List.mem_cons_of_mem _ member)

/-! ## Exact conditions -/

/-- The property holds in every state that a run goes through. -/
def Throughout (step : State -> Action -> Option State) (property : State -> Prop)
    (state : State) (actions : List Action) : Prop :=
  forall first second middle, actions = first ++ second ->
    exec step state first = some middle -> property middle

theorem throughout_cons {property : State -> Prop} {state next : State} {action : Action}
    {rest : List Action} (taken : step state action = some next) :
    Throughout step property state (action :: rest) ↔
      property state ∧ Throughout step property next rest := by
  constructor
  · intro all
    refine ⟨all [] (action :: rest) state rfl rfl, ?_⟩
    intro first second middle split run
    exact all (action :: first) second middle (congrArg (action :: ·) split)
      (exec_cons.mpr ⟨next, taken, run⟩)
  · rintro ⟨now, later⟩ first second middle split run
    cases first with
    | nil =>
        cases Option.some.inj run
        exact now
    | cons other first =>
        rcases List.cons.inj split with ⟨rfl, splitRest⟩
        rcases exec_cons.mp run with ⟨same, again, tail⟩
        cases Option.some.inj (taken.symm.trans again)
        exact later first second middle splitRest tail

theorem Throughout.imp {property weaker : State -> Prop} {state : State} {actions : List Action}
    (throughout : Throughout step property state actions)
    (implies : forall state, property state -> weaker state) :
    Throughout step weaker state actions :=
  fun first second middle split run => implies middle (throughout first second middle split run)

/-- An invariant that lasts while a condition is met holds throughout a run that meets it. -/
theorem throughout_of_meets {condition : State -> Action -> Prop} {invariant : State -> Prop}
    (preserved : forall state action next, invariant state -> condition state action ->
      step state action = some next -> invariant next)
    {state : State} {actions : List Action} (initially : invariant state)
    (meets : Meets step condition state actions) : Throughout step invariant state actions := by
  intro first second middle split run
  rw [split] at meets
  exact exec_invariant_of_meets preserved initially (meets_append first second meets run).1 run

/-- If each step keeps a property exactly under a condition, the property holds throughout a
run exactly if all steps meet the condition. -/
theorem throughout_iff_meets {condition : State -> Action -> Prop}
    {invariant property : State -> Prop}
    (preserved : forall state action next, invariant state -> step state action = some next ->
      invariant next)
    (exactly : forall state action next, invariant state -> property state ->
      step state action = some next -> (property next ↔ condition state action)) :
    forall {actions : List Action} {state final : State}, invariant state -> property state ->
      exec step state actions = some final ->
        (Throughout step property state actions ↔ Meets step condition state actions) := by
  intro actions
  induction actions with
  | nil =>
      intro state final _ now _
      refine ⟨fun _ => trivial, ?_⟩
      intro _ first second middle split run
      rcases List.append_eq_nil_iff.mp split.symm with ⟨rfl, _⟩
      cases Option.some.inj run
      exact now
  | cons action rest ih =>
      intro state final held now run
      rcases exec_cons.mp run with ⟨next, taken, tail⟩
      rw [throughout_cons taken, meets_cons_some taken]
      have same := exactly state action next held now taken
      constructor
      · rintro ⟨_, later⟩
        have after : property next := later [] rest next rfl rfl
        exact ⟨same.mp after, (ih (preserved _ _ _ held taken) after tail).mp later⟩
      · rintro ⟨holds, meets⟩
        have after : property next := same.mpr holds
        exact ⟨now, (ih (preserved _ _ _ held taken) after tail).mpr meets⟩

/-- The case without an invariant. -/
theorem throughout_iff_meets_of_step {condition : State -> Action -> Prop}
    {property : State -> Prop}
    (exactly : forall state action next, property state -> step state action = some next ->
      (property next ↔ condition state action))
    {actions : List Action} {state final : State} (initially : property state)
    (run : exec step state actions = some final) :
    Throughout step property state actions ↔ Meets step condition state actions :=
  @throughout_iff_meets _ _ step _ (fun _ => True) _ (fun _ _ _ _ _ => trivial)
    (fun state action next _ now taken => exactly state action next now taken) _ _ _ trivial
    initially run

/-! ## Reachability -/

/-- Some run leads from one state to the other. -/
def Reaches (step : State -> Action -> Option State) (state final : State) : Prop :=
  Exists fun actions => exec step state actions = some final

theorem Reaches.refl (state : State) : Reaches step state state := ⟨[], rfl⟩

theorem Reaches.of_step {state next : State} (action : Action)
    (taken : step state action = some next) : Reaches step state next :=
  ⟨[action], exec_cons.mpr ⟨next, taken, rfl⟩⟩

theorem Reaches.trans {state middle final : State} (before : Reaches step state middle)
    (after : Reaches step middle final) : Reaches step state final := by
  rcases before with ⟨first, firstRun⟩
  rcases after with ⟨second, secondRun⟩
  exact ⟨first ++ second, (exec_append first second).mpr ⟨middle, firstRun, secondRun⟩⟩

/-! ## Views -/

/-- A run as a view shows it: each of its actions is an action of the viewed system, or
nothing. -/
def seen {Own : Type*} (step : State -> Action -> Option State)
    (own : State -> Action -> Option Own) : State -> List Action -> List Own
  | _, [] => []
  | state, action :: rest =>
      match step state action with
      | some next => (own state action).toList ++ seen step own next rest
      | none => []

/-- If every step shows as a step of the viewed system or as nothing, so does every run. -/
theorem exec_seen {View Own : Type*} {viewStep : View -> Own -> Option View}
    {view : State -> View} {own : State -> Action -> Option Own}
    {condition : State -> Action -> Prop} {invariant : State -> Prop}
    (preserved : forall state action next, invariant state -> condition state action ->
      step state action = some next ->
        invariant next ∧ exec viewStep (view state) (own state action).toList = some (view next)) :
    forall {actions : List Action} {state final : State}, invariant state ->
      Meets step condition state actions -> exec step state actions = some final ->
        exec viewStep (view state) (seen step own state actions) = some (view final) := by
  intro actions
  induction actions with
  | nil =>
      intro state final _ _ run
      cases Option.some.inj run
      rfl
  | cons action rest ih =>
      intro state final initially meets run
      rcases exec_cons.mp run with ⟨next, taken, tail⟩
      have both := meets_cons meets taken
      have step := preserved state action next initially both.1 taken
      simp only [seen, taken]
      exact (exec_append _ _).mpr ⟨view next, step.2, ih step.1 both.2 tail⟩

end Transition

end Library
end Basement
