/-
Processes: programs on a state that may raise, and that may die at any effect.

A postcondition says what holds after a return, after a raise and after a crash;
its rules follow the program's structure.
-/

set_option autoImplicit false

namespace TurtleExecution

inductive Outcome (Error Value : Type)
  | returned (value : Value)
  | raised (error : Error)
  | crashed

def Outcome.raises {Error Value : Type} : Outcome Error Value → Bool
  | .raised _ => true
  | _ => false

variable {Error Value : Type} {outcome : Outcome Error Value}

theorem Outcome.raises_iff : outcome.raises = true ↔ ∃ error, outcome = .raised error := by
  cases outcome <;> simp [raises]

def Outcome.returns {Error Value : Type} : Outcome Error Value → Bool
  | .returned _ => true
  | _ => false

theorem Outcome.returns_iff : outcome.returns = true ↔ ∃ value, outcome = .returned value := by
  cases outcome <;> simp [returns]

def Outcome.value? {Error Value : Type} : Outcome Error Value → Option Value
  | .returned value => some value
  | _ => none

theorem Outcome.value?_eq_some_iff {value : Value} :
    outcome.value? = some value ↔ outcome = .returned value := by
  cases outcome <;> simp [value?]

def Process (State Error Value : Type) : Type :=
  State → Outcome Error Value × State

namespace Process

section

variable {State Error Value Next : Type}

def bind (process : Process State Error Value) (next : Value → Process State Error Next) :
    Process State Error Next := fun state =>
  match process state with
  | (.returned value, after) => next value after
  | (.raised error, after) => (.raised error, after)
  | (.crashed, after) => (.crashed, after)

instance : Monad (Process State Error) where
  pure value := fun state => (.returned value, state)
  bind := bind

def raise (error : Error) : Process State Error Value := fun state => (.raised error, state)

def crash : Process State Error Value := fun state => (.crashed, state)

def get : Process State Error State := fun state => (.returned state, state)

def modify (change : State → State) : Process State Error Unit := fun state =>
  (.returned (), change state)

def ofExcept (result : Except Error Value) : Process State Error Value :=
  match result with
  | .ok value => pure value
  | .error error => raise error

def tryCatch (body : Process State Error Value) (handler : Error → Process State Error Value) :
    Process State Error Value := fun state =>
  match body state with
  | (.returned value, after) => (.returned value, after)
  | (.raised error, after) => handler error after
  | (.crashed, after) => (.crashed, after)

/-- `try: value = body except Exception as error: ...`: what comes of the body. -/
def attempt {Other : Type} (body : Process State Error Value) :
    Process State Other (Except Error Value) := fun state =>
  match body state with
  | (.returned value, after) => (.returned (.ok value), after)
  | (.raised error, after) => (.returned (.error error), after)
  | (.crashed, after) => (.crashed, after)

/-- `try: body finally: cleanup`; an error of the cleanup replaces what the body did. -/
def tryFinally (body : Process State Error Value) (cleanup : Process State Error Unit) :
    Process State Error Value := fun state =>
  match body state with
  | (.crashed, after) => (.crashed, after)
  | (outcome, after) =>
      match cleanup after with
      | (.returned (), final) => (outcome, final)
      | (.raised error, final) => (.raised error, final)
      | (.crashed, final) => (.crashed, final)

structure Post (State Error Value : Type) where
  returned : Value → State → Prop
  raised : Error → State → Prop
  crashed : State → Prop

def Post.Holds (post : Post State Error Value) : Outcome Error Value × State → Prop
  | (.returned value, state) => post.returned value state
  | (.raised error, state) => post.raised error state
  | (.crashed, state) => post.crashed state

def Ends (process : Process State Error Value) (state : State) (post : Post State Error Value) :
    Prop :=
  post.Holds (process state)

variable {process : Process State Error Value} {next : Value → Process State Error Next}
  {state after : State} {value : Value} {error : Error}

theorem ends_pure {post : Post State Error Value} (returned : post.returned value state) :
    Ends (pure value) state post := returned

theorem ends_raise {post : Post State Error Value} (raised : post.raised error state) :
    Ends (raise error) state post := raised

variable {post : Post State Error Next}

theorem ends_bind (between : Value → State → Prop)
    (first : Ends process state
      { returned := between, raised := post.raised, crashed := post.crashed })
    (second : ∀ value after, between value after → Ends (next value) after post) :
    Ends (process >>= next) state post := by
  change post.Holds (bind process next state)
  unfold Ends at first
  unfold bind
  rcases ran : process state with ⟨outcome, after⟩
  rw [ran] at first
  cases outcome with
  | returned value => exact second value after first
  | raised error => exact first
  | crashed => exact first

theorem ends_bind_of_returned (ran : process state = (.returned value, after))
    (rest : Ends (next value) after post) : Ends (process >>= next) state post := by
  change post.Holds (bind process next state)
  unfold bind
  rw [ran]
  exact rest

theorem ends_bind_get {next : State → Process State Error Next}
    (rest : Ends (next state) state post) : Ends (get >>= next) state post := rest

theorem ends_bind_ofExcept {result : Except Error Value}
    (refused : ∀ error, post.raised error state)
    (rest : ∀ value, result = .ok value → Ends (next value) state post) :
    Ends (ofExcept result >>= next) state post := by
  cases result with
  | error error => exact refused error
  | ok value => exact rest value rfl

theorem ends_bind_modify {change : State → State} {next : Unit → Process State Error Next}
    (rest : Ends (next ()) (change state) post) : Ends (modify change >>= next) state post := rest

theorem bind_returned (ran : process state = (.returned value, after)) :
    (process >>= next) state = next value after := by
  change bind process next state = _
  unfold bind
  rw [ran]

variable {body : Process State Error Value} {View : Type} {view : State → View} {Other : Type}

theorem attempt_returned (ran : body state = (.returned value, after)) :
    (attempt body : Process State Other _) state = (.returned (.ok value), after) := by
  unfold attempt
  rw [ran]

theorem attempt_raised (ran : body state = (.raised error, after)) :
    (attempt body : Process State Other _) state = (.returned (.error error), after) := by
  unfold attempt
  rw [ran]

theorem attempt_crashed (ran : body state = (.crashed, after)) :
    (attempt body : Process State Other _) state = (.crashed, after) := by
  unfold attempt
  rw [ran]

theorem bind_raised (ran : process state = (.raised error, after)) :
    (process >>= next) state = (.raised error, after) := by
  change bind process next state = _
  unfold bind
  rw [ran]

theorem bind_crashed (ran : process state = (.crashed, after)) :
    (process >>= next) state = (.crashed, after) := by
  change bind process next state = _
  unfold bind
  rw [ran]

def Reads (process : Process State Error Value) : Prop :=
  ∀ state, (∃ value, process state = (.returned value, state)) ∨
    ∃ error, process state = (.raised error, state)

theorem reads_ofExcept (result : Except Error Value) :
    Reads (ofExcept result : Process State Error Value) := by
  intro state
  cases result with
  | ok value => exact Or.inl ⟨value, rfl⟩
  | error error => exact Or.inr ⟨error, rfl⟩

theorem ends_bind_reads {post : Post State Error Next} (reads : Reads process)
    (raised : ∀ error, post.raised error state)
    (rest : ∀ value, process state = (.returned value, state) → Ends (next value) state post) :
    Ends (process >>= next) state post := by
  rcases reads state with ⟨value, ran⟩ | ⟨error, ran⟩
  · exact ends_bind_of_returned ran (rest value ran)
  · refine ends_bind (fun _ _ => False) ?_ (fun _ _ impossible => impossible.elim)
    unfold Ends
    rw [ran]
    exact raised error

variable {cleanup : Process State Error Unit} {post : Post State Error Value}

theorem ends_tryCatch {handler : Error → Process State Error Value} (caught : Error → State → Prop)
    (first : Ends body state
      { returned := post.returned, raised := caught, crashed := post.crashed })
    (second : ∀ error after, caught error after → Ends (handler error) after post) :
    Ends (tryCatch body handler) state post := by
  unfold Ends tryCatch
  unfold Ends at first
  rcases ran : body state with ⟨outcome, after⟩
  rw [ran] at first
  cases outcome with
  | returned value => exact first
  | raised error => exact second error after first
  | crashed => exact first

theorem tryFinally_returned {state after final : State}
    (ran : body state = (.returned value, after)) (cleaned : cleanup after = (.returned (), final)) :
    tryFinally body cleanup state = (.returned value, final) := by
  unfold tryFinally
  rw [ran]
  dsimp only
  rw [cleaned]

theorem ends_tryFinally (returned : Value → State → Prop) (raised : Error → State → Prop)
    (first : Ends body state { returned := returned, raised := raised, crashed := post.crashed })
    (afterReturn : ∀ value after, returned value after → Ends cleanup after
      { returned := fun _ => post.returned value, raised := post.raised, crashed := post.crashed })
    (afterRaise : ∀ error after, raised error after → Ends cleanup after
      { returned := fun _ => post.raised error, raised := post.raised, crashed := post.crashed }) :
    Ends (tryFinally body cleanup) state post := by
  unfold Ends tryFinally
  unfold Ends at first afterReturn afterRaise
  rcases ran : body state with ⟨outcome, after⟩
  rw [ran] at first
  cases outcome with
  | returned value =>
      have cleaned := afterReturn value after first
      rcases ranCleanup : cleanup after with ⟨outcome, final⟩
      rw [ranCleanup] at cleaned
      simp only [ranCleanup]
      cases outcome <;> exact cleaned
  | raised error =>
      have cleaned := afterRaise error after first
      rcases ranCleanup : cleanup after with ⟨outcome, final⟩
      rw [ranCleanup] at cleaned
      simp only [ranCleanup]
      cases outcome <;> exact cleaned
  | crashed => exact first

theorem Ends.mono {post weaker : Post State Error Value} (ends : Ends process state post)
    (returned : ∀ value after, post.returned value after → weaker.returned value after)
    (raised : ∀ error after, post.raised error after → weaker.raised error after)
    (crashed : ∀ after, post.crashed after → weaker.crashed after) : Ends process state weaker := by
  unfold Ends at ends ⊢
  rcases ran : process state with ⟨outcome, after⟩
  rw [ran] at ends
  cases outcome with
  | returned value => exact returned value after ends
  | raised error => exact raised error after ends
  | crashed => exact crashed after ends

def Post.always (holds : State → Prop) : Post State Error Value :=
  { returned := fun _ => holds, raised := fun _ => holds, crashed := holds }

theorem ends_always_iff {process : Process State Error Value} {state : State}
    {holds : State → Prop} : Ends process state (.always holds) ↔ holds (process state).2 := by
  unfold Ends
  rcases process state with ⟨outcome, after⟩
  cases outcome <;> exact Iff.rfl

theorem ends_always_returning {holds : State → Prop} (always : holds (process state).2) :
    Ends process state
      { returned := fun value after => process state = (.returned value, after) ∧ holds after
        raised := fun _ => holds
        crashed := holds } := by
  unfold Ends
  rcases ran : process state with ⟨outcome, after⟩
  rw [ran] at always
  cases outcome with
  | returned value => exact ⟨rfl, always⟩
  | raised error => exact always
  | crashed => exact always

/-- However the process ends, what the view shows of the state is as before. -/
def Preserves {View : Type} (view : State → View) (process : Process State Error Value) : Prop :=
  ∀ state, view (process state).2 = view state

theorem preserves_pure (view : State → View) (value : Value) :
    Preserves view (pure value : Process State Error Value) :=
  fun _ => rfl

theorem preserves_raise (view : State → View) (error : Error) :
    Preserves view (raise error : Process State Error Value) :=
  fun _ => rfl

theorem preserves_get (view : State → View) : Preserves view (get : Process State Error State) :=
  fun _ => rfl

theorem preserves_modify {change : State → State} (kept : ∀ state, view (change state) = view state) :
    Preserves view (modify change : Process State Error Unit) :=
  kept

theorem preserves_ofExcept (view : State → View) (result : Except Error Value) :
    Preserves view (ofExcept result : Process State Error Value) := by
  cases result with
  | ok value => exact preserves_pure view value
  | error error => exact preserves_raise view error

theorem preserves_bind (first : Preserves view process)
    (second : ∀ value, Preserves view (next value)) : Preserves view (process >>= next) := by
  intro state
  change view (bind process next state).2 = view state
  have kept := first state
  unfold bind
  rcases ran : process state with ⟨outcome, after⟩
  rw [ran] at kept
  cases outcome with
  | returned value => exact (second value after).trans kept
  | raised error => exact kept
  | crashed => exact kept

theorem ends_of_view {shown : View} (same : view (process state).2 = shown) :
    Ends process state
      { returned := fun _ after => view after = shown
        raised := fun _ after => view after = shown
        crashed := fun after => view after = shown } := by
  unfold Ends
  rcases ran : process state with ⟨outcome, after⟩
  rw [ran] at same
  cases outcome with
  | returned value => exact same
  | raised error => exact same
  | crashed => exact same

theorem Ends.and {post other : Post State Error Value} (ends : Ends process state post)
    (also : Ends process state other) :
    Ends process state
      { returned := fun value after => post.returned value after ∧ other.returned value after
        raised := fun error after => post.raised error after ∧ other.raised error after
        crashed := fun after => post.crashed after ∧ other.crashed after } := by
  unfold Ends at ends also ⊢
  rcases ran : process state with ⟨outcome, after⟩
  rw [ran] at ends also
  cases outcome with
  | returned value => exact ⟨ends, also⟩
  | raised error => exact ⟨ends, also⟩
  | crashed => exact ⟨ends, also⟩

def Keeps (kept : State → Prop) (process : Process State Error Value) : Prop :=
  ∀ state, kept state → kept (process state).2

theorem keeps_pure (kept : State → Prop) (value : Value) :
    Keeps kept (pure value : Process State Error Value) :=
  fun _ holds => holds

theorem keeps_raise (kept : State → Prop) (error : Error) :
    Keeps kept (raise error : Process State Error Value) :=
  fun _ holds => holds

theorem keeps_get (kept : State → Prop) : Keeps kept (get : Process State Error State) :=
  fun _ holds => holds

theorem keeps_ofExcept (kept : State → Prop) (result : Except Error Value) :
    Keeps kept (ofExcept result : Process State Error Value) := by
  cases result with
  | ok value => exact keeps_pure kept value
  | error error => exact keeps_raise kept error

variable {kept : State → Prop}

theorem Keeps.ends (keeps : Keeps kept process) (holds : kept state) :
    Ends process state
      { returned := fun _ after => kept after
        raised := fun _ after => kept after
        crashed := fun after => kept after } := by
  have after := keeps state holds
  unfold Ends
  rcases ran : process state with ⟨outcome, last⟩
  rw [ran] at after
  cases outcome with
  | returned value => exact after
  | raised error => exact after
  | crashed => exact after

theorem keeps_bind_of (between : Value → State → Prop) (first : Keeps kept process)
    (returned : ∀ state value after, kept state → process state = (.returned value, after) →
      between value after)
    (second : ∀ value state, between value state → kept state → kept (next value state).2) :
    Keeps kept (process >>= next) := by
  intro state holds
  change kept (bind process next state).2
  have afterFirst := first state holds
  unfold bind
  rcases ran : process state with ⟨outcome, after⟩
  rw [ran] at afterFirst
  cases outcome with
  | returned value => exact second value after (returned state value after holds ran) afterFirst
  | raised error => exact afterFirst
  | crashed => exact afterFirst

theorem keeps_bind (first : Keeps kept process) (second : ∀ value, Keeps kept (next value)) :
    Keeps kept (process >>= next) :=
  keeps_bind_of (fun _ _ => True) first (fun _ _ _ _ _ => trivial)
    fun value state _ holds => second value state holds

theorem Preserves.keeps (preserves : Preserves view process) (kept : View → Prop) :
    Keeps (fun state => kept (view state)) process := by
  intro state holds
  rw [preserves state]
  exact holds

theorem keeps_attempt (keeps : Keeps kept body) :
    Keeps kept (attempt body : Process State Other (Except Error Value)) := by
  intro state holds
  have after := keeps state holds
  unfold attempt
  rcases ran : body state with ⟨outcome, last⟩
  rw [ran] at after
  cases outcome with
  | returned value => exact after
  | raised error => exact after
  | crashed => exact after

theorem keeps_tryCatch {handler : Error → Process State Error Value} (first : Keeps kept body)
    (second : ∀ error, Keeps kept (handler error)) : Keeps kept (tryCatch body handler) := by
  intro state holds
  have afterFirst := first state holds
  unfold tryCatch
  rcases ran : body state with ⟨outcome, after⟩
  rw [ran] at afterFirst
  cases outcome with
  | returned value => exact afterFirst
  | raised error => exact second error after afterFirst
  | crashed => exact afterFirst

end

section

variable {Whole Part Error PartError Value : Type}

def focus (get : Whole → Part) (put : Part → Whole → Whole) (embed : PartError → Error)
    (process : Process Part PartError Value) : Process Whole Error Value := fun whole =>
  match process (get whole) with
  | (.returned value, part) => (.returned value, put part whole)
  | (.raised error, part) => (.raised (embed error), put part whole)
  | (.crashed, part) => (.crashed, put part whole)

variable {process : Process Part PartError Value} {embed : PartError → Error}

theorem ends_focus {get : Whole → Part} {put : Part → Whole → Whole} {whole : Whole}
    {post : Post Part PartError Value} (ends : Ends process (get whole) post) :
    Ends (focus get put embed process) whole
      { returned := fun value after => ∃ part, post.returned value part ∧ after = put part whole
        raised := fun error after => ∃ inner part, post.raised inner part ∧ error = embed inner ∧
          after = put part whole
        crashed := fun after => ∃ part, post.crashed part ∧ after = put part whole } := by
  unfold Ends at ends
  unfold Ends focus
  rcases ran : process (get whole) with ⟨outcome, part⟩
  rw [ran] at ends
  cases outcome with
  | returned value => exact ⟨part, ends, rfl⟩
  | raised error => exact ⟨error, part, ends, rfl, rfl⟩
  | crashed => exact ⟨part, ends, rfl⟩

theorem focus_state (get : Whole → Part) (put : Part → Whole → Whole) (embed : PartError → Error)
    (process : Process Part PartError Value) (whole : Whole) :
    (focus get put embed process whole).2 = put (process (get whole)).2 whole := by
  unfold focus
  rcases process (get whole) with ⟨outcome, part⟩
  cases outcome <;> rfl

theorem preserves_focus {View : Type} {view : Whole → View} {get : Whole → Part}
    {put : Part → Whole → Whole} (process : Process Part PartError Value)
    (outside : ∀ part whole, view (put part whole) = view whole) :
    Preserves view (focus get put embed process) := by
  intro whole
  rw [focus_state]
  exact outside _ whole

def withError (embed : PartError → Error) (process : Process Part PartError Value) :
    Process Part Error Value :=
  focus id (fun part _ => part) embed process

theorem keeps_withError {kept : Part → Prop} (keeps : Keeps kept process) :
    Keeps kept (withError embed process) := by
  intro state holds
  rw [withError, focus_state]
  exact keeps state holds

theorem withError_returned {state after : Part} {value : Value}
    (ran : process state = (.returned value, after)) :
    withError embed process state = (.returned value, after) := by
  unfold withError focus
  rw [show process (id state) = (.returned value, after) from ran]

theorem returned_withError {state after : Part} {value : Value}
    (ran : withError embed process state = (.returned value, after)) :
    process state = (.returned value, after) := by
  unfold withError focus at ran
  rcases inner : process (id state) with ⟨outcome, part⟩
  rw [inner] at ran
  change process state = _ at inner
  rw [inner]
  cases outcome with
  | returned returned =>
      cases ran
      rfl
  | raised error => cases ran
  | crashed => cases ran

end

section

variable {State Error Value Next : Type}

theorem returned_bind {process : Process State Error Value}
    {next : Value → Process State Error Next} {state after : State} {final : Next}
    (ran : (process >>= next) state = (.returned final, after)) :
    ∃ value between, process state = (.returned value, between) ∧
      next value between = (.returned final, after) := by
  change bind process next state = _ at ran
  unfold bind at ran
  rcases first : process state with ⟨outcome, between⟩
  rw [first] at ran
  cases outcome with
  | returned value => exact ⟨value, between, rfl, ran⟩
  | raised error => cases ran
  | crashed => cases ran

theorem ofExcept_ok {result : Except Error Value} {value : Value} (computed : result = .ok value)
    (state : State) : ofExcept result state = (.returned value, state) := by
  rw [computed]
  rfl

theorem returned_ofExcept {result : Except Error Value} {state after : State} {value : Value}
    (ran : ofExcept result state = (.returned value, after)) :
    result = .ok value ∧ after = state := by
  cases result with
  | error error => cases ran
  | ok known =>
      cases ran
      exact ⟨rfl, rfl⟩

end

end Process

end TurtleExecution
