/-
**What an action did, told from its outcome.**

* `bind_eq_ok`, `bind_eq_error`: a sequence of computations succeeds if each of them does, and fails
  if one of them does;
* `Action.bind_eq_ok_iff`, `Action.bind_eq_error_iff`: the same for actions, with the site in
  between;
* one equation for each of the primitive actions;
* `Action.Within`: an action leads from each site to a related one, whether it succeeds or fails;
* `Action.FailsWith`: the errors of an action are of one sort;
* `Action.Returns`: so are its values, and what comes after it needs to deal with these only.
-/

import StoreTopology.Site

namespace StoreTopology

/-- A sequence succeeds if both its parts do. -/
theorem bind_eq_ok {ε α β : Type} {first : Except ε α} {next : α → Except ε β} {result : β} :
    first >>= next = .ok result ↔ ∃ value, first = .ok value ∧ next value = .ok result := by
  cases first with
  | error error =>
    constructor
    · intro failed
      cases failed
    · rintro ⟨_, failed, _⟩
      cases failed
  | ok value =>
    constructor
    · exact fun succeeded => ⟨value, rfl, succeeded⟩
    · rintro ⟨_, same, succeeded⟩
      cases same
      exact succeeded

/-- A sequence fails if its first part does, or else its second. -/
theorem bind_eq_error {ε α β : Type} {first : Except ε α} {next : α → Except ε β} {error : ε} :
    first >>= next = .error error ↔
      first = .error error ∨ ∃ value, first = .ok value ∧ next value = .error error := by
  cases first with
  | error problem =>
    constructor
    · exact fun failed => .inl (Except.error.inj failed ▸ rfl)
    · rintro (failed | ⟨_, succeeded, _⟩)
      · exact failed ▸ rfl
      · cases succeeded
  | ok value =>
    constructor
    · exact fun failed => .inr ⟨value, rfl, failed⟩
    · rintro (failed | ⟨_, same, failed⟩)
      · cases failed
      · cases same
        exact failed

/-- A result that is changed is a success if the result is one. -/
theorem map_eq_ok {ε α β : Type} {f : α → β} {first : Except ε α} {result : β} :
    first.map f = .ok result ↔ ∃ value, first = .ok value ∧ f value = result := by
  cases first with
  | error error => simp [Except.map]
  | ok value => simp [Except.map]

/-- A result that is changed is a failure if the result is one. -/
theorem map_eq_error {ε α β : Type} {f : α → β} {first : Except ε α} {error : ε} :
    first.map f = .error error ↔ first = .error error := by
  cases first with
  | error problem => simp [Except.map]
  | ok value => simp [Except.map]

theorem toOption_eq_some_iff {ε α : Type} {result : Except ε α} {value : α} :
    result.toOption = some value ↔ result = .ok value := by
  cases result with
  | error error => simp [Except.toOption]
  | ok value => simp [Except.toOption]

/-- The error of a failure. -/
def error? {ε α : Type} : Except ε α → Option ε
  | .error error => some error
  | .ok _ => none

theorem error?_eq_some_iff {ε α : Type} {result : Except ε α} {error : ε} :
    error? result = some error ↔ result = .error error := by
  cases result with
  | error problem => simp [error?]
  | ok value => simp [error?]

namespace Action

variable {ε ε' α β γ : Type} {site after : Site}

/-- A sequence of actions after a first one that succeeds. -/
theorem bind_of_ok {action : Action ε α} {next : α → Action ε β} {value : α} {between : Site}
    (succeeded : action site = (.ok value, between)) :
    (action >>= next) site = next value between := by
  simp only [bind, succeeded]

/-- A sequence of actions after a first one that fails. -/
theorem bind_of_error {action : Action ε α} {next : α → Action ε β} {error : ε} {between : Site}
    (failed : action site = (.error error, between)) :
    (action >>= next) site = (.error error, between) := by
  simp only [bind, failed]

/-- A sequence of actions succeeds if both its parts do. -/
theorem bind_eq_ok_iff {action : Action ε α} {next : α → Action ε β} {result : β} :
    (action >>= next) site = (.ok result, after) ↔
      ∃ value between, action site = (.ok value, between) ∧
        next value between = (.ok result, after) := by
  cases ran : action site with
  | mk outcome between =>
    cases outcome with
    | ok value =>
      rw [bind_of_ok ran]
      constructor
      · exact fun succeeded => ⟨value, between, rfl, succeeded⟩
      · rintro ⟨_, _, same, succeeded⟩
        cases same
        exact succeeded
    | error error =>
      rw [bind_of_error ran]
      constructor
      · intro failed
        cases failed
      · rintro ⟨_, _, same, _⟩
        cases same

/-- A sequence of actions fails if its first part does, or else its second. -/
theorem bind_eq_error_iff {action : Action ε α} {next : α → Action ε β} {error : ε} :
    (action >>= next) site = (.error error, after) ↔
      action site = (.error error, after) ∨
        ∃ value between, action site = (.ok value, between) ∧
          next value between = (.error error, after) := by
  cases ran : action site with
  | mk outcome between =>
    cases outcome with
    | ok value =>
      rw [bind_of_ok ran]
      constructor
      · exact fun failed => .inr ⟨value, between, rfl, failed⟩
      · rintro (same | ⟨_, _, same, failed⟩)
        · cases same
        · cases same
          exact failed
    | error problem =>
      rw [bind_of_error ran]
      constructor
      · intro failed
        cases failed
        exact .inl rfl
      · rintro (same | ⟨_, _, same, _⟩)
        · cases same
          rfl
        · cases same

/-! ### Primitive actions -/

@[simp] theorem pure_apply (value : α) : (pure value : Action ε α) site = (.ok value, site) := rfl

@[simp] theorem throw_apply (error : ε) :
    (throw error : Action ε α) site = (.error error, site) := rfl

@[simp] theorem site_apply : (Action.site : Action ε Site) site = (.ok site, site) := rfl

@[simp] theorem change_apply (f : Site → Site) :
    (change f : Action ε Unit) site = (.ok (), f site) := rfl

@[simp] theorem log_apply (level : LogLevel) (text : String) :
    (log level text : Action ε Unit) site = (.ok (), site.log level text) := rfl

@[simp] theorem create_apply (f : Site → α × Site) :
    (create f : Action ε α) site = (.ok (f site).1, (f site).2) := rfl

@[simp] theorem ofExcept_apply (result : Except ε α) : ofExcept result site = (result, site) := rfl

/-- A result of two steps, taken step by step. -/
theorem ofExcept_bind_bind (result : Except ε α) (f : α → Except ε β) (next : β → Action ε γ) :
    ofExcept (result >>= f) >>= next =
      ofExcept result >>= fun value => ofExcept (f value) >>= next := by
  cases result with
  | ok value => rfl
  | error error => rfl

/-- A change of the files that succeeds. -/
theorem onFiles_of_ok {f : FileTree → Except FileProblem Unit × FileTree} {files : FileTree}
    (succeeded : f site.files = (.ok (), files)) :
    onFiles f site = (.ok (), { site with files }) := by
  unfold onFiles
  rw [succeeded]
  rfl

theorem onFiles_eq_ok {f : FileTree → Except FileProblem Unit × FileTree} {result : Unit}
    (succeeded : onFiles f site = (.ok result, after)) : f site.files = (.ok (), after.files) := by
  unfold onFiles at succeeded
  cases ran : f site.files with
  | mk outcome files =>
    rw [ran] at succeeded
    cases outcome with
    | ok _ =>
      cases succeeded
      rfl
    | error problem => cases succeeded

/-- A change of the files that fails. -/
theorem onFiles_of_error {f : FileTree → Except FileProblem Unit × FileTree} {files : FileTree}
    {problem : FileProblem} (failed : f site.files = (.error problem, files)) :
    onFiles f site = (.error (.files problem), { site with files }) := by
  unfold onFiles
  rw [failed]
  rfl

/-- An action succeeds whatever its errors are taken for. -/
theorem mapError_eq_ok_iff {f : ε → ε'} {action : Action ε α} {value : α} :
    mapError f action site = (.ok value, after) ↔ action site = (.ok value, after) := by
  unfold mapError
  split
  · next ran => simp [ran]
  · next ran => simp [ran]

theorem mapError_of_error {f : ε → ε'} {action : Action ε α} {error : ε}
    (failed : action site = (.error error, after)) :
    mapError f action site = (.error (f error), after) := by
  unfold mapError
  rw [failed]

@[simp] theorem outcome_apply (action : Action ε α) :
    (outcome action : Action ε' (Except ε α)) site =
      (.ok (action site).1, (action site).2) := rfl

/-- A result that is handed on as a part of another one. -/
theorem bind_pure_apply (action : Action ε α) (f : α → β) (site : Site) :
    (action >>= fun value => pure (f value)) site =
      ((action site).1.map f, (action site).2) := by
  cases ran : action site with
  | mk outcome after =>
    cases outcome with
    | ok value =>
      rw [bind_of_ok ran]
      rfl
    | error error =>
      rw [bind_of_error ran]
      rfl

/-! ### Sites before and after -/

/-- From each site, whether it succeeds or fails, the action leads to a related one. -/
def Within (related : Site → Site → Prop) (action : Action ε α) : Prop :=
  ∀ site, related site (action site).2

namespace Within

variable {related : Site → Site → Prop} {action : Action ε α}

theorem of_ok (within : Within related action) {value : α}
    (succeeded : action site = (.ok value, after)) : related site after := by
  have led := within site
  rw [succeeded] at led
  exact led

theorem of_error (within : Within related action) {error : ε}
    (failed : action site = (.error error, after)) : related site after := by
  have led := within site
  rw [failed] at led
  exact led

theorem mapError {f : ε → ε'} (within : Within related action) :
    Within related (mapError f action) := by
  intro site
  have led := within site
  unfold Action.mapError
  split
  · next value between ran => rwa [ran] at led
  · next error between ran => rwa [ran] at led

theorem bind [Trans related related related] {next : α → Action ε β}
    (first : Within related action) (second : ∀ value, Within related (next value)) :
    Within related (action >>= next) := by
  intro site
  have led := first site
  cases ran : action site with
  | mk outcome between =>
    rw [ran] at led
    cases outcome with
    | ok value =>
      rw [bind_of_ok ran]
      exact Trans.trans led (second value between)
    | error error =>
      rw [bind_of_error ran]
      exact led

theorem ofExcept_bind [Std.Refl related] {result : Except ε α} {next : α → Action ε β}
    (second : ∀ value, result = .ok value → Within related (next value)) :
    Within related (Action.ofExcept result >>= next) := by
  intro site
  cases result with
  | ok value => exact second value rfl site
  | error error => exact Std.Refl.refl site

variable [Std.Refl related]

theorem pure (value : α) : Within related (Pure.pure value : Action ε α) :=
  fun site => Std.Refl.refl site

theorem ofExcept (result : Except ε α) : Within related (ofExcept result) :=
  fun site => Std.Refl.refl site

end Within

/-! ### Errors -/

/-- All errors that the action ends with pass a test. -/
def FailsWith (passes : ε → Prop) (action : Action ε α) : Prop :=
  ∀ site error after, action site = (.error error, after) → passes error

namespace FailsWith

variable {passes : ε → Prop} {action : Action ε α}

theorem bind {next : α → Action ε β} (first : FailsWith passes action)
    (second : ∀ value, FailsWith passes (next value)) : FailsWith passes (action >>= next) := by
  intro site error after failed
  rcases bind_eq_error_iff.mp failed with failed | ⟨value, between, _, failed⟩
  · exact first site error after failed
  · exact second value between error after failed

theorem mapError {f : ε' → ε} {action : Action ε' α} (always : ∀ error, passes (f error)) :
    FailsWith passes (mapError f action) := by
  intro site error after failed
  unfold Action.mapError at failed
  split at failed
  · cases failed
  · cases failed
    exact always _

theorem ofExcept {result : Except ε α} (always : ∀ error, result = .error error → passes error) :
    FailsWith passes (ofExcept result) := by
  intro site error after failed
  exact always error (Prod.mk.inj failed).1

theorem throw {error : ε} (isPassed : passes error) :
    FailsWith passes (MonadExcept.throw error : Action ε α) := by
  intro site other after failed
  cases failed
  exact isPassed

theorem pure (value : α) : FailsWith passes (Pure.pure value : Action ε α) := by
  intro site error after failed
  cases failed

theorem change (f : Site → Site) : FailsWith passes (change f : Action ε Unit) := by
  intro site error after failed
  cases failed

theorem create (f : Site → α × Site) : FailsWith passes (create f : Action ε α) := by
  intro site error after failed
  cases failed

theorem outcome (action : Action ε' α) :
    FailsWith passes (outcome action : Action ε (Except ε' α)) := by
  intro site error after failed
  cases failed

end FailsWith

/-! ### Values -/

/-- All values that the action succeeds with pass a test. -/
def Returns (passes : α → Prop) (action : Action ε α) : Prop :=
  ∀ site value after, action site = (.ok value, after) → passes value

section Returns

variable {passes : α → Prop} {wanted : ε → Prop} {action : Action ε α} {next other : α → Action ε β}

/-- The errors of a sequence are of one sort if they are so after the values that there can be. -/
theorem FailsWith.bind_of_returns (first : FailsWith wanted action)
    (returns : Returns passes action)
    (second : ∀ value, passes value → FailsWith wanted (next value)) :
    FailsWith wanted (action >>= next) := by
  intro site error after failed
  rcases bind_eq_error_iff.mp failed with failed | ⟨value, between, succeeded, failed⟩
  · exact first site error after failed
  · exact second value (returns site value between succeeded) between error after failed

/-- Sequences are the same if they go on in the same way after the values that there can be. -/
theorem bind_congr_of_returns (returns : Returns passes action)
    (same : ∀ value, passes value → next value = other value) :
    action >>= next = action >>= other := by
  funext site
  cases ran : action site with
  | mk outcome between =>
    cases outcome with
    | ok value =>
      rw [bind_of_ok ran, bind_of_ok ran, same value (returns site value between ran)]
    | error error => rw [bind_of_error ran, bind_of_error ran]

end Returns

end Action

end StoreTopology
