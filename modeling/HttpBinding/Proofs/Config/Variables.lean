import HttpBinding.Config.Load
import HttpBinding.Proofs.FirstFault

/-!
How the `.env` files set variables. A name that is set is passed over, so of several texts
for one name the first counts; where that one holds a NUL, what stands before it is set and
nothing behind it is read.
-/
namespace HttpBinding.Config

open Workspace (Environment Files)

/-- What is assigned first to a name without a text can be its text. -/
def Settable (environment : Environment) (assignments : List (String × String)) : Prop :=
  ∀ name text, environment.get? name = none → assignments.lookup name = some text →
    '\x00' ∉ text.toList

theorem settable_cons_iff (environment : Environment) (name text : String)
    (rest : List (String × String)) :
    Settable environment ((name, text) :: rest) ↔
      (environment.get? name = none → '\x00' ∉ text.toList) ∧
        Settable (environment.add name text) rest := by
  constructor
  · intro settable
    refine ⟨fun unset => settable name text unset (by simp), ?_⟩
    intro other assigned unset found
    rw [Assignments.get?_add, Option.or_eq_none_iff] at unset
    have differs : other ≠ name := by
      rintro rfl
      simp at unset
    exact settable other assigned unset.1
      (by rwa [Assignments.lookup_cons_ne name text other rest differs])
  · rintro ⟨first, settable⟩ other assigned unset found
    by_cases same : other = name
    · subst same
      obtain rfl : text = assigned := by simpa using found
      exact first unset
    · rw [Assignments.lookup_cons_ne name text other rest same] at found
      refine settable other assigned ?_ found
      rw [Assignments.get?_add, unset, if_neg same, Option.none_or]

theorem setVariable_of_settable (environment : Environment) (name text : String)
    (settable : environment.get? name = none → '\x00' ∉ text.toList) :
    setVariable environment (name, text) = .ok (environment.add name text) :=
  if_neg fun stopped => settable stopped.1 stopped.2

theorem foldlM_setVariable_ok_iff (environment after : Environment)
    (assignments : List (String × String)) :
    assignments.foldlM setVariable environment = .ok after ↔
      Settable environment assignments ∧ after = environment.addAll assignments := by
  induction assignments generalizing environment with
  | nil => simp [Settable, Assignments.addAll, pure, Except.pure, eq_comm]
  | cons assignment rest ih =>
      obtain ⟨name, text⟩ := assignment
      rw [List.foldlM_cons, settable_cons_iff, Assignments.addAll_cons]
      by_cases settable : environment.get? name = none → '\x00' ∉ text.toList
      · rw [setVariable_of_settable environment name text settable, and_iff_right settable]
        exact ih (environment.add name text)
      · have stopped : environment.get? name = none ∧ '\x00' ∈ text.toList := by
          simpa using settable
        simp [setVariable, stopped, bind, Except.bind]

/-- The environment that setting variables leaves, also if it is broken off. -/
def leftBy : Except Interruption Environment → Environment
  | .ok after => after
  | .error interruption => interruption.environment

/-- Each variable is as it was, or has what is assigned to it first. -/
theorem get?_leftBy (environment : Environment) (assignments : List (String × String))
    (name : String) :
    (leftBy (assignments.foldlM setVariable environment)).get? name = environment.get? name ∨
      (leftBy (assignments.foldlM setVariable environment)).get? name
        = (environment.get? name).or (assignments.lookup name) := by
  induction assignments generalizing environment with
  | nil => exact .inl rfl
  | cons assignment rest ih =>
      obtain ⟨key, text⟩ := assignment
      rw [List.foldlM_cons]
      by_cases settable : environment.get? key = none → '\x00' ∉ text.toList
      · rw [setVariable_of_settable environment key text settable]
        have later := ih (environment.add key text)
        rw [Assignments.get?_add] at later
        by_cases same : name = key
        · -- The names behind the first do not matter any more.
          subst same
          have held := later.elim id fun assigned => by simpa [Option.or_assoc] using assigned
          exact .inr (held.trans (by simp))
        · rw [if_neg same, Option.or_none] at later
          rwa [Assignments.lookup_cons_ne key text name rest same]
      · have stopped : environment.get? key = none ∧ '\x00' ∈ text.toList := by
          simpa using settable
        exact .inl (by simp [setVariable, stopped, bind, Except.bind, leftBy])

/-! The two files -/

/-- The assignments of the `.env` file of a directory. -/
def baseAssignments (files : Files) (environment : Environment) (directory : String) :
    List (String × String) :=
  dotenvAssignments files environment (Workspace.join directory ".env")

/-- The assignments of the profile's `.env` file, which is read behind the other one. -/
def profileAssignments (files : Files) (environment : Environment) (directory profile : String) :
    List (String × String) :=
  dotenvAssignments files (environment.addAll (baseAssignments files environment directory))
    (Workspace.join directory s!".env.{profile}")

section Files
variable (files : Files) (environment : Environment) (directory profile : String)

/-- The first text that the `.env` file of the directory assigns to a name, else the first
one that the profile's file does. -/
def dotenvText? (name : String) : Option String :=
  ((baseAssignments files environment directory).lookup name).or
    ((profileAssignments files environment directory profile).lookup name)

/-- Neither file breaks off the program. -/
def DotenvSettable : Prop :=
  ∀ name text, environment.get? name = none →
    dotenvText? files environment directory profile name = some text → '\x00' ∉ text.toList

theorem dotenvSettable_iff : DotenvSettable files environment directory profile ↔
    Settable environment (baseAssignments files environment directory) ∧
      Settable (environment.addAll (baseAssignments files environment directory))
        (profileAssignments files environment directory profile) := by
  constructor
  · intro settable
    constructor
    · intro name text unset found
      exact settable name text unset (by rw [dotenvText?, found, Option.some_or])
    · intro name text unset found
      rw [Assignments.get?_addAll, Option.or_eq_none_iff] at unset
      exact settable name text unset.1 (by rw [dotenvText?, unset.2, Option.none_or, found])
  · rintro ⟨base, own⟩ name text unset found
    rw [dotenvText?, Option.or_eq_some_iff] at found
    rcases found with first | ⟨absent, later⟩
    · exact base name text unset first
    · exact own name text (by rw [Assignments.get?_addAll, unset, absent, Option.none_or]) later

theorem foldlM_withDotenv_ok_iff (after : Environment) :
    (dotenvPaths directory profile).foldlM (withDotenv files) environment = .ok after ↔
      DotenvSettable files environment directory profile ∧
        after = (environment.addAll (baseAssignments files environment directory)).addAll
          (profileAssignments files environment directory profile) := by
  have first (middle : Environment) : withDotenv files environment
      (Workspace.join directory ".env") = .ok middle ↔ _ :=
    foldlM_setVariable_ok_iff environment middle (baseAssignments files environment directory)
  rw [dotenvSettable_iff]
  simp only [dotenvPaths, List.foldlM_cons, List.foldlM_nil, bind_pure]
  cases read : withDotenv files environment (Workspace.join directory ".env") with
  | error interruption =>
      have refused := not_of_error _ _ _ first interruption read
      simp [bind, Except.bind, refused]
  | ok middle =>
      obtain ⟨settable, rfl⟩ := (first middle).mp read
      simp only [bind, Except.bind, settable, true_and]
      exact foldlM_setVariable_ok_iff _ after (profileAssignments files environment directory profile)

/-- What the first file leaves open may come from the second. -/
theorem or_lookup_cases (before first second found : Option String)
    (assigned : found = before.or first) :
    found = before ∨ found = before.or (first.or second) := by
  cases first with
  | none => exact .inl (by rw [assigned, Option.or_none])
  | some text => exact .inr assigned

theorem get?_leftBy_dotenv (name : String) :
    (leftBy ((dotenvPaths directory profile).foldlM (withDotenv files) environment)).get? name
        = environment.get? name ∨
      (leftBy ((dotenvPaths directory profile).foldlM (withDotenv files) environment)).get? name
        = (environment.get? name).or (dotenvText? files environment directory profile name) := by
  have first := get?_leftBy environment (baseAssignments files environment directory) name
  have base : withDotenv files environment (Workspace.join directory ".env")
    = (baseAssignments files environment directory).foldlM setVariable environment := rfl
  simp only [dotenvPaths, List.foldlM_cons, List.foldlM_nil, bind_pure, base, dotenvText?]
  cases read : (baseAssignments files environment directory).foldlM setVariable environment with
  | error interruption =>
      rw [read] at first
      exact first.elim .inl (or_lookup_cases _ _ _ _)
  | ok middle =>
      obtain ⟨_, rfl⟩ := (foldlM_setVariable_ok_iff ..).mp read
      have second := get?_leftBy (environment.addAll (baseAssignments files environment directory))
        (profileAssignments files environment directory profile) name
      rw [Assignments.get?_addAll, Option.or_assoc] at second
      exact second.elim (or_lookup_cases _ _ _ _) .inr

end Files
end HttpBinding.Config
