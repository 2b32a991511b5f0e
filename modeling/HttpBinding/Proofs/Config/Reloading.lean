import HttpBinding.Proofs.Config.Layers
import HttpBinding.Proofs.Dotenv.Names

/-!
Loading again, in the environment that a load leaves behind. Every variable that the
`.env` files assign to is set by then, so they add nothing more; all that can change is
the profile, where these files are the first to name one.
-/
namespace HttpBinding.Config

open Workspace (Environment Files)

/-- Whatever is set in one environment is set in the other. -/
def Within (environment other : Environment) : Prop :=
  ∀ name, (environment.get? name).isSome → (other.get? name).isSome

theorem names_dotenvAssignments (files : Files) (environment other : Environment)
    (path : String) :
    (dotenvAssignments files environment path).map (·.1)
      = (dotenvAssignments files other path).map (·.1) := by
  unfold dotenvAssignments
  cases files path >>= Workspace.Entry.bytes with
  | error failure => rfl
  | ok content => exact Dotenv.names_assignmentsOf environment other (Dotenv.lines content)

theorem isSome_get?_withDotenv (files : Files) (environment after : Environment) (path : String)
    (set : withDotenv files environment path = .ok after) (name : String) :
    (after.get? name).isSome ↔ (environment.get? name).isSome ∨
      name ∈ (dotenvAssignments files environment path).map (·.1) := by
  obtain ⟨_, rfl⟩ := (foldlM_setVariable_ok_iff ..).mp set
  exact Assignments.isSome_get?_addAll ..

theorem within_foldlM_withDotenv (files : Files) (environment after : Environment)
    (paths : List String) (set : paths.foldlM (withDotenv files) environment = .ok after) :
    Within environment after := by
  induction paths generalizing environment with
  | nil =>
      cases set
      exact fun name set => set
  | cons path rest ih =>
      rw [List.foldlM_cons] at set
      cases first : withDotenv files environment path with
      | error interruption => simp [first, bind, Except.bind] at set
      | ok middle =>
          rw [first] at set
          intro name known
          exact ih middle set name
            ((isSome_get?_withDotenv files environment middle path first name).mpr (.inl known))

/-- A file that was read before adds nothing, and gives no text that cannot be set. -/
theorem withDotenv_settled (files : Files) (environment middle later : Environment) (path : String)
    (set : withDotenv files environment path = .ok middle) (read : Within middle later) :
    withDotenv files later path = .ok later := by
  have known : ∀ name ∈ (dotenvAssignments files later path).map (·.1),
      (later.get? name).isSome := by
    intro name assigned
    rw [names_dotenvAssignments files later environment path] at assigned
    exact read name
      ((isSome_get?_withDotenv files environment middle path set name).mpr (.inr assigned))
  refine (foldlM_setVariable_ok_iff ..).mpr ⟨?_, (Assignments.addAll_of_set later _ known).symm⟩
  intro name text unset found
  obtain ⟨entry, member, same⟩ := List.lookup_isSome_iff.mp (Option.isSome_of_eq_some found)
  have assigned := known name (List.mem_map.mpr ⟨entry, member, (beq_iff_eq.mp same).symm⟩)
  simp [unset] at assigned

theorem foldlM_withDotenv_settled (files : Files) (environment after later : Environment)
    (paths : List String) (set : paths.foldlM (withDotenv files) environment = .ok after)
    (read : Within after later) : paths.foldlM (withDotenv files) later = .ok later := by
  induction paths generalizing environment with
  | nil => rfl
  | cons path rest ih =>
      rw [List.foldlM_cons] at set ⊢
      cases first : withDotenv files environment path with
      | error interruption => simp [first, bind, Except.bind] at set
      | ok middle =>
          rw [first] at set
          have settled : withDotenv files later path = .ok later := by
            apply withDotenv_settled files environment middle later path first
            intro name known
            exact read name (within_foldlM_withDotenv files middle after rest set name known)
          rw [settled]
          exact ih middle set

/-- With the same profile, a second load finds all as it was. -/
theorem load_again (files : Files) (environment : Environment) (directory profile : String)
    (config : Config) (after : Environment)
    (loaded : load files environment directory profile = .ok (.ok config, after))
    (kept : activeProfile after profile = activeProfile environment profile) :
    load files after directory profile = .ok (.ok config, after) := by
  obtain ⟨active, set, values, read, overridden⟩ := (load_ok_iff ..).mp loaded
  exact (load_ok_iff ..).mpr ⟨active.trans kept.symm,
    foldlM_withDotenv_settled files environment after after _ set fun name known => known,
    values, read, overridden⟩

/-- The `.env` files bring in no other profile: a variable gave one before, or what they
assign to it first is the argument. -/
def KeepsProfile (files : Files) (environment : Environment) (directory profile : String) : Prop :=
  (environment.get? "STRUT_PROFILE").isSome ∨
    ∀ named, ((baseAssignments files environment directory).lookup "STRUT_PROFILE").or
      ((profileAssignments files environment directory profile).lookup "STRUT_PROFILE")
        = some named → named = profile

theorem activeProfile_kept_iff (files : Files) (environment : Environment)
    (directory profile : String) (config : Config) (after : Environment)
    (loaded : load files environment directory profile = .ok (.ok config, after)) :
    activeProfile after profile = activeProfile environment profile ↔
      KeepsProfile files environment directory profile := by
  obtain ⟨active, left, _⟩ := (load_ok_iff ..).mp loaded
  unfold KeepsProfile
  unfold activeProfile at active ⊢
  rw [get?_dotenv _ _ _ _ _ left, dotenvText?]
  -- A variable that was set stays; without one, the first load went by the argument.
  cases set : environment.get? "STRUT_PROFILE" with
  | some text => simp
  | none =>
      rw [set, Option.getD_none] at active
      rw [active, Option.none_or, Option.getD_none]
      cases ((baseAssignments files environment directory).lookup "STRUT_PROFILE").or
          ((profileAssignments files environment directory profile).lookup "STRUT_PROFILE") with
      | none => simp
      | some named => simp

/-- A second load gives the same configuration exactly if no other profile is brought in. -/
theorem load_again_same_iff (files : Files) (environment : Environment)
    (directory profile : String) (config : Config) (after : Environment)
    (loaded : load files environment directory profile = .ok (.ok config, after)) :
    (∃ again left, load files after directory profile = .ok (.ok again, left) ∧
      again.profile = config.profile ∧ ∀ key, again.get? key = config.get? key) ↔
      KeepsProfile files environment directory profile := by
  rw [← activeProfile_kept_iff files environment directory profile config after loaded]
  constructor
  · rintro ⟨again, left, reloaded, same, _⟩
    obtain ⟨active, _⟩ := (load_ok_iff ..).mp loaded
    obtain ⟨activeAgain, _⟩ := (load_ok_iff ..).mp reloaded
    rw [← active, ← same, activeAgain]
  · intro kept
    exact ⟨config, after, load_again files environment directory profile config after loaded kept,
      rfl, fun key => rfl⟩

theorem stagedFiles_load_again :
    load stagedFiles stagedEnvironment "." "dev" = .ok (.ok stagedConfig, stagedAfter) ∧
    ((∃ again left, load stagedFiles stagedAfter "." "dev" = .ok (.ok again, left) ∧
      again.profile = stagedConfig.profile ∧
      ∀ key, again.get? key = stagedConfig.get? key) ↔
      KeepsProfile stagedFiles stagedEnvironment "." "dev") ∧
    KeepsProfile stagedFiles stagedEnvironment "." "dev" :=
  ⟨load_stagedFiles, load_again_same_iff stagedFiles stagedEnvironment "." "dev" stagedConfig
    stagedAfter load_stagedFiles, .inl (by decide)⟩

/-- A `.env` file that names a profile, which no variable did before. -/
def switchingFiles : Files
  | "./.env" => .ok (.file "STRUT_PROFILE=ci\n".toUTF8)
  | "./strut-ci.yaml" => .ok (.file "strut.bindings.separator: ';'\n".toUTF8)
  | _ => .error .notFound

theorem switchingFiles_load_again_differs :
    ∃ config after again, load switchingFiles .empty "." "dev" = .ok (.ok config, after) ∧
      load switchingFiles after "." "dev" = .ok (.ok again, after) ∧
      config.profile = "dev" ∧ again.profile = "ci" ∧
      config.get? separator = none ∧ again.get? separator = some ";" := by
  refine ⟨⟨.empty, "dev"⟩, ⟨[("STRUT_PROFILE", "ci")]⟩,
    ⟨⟨[("strut.bindings.separator", ";")]⟩, "ci"⟩, ?_⟩
  decide +kernel

end HttpBinding.Config
