import HttpBinding.Proofs.Config.Merging
import HttpBinding.Proofs.Config.Variables

/-!
Which layer gives a key its value. A variable of the environment comes first, then the
assignments of the two `.env` files, then the last leaf of the profile's file, then that
of the base file. A leaf that is null ends the search without a value.
-/
namespace HttpBinding.Config

open Workspace (Environment Files)
open Yaml (Value)

theorem load_ok_iff (files : Files) (environment : Environment) (directory profile : String)
    (config : Config) (after : Environment) :
    load files environment directory profile = .ok (.ok config, after) ↔
      config.profile = activeProfile environment profile ∧
      (dotenvPaths directory config.profile).foldlM (withDotenv files) environment = .ok after ∧
      ∃ values, fileValues files directory config.profile = .ok values ∧
        config.values = knownKeys.foldl (override after) values := by
  obtain ⟨values, own⟩ := config
  simp only [load]
  cases read : fileValues files directory (activeProfile environment profile) with
  | error error =>
      constructor
      · intro failed
        cases failed
      · rintro ⟨rfl, _, lower, success, _⟩
        rw [read] at success
        cases success
  | ok lower =>
      cases set : (dotenvPaths directory (activeProfile environment profile)).foldlM
          (withDotenv files) environment with
      | error interruption =>
          constructor
          · intro stopped
            cases stopped
          · rintro ⟨rfl, success, _⟩
            rw [set] at success
            cases success
      | ok left =>
          simp only [bind, Except.bind, pure, Except.pure, Prod.mk.injEq, Except.ok.injEq,
            Config.mk.injEq]
          constructor
          · rintro ⟨⟨rfl, rfl⟩, rfl⟩
            exact ⟨rfl, set, lower, read, rfl⟩
          · rintro ⟨rfl, success, again, same, rfl⟩
            rw [read, Except.ok.injEq] at same
            rw [set, Except.ok.injEq] at success
            exact ⟨⟨by rw [same, success], rfl⟩, success⟩

theorem get?_dotenv (files : Files) (environment after : Environment) (directory profile : String)
    (set : (dotenvPaths directory profile).foldlM (withDotenv files) environment = .ok after)
    (name : String) :
    after.get? name
      = (environment.get? name).or (dotenvText? files environment directory profile name) := by
  obtain ⟨_, rfl⟩ := (foldlM_withDotenv_ok_iff ..).mp set
  simp only [Assignments.get?_addAll, Option.or_assoc]
  rfl

/-- A profile that takes the source away, which its `.env` file gives again. The separator
is that of the base file. -/
def stagedFiles : Files
  | "./strut.yaml" =>
      .ok (.file "strut:\n  bindings.separator: ;\n  helpers:\n    source: base.rs\n".toUTF8)
  | "./strut-ci.yaml" => .ok (.file "strut.helpers.source: ~\n".toUTF8)
  | "./.env" => .ok (.file "# Names\nUNIT=matcher\n".toUTF8)
  | "./.env.ci" =>
      .ok (.file "STRUT_HELPERS_SOURCE=$UNIT.rs\nSTRUT_HELPERS_SOURCE=late.rs\n".toUTF8)
  | _ => .error .notFound

def stagedEnvironment : Environment := ⟨[("STRUT_PROFILE", "ci")]⟩

def stagedConfig : Config :=
  ⟨⟨[("strut.bindings.separator", ";"), ("strut.helpers.source", "matcher.rs")]⟩, "ci"⟩

def stagedAfter : Environment :=
  ⟨[("STRUT_PROFILE", "ci"), ("UNIT", "matcher"), ("STRUT_HELPERS_SOURCE", "matcher.rs")]⟩

theorem load_stagedFiles :
    load stagedFiles stagedEnvironment "." "dev" = .ok (.ok stagedConfig, stagedAfter) := by
  decide +kernel

end HttpBinding.Config
