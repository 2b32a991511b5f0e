import HttpBinding.Proofs.Config.Layers

/-!
What loading does to the environment, in one call and over a session of calls between which
the files may change. A call that fails leaves the environment as it was; any other adds what
the `.env` files assign to names without a text. No text is ever replaced.
-/
namespace HttpBinding.Config

open Workspace (Environment Files)

/-- Every variable of one environment has the same text in the other. -/
def Keeps (before after : Environment) : Prop :=
  ∀ name text, before.get? name = some text → after.get? name = some text

theorem keeps_trans (first second third : Environment) (early : Keeps first second)
    (late : Keeps second third) : Keeps first third := by
  intro name text set
  exact late name text (early name text set)

/-- One call of a session: the files as they are by then, the directory and the profile. -/
structure Call where
  files : Files
  directory : String
  profile : String

/-- A call in the environment before it, and how it ends. -/
structure Stage where
  call : Call
  before : Environment
  ending : Except Interruption (Except Error Config × Environment)

def Call.stage (call : Call) (environment : Environment) : Stage :=
  ⟨call, environment, load call.files environment call.directory call.profile⟩

/-- The environment after a call, which may have been broken off. -/
def Stage.after (stage : Stage) : Environment := leftBy (stage.ending.map Prod.snd)

/-- Every call starts in the environment that the one before has left. -/
def session : Environment → List Call → List Stage
  | _, [] => []
  | environment, call :: rest =>
      call.stage environment :: session (call.stage environment).after rest

namespace Stage

/-- The profile that the call goes by. -/
def active (stage : Stage) : String := activeProfile stage.before stage.call.profile

/-- The first text that the `.env` files of the call assign to a name. -/
def assigned? (stage : Stage) (name : String) : Option String :=
  dotenvText? stage.call.files stage.before stage.call.directory stage.active name

structure Framed (stage : Stage) : Prop where
  keeps : Keeps stage.before stage.after
  failed : ∀ error after, stage.ending = .ok (.error error, after) →
    stage.after = stage.before
  added : ∀ name text, stage.before.get? name = none → stage.after.get? name = some text →
    stage.assigned? name = some text

end Stage

/-- What one call does. -/
theorem stage_framed (call : Call) (environment : Environment) :
    (call.stage environment).Framed := by
  have each := get?_leftBy_dotenv call.files environment call.directory
    (activeProfile environment call.profile)
  cases read : fileValues call.files call.directory (activeProfile environment call.profile) with
  | error error =>
      have ending : (call.stage environment).ending = .ok (.error error, environment) := by
        rw [Call.stage, load, read]
      have kept : (call.stage environment).after = environment := by
        rw [Stage.after, ending]
        rfl
      refine ⟨fun name text set => kept.symm ▸ set, fun _ _ _ => kept, ?_⟩
      intro name text unset found
      rw [kept] at found
      cases unset.symm.trans found
  | ok values =>
      have left : (call.stage environment).after
          = leftBy ((dotenvPaths call.directory (activeProfile environment call.profile)).foldlM
              (withDotenv call.files) environment) := by
        rw [Stage.after, Call.stage, load, read]
        cases (dotenvPaths call.directory (activeProfile environment call.profile)).foldlM
          (withDotenv call.files) environment <;> rfl
      refine ⟨?_, ?_, ?_⟩
      · intro name text set
        rw [left]
        rcases each name with kept | assigned
        · exact kept.trans set
        · rwa [show environment.get? name = some text from set, Option.some_or] at assigned
      · intro error after failure
        rw [Call.stage, load, read] at failure
        cases set : (dotenvPaths call.directory (activeProfile environment call.profile)).foldlM
            (withDotenv call.files) environment <;> simp [set, bind, Except.bind, pure,
              Except.pure] at failure
      · intro name text unset found
        rw [left] at found
        rcases each name with kept | assigned
        · cases (unset.symm.trans kept.symm).trans found
        · rw [show environment.get? name = none from unset, Option.none_or] at assigned
          exact assigned.symm.trans found

theorem session_keeps_start (environment : Environment) (calls : List Call) :
    ∀ stage ∈ session environment calls, Keeps environment stage.after := by
  induction calls generalizing environment with
  | nil => simp [session]
  | cons call rest ih =>
      have first := (stage_framed call environment).keeps
      rw [session, List.forall_mem_cons]
      refine ⟨first, ?_⟩
      intro stage member
      exact keeps_trans _ _ _ first (ih (call.stage environment).after stage member)

/-- What a whole session does: each of its calls keeps to its frame, and what is set before
or after one of them has the same text after all later ones. -/
theorem session_framed (environment : Environment) (calls : List Call) :
    (∀ stage ∈ session environment calls, stage.Framed ∧ Keeps environment stage.after) ∧
    (session environment calls).Pairwise fun earlier later =>
      Keeps earlier.before later.after ∧ Keeps earlier.after later.after := by
  induction calls generalizing environment with
  | nil => simp [session]
  | cons call rest ih =>
      have here := stage_framed call environment
      have later := session_keeps_start (call.stage environment).after rest
      obtain ⟨framed, ordered⟩ := ih (call.stage environment).after
      rw [session, List.forall_mem_cons, List.pairwise_cons]
      refine ⟨⟨⟨here, here.keeps⟩, ?_⟩, ?_, ordered⟩
      · intro stage member
        exact ⟨(framed stage member).1, keeps_trans _ _ _ here.keeps (later stage member)⟩
      · intro stage member
        exact ⟨keeps_trans _ _ _ here.keeps (later stage member), later stage member⟩

/-- Files that are refused, with another text for a variable. -/
def refusedFiles : Files
  | "./strut.yaml" => .ok (.file "strut.source: a\n".toUTF8)
  | "./.env" => .ok (.file "UNIT=refused\n".toUTF8)
  | _ => .error .notFound

def changedFiles : Files
  | "./.env" => .ok (.file "UNIT=changed\nMORE=$UNIT\n".toUTF8)
  | _ => .error .notFound

def refusedCall : Call := ⟨refusedFiles, ".", "dev"⟩

def changedCall : Call := ⟨changedFiles, ".", "dev"⟩

def refusedStage : Stage := refusedCall.stage stagedAfter

def changedStage : Stage := changedCall.stage refusedStage.after

/-- The texts that a first load has left outlast the changed files. -/
theorem changedStage_keeps_unit :
    refusedStage ∈ session stagedAfter [refusedCall, changedCall] ∧ refusedStage.Framed ∧
      changedStage ∈ session stagedAfter [refusedCall, changedCall] ∧ changedStage.Framed ∧
      Keeps refusedStage.before changedStage.after ∧
      stagedAfter.get? "UNIT" = some "matcher" ∧
      changedStage.after.get? "MORE" = some "matcher" := by
  have stages : session stagedAfter [refusedCall, changedCall] = [refusedStage, changedStage] := rfl
  obtain ⟨framed, ordered⟩ := session_framed stagedAfter [refusedCall, changedCall]
  rw [stages] at framed ordered ⊢
  have refused : refusedStage ∈ [refusedStage, changedStage] := List.mem_cons_self
  have changed : changedStage ∈ [refusedStage, changedStage] :=
    List.mem_cons_of_mem _ List.mem_cons_self
  have later := List.rel_of_pairwise_cons ordered List.mem_cons_self
  exact ⟨refused, (framed _ refused).1, changed, (framed _ changed).1, later.1,
    by decide, by decide +kernel⟩

end HttpBinding.Config
