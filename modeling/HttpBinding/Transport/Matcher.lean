import HttpBinding.Config.Choices
import HttpBinding.Source.Excerpt
import HttpBinding.Transport.MatcherText

/-!
The matcher as a text to paste: its function with all that it refers to.
-/
namespace HttpBinding.Transport

open Source (ExcerptError SourceFile)
open Workspace (Files)

def matcherFile (files : Files) : Config.Source → Except ExcerptError SourceFile
  | .embedded => .ok ⟨"<embedded>", matcherText⟩
  | .disk path =>
      match Workspace.readText files path with
      | .ok text => .ok ⟨path, text⟩
      | .error failure => .error (.unavailable path failure.message)

def matcherBundle (files : Files) (source : Config.Source) : Except ExcerptError String :=
  matcherFile files source >>= (Source.bundleText · "path_params")

end HttpBinding.Transport
