import HttpBinding.Source.Outline

/-!
Excerpts of a source text: one function, or a function with all that it refers to.
-/
namespace HttpBinding.Source

structure SourceFile where
  path : String
  text : String
deriving Repr, DecidableEq

inductive ExcerptError where
  | unavailable (path reason : String)
  | malformed (path : String)
  | functionNotFound (path name : String)
deriving Repr, DecidableEq

def ExcerptError.message : ExcerptError → String
  | unavailable path reason => s!"source unavailable: {path}: {reason}"
  | malformed path => s!"failed to parse {path}: it is not well-formed"
  | functionNotFound path name => s!"function `{name}` not found in {path}"

/-! Discovery -/

/-- References in the order in which they were met, and those of them that have not
been looked into. -/
structure Discovery where
  found : List Reference
  pending : List Reference

namespace Discovery

def start (root : Reference) : Discovery := ⟨[root], [root]⟩

def meet (discovery : Discovery) (target : Reference) : Discovery :=
  if target ∈ discovery.found then discovery
  else ⟨discovery.found ++ [target], discovery.pending ++ [target]⟩

def meetAll (discovery : Discovery) (targets : List Reference) : Discovery :=
  targets.foldl meet discovery

/-- Looks into one pending reference after the other. Every reference is pending once,
so their number bounds the steps. -/
def run (uses : Reference → List Reference) : Nat → Discovery → Discovery
  | 0, discovery => discovery
  | fuel + 1, discovery =>
      match discovery.pending with
      | [] => discovery
      | source :: rest => run uses fuel (meetAll { discovery with pending := rest } (uses source))

end Discovery

/-- All that is reached from a reference, breadth first. Every reference but the root
is the name of an item. -/
def reached (items : List Item) (root : Reference) : List Reference :=
  ((Discovery.start root).run (Reference.uses items) (items.length + 1)).found

/-! Excerpts -/

def locate (file : SourceFile) (name : String) : Except ExcerptError (List Item × Item) :=
  match items? file.text.toList with
  | none => .error (.malformed file.path)
  | some items =>
      match findFunction? items name with
      | none => .error (.functionNotFound file.path name)
      | some item => .ok (items, item)

def functionText (file : SourceFile) (name : String) : Except ExcerptError String := do
  let (_, item) ← locate file name
  return String.ofList (item.excerpt file.text.toList)

def bundleText (file : SourceFile) (name : String) : Except ExcerptError String := do
  let (items, _) ← locate file name
  let chosen := (reached items (.function name)).flatMap (Reference.items items)
  let text := file.text.toList
  return "\n\n".intercalate (chosen.map fun item => String.ofList (item.excerpt text))

end HttpBinding.Source
