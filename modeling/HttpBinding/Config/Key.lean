import HttpBinding.Identifier.Spelling

/-!
The keys that are read from a configuration. The part of a configuration under `strut`
has no others.
-/
namespace HttpBinding.Config

/-- `embedded`, or the path of a file with the matcher's text. -/
def helperSource : String := "strut.helpers.source"

def separator : String := "strut.bindings.separator"

def knownKeys : List String := [helperSource, separator]

def variableOf (key : String) : String := Identifier.environmentName key

def isOwn (key : String) : Bool := key = "strut" || "strut.".toList.isPrefixOf key.toList

end HttpBinding.Config
