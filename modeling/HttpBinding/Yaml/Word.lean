/-!
Words with a meaning of their own where no tag says otherwise.
-/
namespace HttpBinding.Yaml

def isNullWord (text : String) : Bool := text ∈ ["null", "Null", "NULL", "~"]

def flagWord? (text : String) : Option Bool :=
  if text ∈ ["true", "True", "TRUE"] then some true
  else if text ∈ ["false", "False", "FALSE"] then some false
  else none

end HttpBinding.Yaml
