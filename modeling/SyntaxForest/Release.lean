/-!
# Release

What the library tells about itself.
-/

namespace SyntaxForest

structure Release where
  version : String
  maintainer : String
  contact : String
  terms : String

def release : Release :=
  ⟨"0.1.0-alpha", "xwest", "dev@neuralscript.org", "MIT"⟩

end SyntaxForest
