import SyntaxForest.Text.UpperCase

/-!
# Diagnostics

A message attached to an offset of the text, with an optional help line and optional suggestions.
-/

namespace SyntaxForest

structure Diagnostic where
  message : String
  offset : Int
  severity : String
  code : Option String
  help : Option String
  suggestions : Option (List String)
deriving DecidableEq, Repr

namespace Diagnostic

/-- A diagnostic of the severity that refuses its input. -/
def error (message : String) (offset : Int) (code help : Option String)
    (suggestions : Option (List String)) : Diagnostic :=
  ⟨message, offset, "error", code, help, suggestions⟩

/-- The lines below the location. An empty help text and an empty list are left out. -/
def advice (d : Diagnostic) : List String :=
  (match d.help with
    | some text => if text.isEmpty then [] else ["  help: " ++ text]
    | none => []) ++
  match d.suggestions with
    | some (first :: rest) => "  suggestions:" :: (first :: rest).map ("    - " ++ ·)
    | _ => []

def render (d : Diagnostic) : String :=
  let lines :=
    (Text.upperCase d.severity ++ ": " ++ d.message) ::
      ("  --> offset " ++ toString d.offset) :: d.advice
  String.join (lines.map (· ++ "\n"))

end Diagnostic

end SyntaxForest
