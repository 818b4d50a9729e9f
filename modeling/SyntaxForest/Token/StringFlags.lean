import SyntaxForest.Labelled

/-!
# Flags of string literals

How a string literal is quoted and which letters stand in front of it.
-/

namespace SyntaxForest

inductive StringFlag where
  | singleQuote | triplicate | raw | unicode | bytes | format
deriving DecidableEq, Repr

namespace StringFlag

def label : StringFlag → String
  | singleQuote => "SINGLE_QUOTE"
  | triplicate => "TRIPLICATE"
  | raw => "RAW"
  | unicode => "UNICODE"
  | bytes => "BYTES"
  | format => "FORMAT"

instance : Labelled StringFlag where
  all := [.singleQuote, .triplicate, .raw, .unicode, .bytes, .format]
  label := label

/-- The letter that a flag puts in front of a literal; the quoting flags have none. -/
def letter? : StringFlag → Option Char
  | raw => some 'r'
  | unicode => some 'u'
  | bytes => some 'b'
  | format => some 'f'
  | _ => none

end StringFlag

structure StringFlags where
  singleQuote : Bool
  triplicate : Bool
  raw : Bool
  unicode : Bool
  bytes : Bool
  format : Bool
deriving DecidableEq, Repr

namespace StringFlags

def has (flags : StringFlags) : StringFlag → Bool
  | .singleQuote => flags.singleQuote
  | .triplicate => flags.triplicate
  | .raw => flags.raw
  | .unicode => flags.unicode
  | .bytes => flags.bytes
  | .format => flags.format

def ofList (members : List StringFlag) : StringFlags where
  singleQuote := members.contains .singleQuote
  triplicate := members.contains .triplicate
  raw := members.contains .raw
  unicode := members.contains .unicode
  bytes := members.contains .bytes
  format := members.contains .format

def ofLabels? (labels : List String) : Option StringFlags :=
  (Labelled.ofLabels? labels).map ofList

/-- The members of a set in the order of their weights. -/
def toList (flags : StringFlags) : List StringFlag :=
  (Labelled.all : List StringFlag).filter flags.has

@[simp]
theorem has_ofList (members : List StringFlag) (flag : StringFlag) :
    (ofList members).has flag = members.contains flag := by
  cases flag <;> rfl

def letters (flags : StringFlags) : List Char :=
  flags.toList.filterMap StringFlag.letter?

def quote (flags : StringFlags) : Char :=
  if flags.singleQuote then '\'' else '"'

/-- What stands on either side of a literal. -/
def delimiter (flags : StringFlags) : List Char :=
  if flags.triplicate then [flags.quote, flags.quote, flags.quote] else [flags.quote]

/-- The name of a set lists its members between bars. -/
def render (flags : StringFlags) : String :=
  let members :=
    if flags.toList = [] then [Labelled.emptyLabel] else flags.toList.map StringFlag.label
  "StringTokenFlags." ++ "|".intercalate members

end StringFlags

end SyntaxForest
