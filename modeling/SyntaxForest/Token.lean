import SyntaxForest.Numeral.Value
import SyntaxForest.Text.Quoted
import SyntaxForest.Token.Keyword
import SyntaxForest.Token.StringFlags

/-!
# Tokens

The lexical items that the leaves of a tree are made of: a type, the place in the text, and what
the item stands for. A token takes any place that its maker gives, also a negative one; it is
checked when a node is built from it.
-/

namespace SyntaxForest

inductive TokenType where
  | string | number | identifier | keyword
deriving DecidableEq, Repr

namespace TokenType

def label : TokenType → String
  | string => "STRING"
  | number => "NUMBER"
  | identifier => "IDENTIFIER"
  | keyword => "KEYWORD"

instance : Labelled TokenType where
  all := [.string, .number, .identifier, .keyword]
  label := label

end TokenType

structure Lexeme where
  type : TokenType
  start : Int
  length : Int
deriving DecidableEq, Repr

namespace Lexeme

def stop (t : Lexeme) : Int :=
  t.start + t.length

end Lexeme

structure NameToken extends Lexeme where
  value : String
deriving DecidableEq, Repr

structure NumberToken extends Lexeme where
  value : NumberValue
  isInteger : Bool
  isImaginary : Bool
deriving DecidableEq, Repr

structure StringToken extends Lexeme where
  flags : StringFlags
  escaped : String
deriving DecidableEq, Repr

structure KeywordToken extends Lexeme where
  keyword : Keyword
deriving DecidableEq, Repr

/-- The token of an identifier, as wide as the identifier. -/
def NameToken.ofValue (value : String) (start : Int) : NameToken :=
  ⟨⟨.identifier, start, value.length⟩, value⟩

/-- The token of a number. The length zero stands for the width of the number's text. -/
def NumberToken.ofValue (value : NumberValue) (start length : Int) : NumberToken where
  type := .number
  start := start
  length := if length = 0 then value.text.length else length
  value := value
  isInteger := value matches .integer _
  isImaginary := value matches .complex _ _

/-- The width of a string literal: a letter for each flag that has one, the quotes on both sides,
and the text between them. -/
def StringFlags.literalWidth (flags : StringFlags) (escaped : String) : Nat :=
  let letterCount :=
    flags.raw.toNat + flags.unicode.toNat + flags.bytes.toNat + flags.format.toNat
  letterCount + 2 * (if flags.triplicate then 3 else 1) + escaped.length

/-- The token of a string literal. The length zero stands for the width of the literal. -/
def StringToken.ofEscaped (escaped : String) (flags : StringFlags) (start length : Int) :
    StringToken where
  type := .string
  start := start
  length := if length = 0 then flags.literalWidth escaped else length
  flags := flags
  escaped := escaped

def KeywordToken.ofKeyword (keyword : Keyword) (start : Int) : KeywordToken :=
  ⟨⟨.keyword, start, keyword.text.length⟩, keyword⟩

inductive Token where
  | plain (token : Lexeme)
  | name (token : NameToken)
  | number (token : NumberToken)
  | string (token : StringToken)
  | keyword (token : KeywordToken)

namespace Token

def lexeme : Token → Lexeme
  | plain token => token
  | name token => token.toLexeme
  | number token => token.toLexeme
  | string token => token.toLexeme
  | keyword token => token.toLexeme

/-- The short description of a token: its type with what it stands for, or with its start. -/
def render : Token → String
  | plain token => token.type.label ++ "@" ++ toString token.start
  | name token => token.type.label ++ "(" ++ Text.quoted token.value ++ ")"
  | number token => token.type.label ++ "(" ++ token.value.text ++ ")"
  | string token =>
    token.type.label ++ "(" ++ Text.quoted token.escaped ++ ", " ++ token.flags.render ++ ")"
  | keyword token => token.type.label ++ "(" ++ token.keyword.label ++ ")"

/-- Equality of tokens: the same class and the same fields, where numbers are compared by what
they amount to. -/
def agrees : Token → Token → Bool
  | plain a, plain b => a == b
  | name a, name b => a == b
  | number a, number b =>
    a.toLexeme == b.toLexeme && a.value.agrees b.value && a.isInteger == b.isInteger &&
      a.isImaginary == b.isImaginary
  | string a, string b => a == b
  | keyword a, keyword b => a == b
  | _, _ => false

end Token

end SyntaxForest
