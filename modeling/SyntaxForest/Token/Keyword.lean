import SyntaxForest.Labelled

/-!
# Keywords

The reserved words of the language. Four of them are constants.
-/

namespace SyntaxForest

inductive Keyword where
  | andWord | asWord | assertWord | asyncWord | awaitWord | breakWord | classWord | continueWord
  | debugWord | defWord | delWord | elifWord | elseWord | exceptWord | falseWord | finallyWord
  | forWord | fromWord | globalWord | ifWord | importWord | inWord | isWord | lambdaWord
  | noneWord | nonlocalWord | notWord | orWord | passWord | raiseWord | returnWord | trueWord
  | tryWord | whileWord | withWord | yieldWord
deriving DecidableEq, Repr

namespace Keyword

def label : Keyword → String
  | andWord => "AND"
  | asWord => "AS"
  | assertWord => "ASSERT"
  | asyncWord => "ASYNC"
  | awaitWord => "AWAIT"
  | breakWord => "BREAK"
  | classWord => "CLASS"
  | continueWord => "CONTINUE"
  | debugWord => "DEBUG"
  | defWord => "DEF"
  | delWord => "DEL"
  | elifWord => "ELIF"
  | elseWord => "ELSE"
  | exceptWord => "EXCEPT"
  | falseWord => "FALSE"
  | finallyWord => "FINALLY"
  | forWord => "FOR"
  | fromWord => "FROM"
  | globalWord => "GLOBAL"
  | ifWord => "IF"
  | importWord => "IMPORT"
  | inWord => "IN"
  | isWord => "IS"
  | lambdaWord => "LAMBDA"
  | noneWord => "NONE"
  | nonlocalWord => "NONLOCAL"
  | notWord => "NOT"
  | orWord => "OR"
  | passWord => "PASS"
  | raiseWord => "RAISE"
  | returnWord => "RETURN"
  | trueWord => "TRUE"
  | tryWord => "TRY"
  | whileWord => "WHILE"
  | withWord => "WITH"
  | yieldWord => "YIELD"

instance : Labelled Keyword where
  all :=
    [.andWord, .asWord, .assertWord, .asyncWord, .awaitWord, .breakWord, .classWord,
      .continueWord, .debugWord, .defWord, .delWord, .elifWord, .elseWord, .exceptWord,
      .falseWord, .finallyWord, .forWord, .fromWord, .globalWord, .ifWord, .importWord, .inWord,
      .isWord, .lambdaWord, .noneWord, .nonlocalWord, .notWord, .orWord, .passWord, .raiseWord,
      .returnWord, .trueWord, .tryWord, .whileWord, .withWord, .yieldWord]
  label := label

def text : Keyword → String
  | andWord => "and"
  | asWord => "as"
  | assertWord => "assert"
  | asyncWord => "async"
  | awaitWord => "await"
  | breakWord => "break"
  | classWord => "class"
  | continueWord => "continue"
  | debugWord => "__debug__"
  | defWord => "def"
  | delWord => "del"
  | elifWord => "elif"
  | elseWord => "else"
  | exceptWord => "except"
  | falseWord => "False"
  | finallyWord => "finally"
  | forWord => "for"
  | fromWord => "from"
  | globalWord => "global"
  | ifWord => "if"
  | importWord => "import"
  | inWord => "in"
  | isWord => "is"
  | lambdaWord => "lambda"
  | noneWord => "None"
  | nonlocalWord => "nonlocal"
  | notWord => "not"
  | orWord => "or"
  | passWord => "pass"
  | raiseWord => "raise"
  | returnWord => "return"
  | trueWord => "True"
  | tryWord => "try"
  | whileWord => "while"
  | withWord => "with"
  | yieldWord => "yield"

def ofText? (s : String) : Option Keyword :=
  (Labelled.all : List Keyword).find? fun keyword => keyword.text == s

/-- The spelling of a keyword that denotes a value. -/
def constant? : Keyword → Option String
  | trueWord => some "True"
  | falseWord => some "False"
  | debugWord => some "__debug__"
  | noneWord => some "None"
  | _ => none

end Keyword

end SyntaxForest
