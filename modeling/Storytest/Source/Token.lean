import Storytest.Text.Quoted

/-!
# Tokens of source text

Source text is a list of token trees: words, lifetimes, marks, literals, and groups in delimiters.
A mark knows whether it is joined to the mark behind it, so operators of several characters are
written without blanks. `Token.display` separates all other tokens by one blank.
-/

namespace Storytest.Source

/-- What a group is enclosed in. -/
inductive Delimiter where
  | parenthesis
  | bracket
  | brace
  deriving DecidableEq, Repr

/-- A token tree. -/
inductive Token where
  /-- A keyword or an identifier; a raw identifier keeps its `r#`. -/
  | word (text : String)
  /-- A lifetime, without its apostrophe. -/
  | lifetime (name : String)
  /-- A mark, and whether it is joined to the next one. -/
  | mark (char : Char) (joint : Bool)
  /-- A literal as it is written. -/
  | literal (text : String)
  | group (delimiter : Delimiter) (content : List Token)
  deriving Inhabited

namespace Token

/-! ## Written form -/

/-- No blank follows the token. -/
def isJoint : Token → Bool
  | .mark _ joint => joint
  | _ => false

/-- A text between delimiters; braces keep blanks inside. -/
def enclose (delimiter : Delimiter) (content : String) : String :=
  match delimiter with
  | .parenthesis => "(" ++ content ++ ")"
  | .bracket => "[" ++ content ++ "]"
  | .brace => if content = "" then "\x7b \x7d" else "\x7b " ++ content ++ " \x7d"

mutual

/-- The written form of a token. -/
def display : Token → String
  | .word text => text
  | .lifetime name => "'" ++ name
  | .mark char _ => char.toString
  | .literal text => text
  | .group delimiter content => enclose delimiter (displayAll content)

/-- The written form of tokens, with one blank between any two that are not joined. -/
def displayAll : List Token → String
  | [] => ""
  | [token] => display token
  | token :: next :: rest =>
    display token ++ (if token.isJoint then "" else " ") ++ displayAll (next :: rest)

end

/-! ## Building tokens -/

/-- An operator: its marks, joined. -/
def op (marks : String) : List Token :=
  join marks.toList
where
  /-- Marks, each but the last joined to the next. -/
  join : List Char → List Token
    | [] => []
    | [c] => [.mark c false]
    | c :: rest => .mark c true :: join rest

/-- A word, as a list of tokens. -/
def ident (text : String) : List Token := [.word text]

/-- Tokens in parentheses. -/
def parens (content : List Token) : List Token := [.group .parenthesis content]

/-- Tokens in brackets. -/
def brackets (content : List Token) : List Token := [.group .bracket content]

/-- Tokens in braces. -/
def braces (content : List Token) : List Token := [.group .brace content]

/-- A literal that writes a text. -/
def quoted (text : String) : List Token := [.literal (Text.quote text)]

/-- Lists of tokens with a separator between any two. -/
def separated (separator : List Token) : List (List Token) → List Token
  | [] => []
  | [tokens] => tokens
  | tokens :: rest => tokens ++ separator ++ separated separator rest

/-- A path that starts with `::`. -/
def rooted (names : List String) : List Token :=
  names.flatMap fun name => op "::" ++ ident name

mutual

/-- The number of tokens, those inside groups included. -/
def size : Token → Nat
  | .group _ content => 1 + sizeAll content
  | _ => 1

/-- The number of tokens in a list, those inside groups included. -/
def sizeAll : List Token → Nat
  | [] => 0
  | token :: rest => size token + sizeAll rest

end

end Token

end Storytest.Source
