/-
# Parsing tokens

Outside argument lists every token is literal, except that a call word followed by an opening
parenthesis begins a call.  An argument is a number, a string, a word, a call, or an argument
between parentheses; blanks around arguments mean nothing.
-/
import Sigil.Node.Basic
import Sigil.Text.Quoted
import Sigil.Token.Scan

namespace Sigil

/-- What is wrong with a list of tokens. -/
inductive ParseError where
  /-- The tokens end where a parenthesis has to close. -/
  | unclosed (ending : Token)
  /-- Another token stands where a parenthesis has to close. -/
  | expectedClose (found : Token)
  /-- A token that begins no argument. -/
  | unexpected (found : Token)
  /-- Parentheses around nothing. -/
  | emptyGroup (opening : Token)
  /-- An error that a host reports in its own words. -/
  | stated (message : String)
deriving Repr, DecidableEq

namespace ParseError

/-- The wording of a parse error. -/
def message : ParseError → String
  | unclosed _ => "Expected closing parenthesis ')'"
  | expectedClose t => "Expected closing parenthesis ')': " ++ Text.quoted t.text
  | unexpected t => "Unexpected token: " ++ Text.quoted t.text
  | emptyGroup _ => "Empty parenthesized expression"
  | stated m => m

/-- The token a parse error is about. -/
def token? : ParseError → Option Token
  | unclosed t => some t
  | expectedClose t => some t
  | unexpected t => some t
  | emptyGroup t => some t
  | stated _ => none

end ParseError

/-- An ASCII letter or the low line. -/
def isNameStart (c : Char) : Bool := c.isAlpha || c == '_'

/-- A character that may stand inside a bare name. -/
def isNameChar (c : Char) : Bool :=
  c.isAlphanum || c == '_' || c == '.' || c == '$' || c == '-'

/-- A word that is a bare name. -/
def isBareName (word : String) : Bool :=
  match word.toList with
  | [] => false
  | c :: rest => isNameStart c && rest.all isNameChar

/-- The expression that a word is inside an argument list. -/
def wordNode (word : String) : Node := if isBareName word then .ident word else .text word

/-- The name a call word calls. -/
def calledName (word : String) : String := String.ofList (Text.lower (word.toList.drop 1))

/-- The tokens after the blanks. -/
def skipBlanks (ts : List Token) : List Token := ts.dropWhile Token.isBlank

/-- The tokens after a closing parenthesis, which has to come first. -/
def expectClose (ending : Token) : List Token → Except ParseError (List Token)
  | [] => .error (.unclosed ending)
  | t :: rest => if t.kind == .closing then .ok rest else .error (.expectedClose t)

/-- The list begins with an opening parenthesis. -/
def startsOpening : List Token → Bool
  | t :: _ => t.kind == .opening
  | [] => false

/-- The list begins with a closing parenthesis. -/
def startsClosing : List Token → Bool
  | t :: _ => t.kind == .closing
  | [] => false

mutual

/-- The argument at the start of a list of tokens, and the tokens after it. -/
def parseArgument (ending : Token) : Nat → List Token → Except ParseError (Node × List Token)
  | 0, _ => .error (.unclosed ending)
  | _ + 1, [] => .error (.unclosed ending)
  | fuel + 1, t :: rest =>
    match t.kind with
    | .number => .ok (.number t.text, rest)
    | .string => .ok (.string t.text, rest)
    | .text => .ok (wordNode t.text, rest)
    | .call =>
      if startsOpening rest then parseCall ending fuel t (rest.drop 1) else .ok (.text t.text, rest)
    | .opening =>
      if startsClosing (skipBlanks rest) then .error (.emptyGroup t)
      else do
        let (inner, after) ← parseArgument ending fuel (skipBlanks rest)
        let last ← expectClose ending (skipBlanks after)
        pure (inner, last)
    | _ => .error (.unexpected t)

/-- The call of a call word, from the tokens after its opening parenthesis. -/
def parseCall (ending : Token) : Nat → Token → List Token → Except ParseError (Node × List Token)
  | 0, _, _ => .error (.unclosed ending)
  | fuel + 1, word, ts =>
    if startsClosing (skipBlanks ts) then
      .ok (.call (calledName word.text) word.text [], (skipBlanks ts).drop 1)
    else do
      let (args, last) ← parseArguments ending fuel ts
      pure (.call (calledName word.text) word.text args, last)

/-- The arguments up to the closing parenthesis, and the tokens after it. -/
def parseArguments (ending : Token) : Nat → List Token → Except ParseError (List Node × List Token)
  | 0, _ => .error (.unclosed ending)
  | fuel + 1, ts => do
    let (arg, after) ← parseArgument ending fuel (skipBlanks ts)
    match skipBlanks after with
    | [] => .error (.unclosed ending)
    | t :: rest =>
      if t.kind == .comma then
        let (args, last) ← parseArguments ending fuel rest
        pure (arg :: args, last)
      else if t.kind == .closing then pure ([arg], rest)
      else .error (.expectedClose t)

end

/-- The expressions of a list of tokens, one for each top-level item. -/
def parseItems (ending : Token) : Nat → List Token → Except ParseError (List Node)
  | 0, _ => .ok []
  | _ + 1, [] => .ok []
  | fuel + 1, t :: rest =>
    if t.kind == .call && startsOpening rest then do
      let (node, after) ← parseCall ending (3 * rest.length + 3) t (rest.drop 1)
      let nodes ← parseItems ending fuel after
      pure (node :: nodes)
    else do
      let nodes ← parseItems ending fuel rest
      pure ((if t.kind == .number then Node.number t.text else Node.text t.text) :: nodes)

/-- Adjacent texts become one. -/
def mergeTexts : List Node → List Node
  | [] => []
  | .text s :: rest =>
    match mergeTexts rest with
    | .text t :: more => .text (s ++ t) :: more
    | more => .text s :: more
  | node :: rest => node :: mergeTexts rest

/-- The expressions of the tokens before the final mark. -/
def parseBody (ending : Token) (ts : List Token) : Except ParseError (List Node) :=
  (parseItems ending ts.length ts).map mergeTexts

/-- A list of tokens that does not end with the final mark. -/
def unterminatedTokens : String := "token list must be terminated by an 'end' token"

/-- The expressions of a list of tokens, which end at the first final mark; none if the last token
is not such a mark. -/
def parse? (tokens : List Token) : Option (Except ParseError (List Node)) :=
  match tokens.getLast? with
  | some last =>
    if last.kind == .ending then
      let isEnd (t : Token) : Bool := t.kind == .ending
      some (parseBody ((tokens.find? isEnd).getD last) (tokens.takeWhile fun t => !isEnd t))
    else none
  | none => none

end Sigil
