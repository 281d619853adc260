/-
**References inside a value.**

A value is a sequence of tokens: plain characters, doubled dollar signs, and references to defined
names, bare or in braces. A text that breaks off inside a braced reference, or that holds a dollar
sign alone, ends with a token that stands for the mistake.

* `Token.read`: the tokens of a text;
* `Token.meaning`: what a token stands for under a table of definitions;
* `substitute`: the meanings of all tokens, or the mistake of the first token that has none.
-/

import StoreTopology.Section.Problem
import StoreTopology.SortedMap
import StoreTopology.Text.Lowercase

namespace StoreTopology

open Text

/-- The defined names, in lowercase, with their values. -/
abbrev Definitions := SortedMap String String

/-- A piece of a value. -/
inductive Token where
  /-- A character other than a dollar sign. -/
  | plain (c : Char)
  /-- Two dollar signs, which stand for one. -/
  | dollar
  /-- A name after a dollar sign. -/
  | bare (name : List Char)
  /-- A name in braces after a dollar sign. -/
  | braced (name : List Char)
  /-- An opening brace after a dollar sign, without a closing one. -/
  | unterminated (rest : List Char)
  /-- A dollar sign that begins nothing. -/
  | lone (rest : List Char)
deriving DecidableEq, Repr

namespace Token

/-- A bare name begins with an ASCII letter or an underscore. -/
def isBareStart (c : Char) : Bool := c.isAlpha || c = '_'

/-- A bare name goes on with ASCII letters, digits and underscores. -/
def isBareChar (c : Char) : Bool := c.isAlphanum || c = '_'

theorem length_dropWhile_le (p : Char → Bool) (text : List Char) :
    (text.dropWhile p).length ≤ text.length :=
  (List.dropWhile_sublist p).length_le

/-- The tokens of a text. -/
def read : List Char → List Token
  | [] => []
  | c :: rest =>
    if c ≠ '$' then plain c :: read rest
    else match rest with
      | [] => [lone []]
      | '$' :: after => dollar :: read after
      | '{' :: after =>
        match _found : after.dropWhile (· ≠ '}') with
        | [] => [unterminated after]
        | _ :: beyond => braced (after.takeWhile (· ≠ '}')) :: read beyond
      | start :: after =>
        if isBareStart start then
          bare (start :: after.takeWhile isBareChar) :: read (after.dropWhile isBareChar)
        else [lone (start :: after)]
termination_by text => text.length
decreasing_by
  all_goals
    have bareBound := length_dropWhile_le isBareChar
    have bracedBound := length_dropWhile_le (· ≠ '}')
    grind

/-- What a token stands for: a reference, bare or braced, stands for the value of its name without
regard to case. -/
def meaning (definitions : Definitions) : Token → Except ParseProblem (List Char)
  | plain c => .ok [c]
  | dollar => .ok ['$']
  | bare name => lookUp name
  | braced name => lookUp name
  | unterminated _ => .error .unterminatedReference
  | lone _ => .error .loneDollar
where
  lookUp (name : List Char) : Except ParseProblem (List Char) :=
    match definitions.get? (lowercased (.ofList name)) with
    | some value => .ok value.toList
    | none => .error (.undefinedName (.ofList name))

/-- The meanings of tokens one after another, up to the first mistake. -/
def expand (definitions : Definitions) : List Token → Except ParseProblem (List Char)
  | [] => .ok []
  | token :: rest =>
    match token.meaning definitions with
    | .error problem => .error problem
    | .ok text =>
      match expand definitions rest with
      | .error problem => .error problem
      | .ok later => .ok (text ++ later)

end Token

/-- Replace every reference of a text by the value of its name. A value put in is not read again. -/
def substitute (definitions : Definitions) (text : List Char) : Except ParseProblem (List Char) :=
  Token.expand definitions (Token.read text)

end StoreTopology
