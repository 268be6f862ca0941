import Naco.Lib.Python

/-!
# Log redaction

The three substitutions that every log message goes through. Each expression is a function of the character
before a position and the text from there; where a part of it may be left out or repeated, what follows
cannot start with that part, so the longest choice is the only one. Which characters beyond ASCII are
letters or digits is a parameter.
-/

namespace Naco.Logging

open Py

/-- What an expression writes for a match, and how many characters that took. -/
abbrev Matcher := Option Char → List Char → Option (List Char × Nat)

/-- `pattern.sub`, with the character before the text and how many to pass over first. -/
def sub (matcher : Matcher) : Option Char → Nat → List Char → List Char
  | _, _, [] => []
  | _, skip + 1, c :: cs => sub matcher (some c) skip cs
  | previous, 0, c :: cs =>
      match matcher previous (c :: cs) with
      | some (written, length) => written ++ sub matcher (some c) (length - 1) cs
      | none => c :: sub matcher (some c) 0 cs

/-- `\w`. -/
def isWordChar (alnum : Char → Bool) (c : Char) : Bool :=
  c = '_' || (if isAscii c then c.isAlphanum else alnum c)

/-- `\b`. -/
def atBoundary (alnum : Char → Bool) (previous next : Option Char) : Bool :=
  previous.any (isWordChar alnum) != next.any (isWordChar alnum)

/-- The lower-case letter, ignoring case: four characters beyond ASCII match one of `i`, `k` and `s`. -/
def isLetter (letter c : Char) : Bool :=
  if isAscii c then c.toLower = letter
  else (letter, c) ∈ [('i', '\u0130'), ('i', '\u0131'), ('k', '\u212A'), ('s', '\u017F')]

/-- `[A-Za-z0-9]` and the others, ignoring case. -/
def isTokenChar (others : List Char) (c : Char) : Bool :=
  c.isAlphanum || c ∈ others || c ∈ ['\u0130', '\u0131', '\u212A', '\u017F']

/-- A piece of a keyword: a letter, or `[_-]?`. -/
inductive Piece where
  | letter (c : Char)
  | hyphen
  deriving DecidableEq, Repr

/-- What follows the keyword. -/
def dropKeyword : List Piece → List Char → Option (List Char)
  | [], cs => some cs
  | .letter _ :: _, [] => none
  | .letter letter :: pieces, c :: cs => if isLetter letter c then dropKeyword pieces cs else none
  | .hyphen :: pieces, c :: cs =>
      if c = '_' ∨ c = '-' then dropKeyword pieces cs else dropKeyword pieces (c :: cs)
  | .hyphen :: pieces, [] => dropKeyword pieces []

def lettersOf (word : String) : List Piece :=
  word.toList.map .letter

/-! ### The expressions -/

/-- `(?i)\b(bearer)\s+[A-Za-z0-9._~+/=-]+`, written as `\1 ***`. -/
def bearer (alnum : Char → Bool) : Matcher := fun previous cs =>
  if atBoundary alnum previous cs.head? then
    match dropKeyword (lettersOf "bearer") cs with
    | none => none
    | some rest =>
        let spaces := rest.takeWhile isSpace
        let token := (rest.dropWhile isSpace).takeWhile (isTokenChar ['.', '_', '~', '+', '/', '=', '-'])
        if spaces = [] ∨ token = [] then none
        else some (cs.take 6 ++ " ***".toList, 6 + spaces.length + token.length)
  else none

/-- `\bnaco_[A-Za-z0-9_-]{8,}`, written as `naco_***`. -/
def nacoToken (alnum : Char → Bool) : Matcher := fun previous cs =>
  if atBoundary alnum previous cs.head? && cs.take 5 = "naco_".toList then
    let token := (cs.drop 5).takeWhile fun c => c.isAlphanum || c = '_' || c = '-'
    if token.length < 8 then none else some ("naco_***".toList, 5 + token.length)
  else none

def keywords : List (List Piece) :=
  [lettersOf "password", lettersOf "passwd", lettersOf "pwd", lettersOf "secret", lettersOf "token",
    lettersOf "api" ++ .hyphen :: lettersOf "key", lettersOf "key", lettersOf "authorization",
    lettersOf "totp" ++ .hyphen :: lettersOf "code"]

/-- What follows `["']?\s*[=:]\s*`. -/
def dropAssignment (cs : List Char) : Option (List Char) :=
  let rest := match cs with
    | c :: rest => if c = '"' ∨ c = '\'' then rest else c :: rest
    | [] => []
  match rest.dropWhile isSpace with
  | c :: rest => if c = '=' ∨ c = ':' then some (rest.dropWhile isSpace) else none
  | [] => none

/-- What follows a value without quotes: `[^\s,;&}]+`. -/
def dropBare (cs : List Char) : Option (List Char) :=
  let bare := cs.takeWhile fun c => !isSpace c && c ∉ [',', ';', '&', '\x7d']
  if bare = [] then none else some (cs.drop bare.length)

/-- What follows `"[^"]*"|'[^']*'|[^\s,;&}]+`. -/
def dropValue (cs : List Char) : Option (List Char) :=
  match cs with
  | [] => none
  | c :: rest =>
      if c = '"' ∨ c = '\'' then
        match rest.dropWhile (· ≠ c) with
        | _ :: after => some after
        | [] => dropBare cs
      else dropBare cs

/-- `(?i)\b(password|…|totp[_-]?code)(["']?\s*[=:]\s*)(…)`, written as `\1\2***`. -/
def secret (alnum : Char → Bool) : Matcher := fun previous cs =>
  if atBoundary alnum previous cs.head? then
    keywords.findSome? fun keyword =>
      (dropKeyword keyword cs).bind fun rest =>
        (dropAssignment rest).bind fun value =>
          (dropValue value).map fun after =>
            (cs.take (cs.length - value.length) ++ "***".toList, cs.length - after.length)
  else none

/-- `redact`. -/
def redact (alnum : Char → Bool) (text : String) : String :=
  String.ofList (sub (secret alnum) none 0 (sub (nacoToken alnum) none 0
    (sub (bearer alnum) none 0 text.toList)))

/-- `json.dumps({key: value})`. -/
def dumpPair (key value : String) : String :=
  "\x7b" ++ dumpString key ++ ": " ++ dumpString value ++ "\x7d"

example : redact (fun _ => false) "login password=hunter2 ok" = "login password=*** ok" := by
  decide +kernel

end Naco.Logging
