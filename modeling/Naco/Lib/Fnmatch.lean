import Naco.Lib.Text
import Mathlib.Data.List.Infix

/-!
# Shell patterns

`fnmatch.fnmatchcase`: `*` stands for any run of characters, `?` for one, `[…]` for one of a set, and
every other character for itself. `fnmatch` translates a pattern to a regular expression; the tokens
below are what that expression matches, piece by piece.
-/

namespace Py.Fnmatch

/-- One piece of a translated pattern. A set holds inclusive ranges. -/
inductive Token where
  | star
  | one
  | literal (c : Char)
  | set (negated : Bool) (ranges : List (Char × Char))
  deriving DecidableEq, Repr

/-- Splits what follows a `[` at the bracket that closes it. A `]` that comes first, perhaps after
a `!`, belongs to the set. -/
def splitSet (cs : List Char) : Option (List Char × List Char) :=
  let (negation, rest) := match cs with
    | '!' :: rest => (['!'], rest)
    | rest => ([], rest)
  let (bracket, rest) := match rest with
    | ']' :: rest => ([']'], rest)
    | rest => ([], rest)
  match rest.span (· ≠ ']') with
  | (stuff, _ :: rest) => some (negation ++ bracket ++ stuff, rest)
  | (_, []) => none

/-- The pieces of a set between the hyphens that make ranges. The search for a hyphen leaves out
the first `skip` characters. -/
def chunks : Nat → Nat → List Char → List (List Char)
  | 0, _, stuff => [stuff]
  | fuel + 1, skip, stuff =>
      match (stuff.drop skip).span (· ≠ '-') with
      | (_, []) => [stuff]
      | (head, _ :: rest) =>
          let chunk := stuff.take skip ++ head
          if rest = [] then [chunk ++ ['-']] else chunk :: chunks fuel 2 rest

/-- Drops the ranges whose ends are out of order, from the right. -/
def mergeChunks (parts : List (List Char)) : List (List Char) :=
  parts.foldr (fun chunk merged =>
    match merged with
    | next :: later =>
        if next.headD 'a' < chunk.getLastD 'a' then
          (chunk.dropLast ++ next.tail) :: later
        else
          chunk :: next :: later
    | [] => [chunk]) []

/-- The ranges a list of chunks stands for: each character, and one range between neighbours. -/
def chunkRanges : List (List Char) → List (Char × Char)
  | [] => []
  | [chunk] => chunk.map fun c => (c, c)
  | chunk :: next :: later =>
      chunk.map (fun c => (c, c)) ++
        (chunk.getLastD 'a', next.headD 'a') :: chunkRanges (next :: later)

/-- The token for the inside of a set. An empty set matches nothing, its negation anything. -/
def setToken (stuff : List Char) : Token :=
  let parts :=
    if '-' ∈ stuff then
      mergeChunks (chunks stuff.length (if stuff.head? = some '!' then 2 else 1) stuff)
    else
      [stuff]
  match parts with
  | ('!' :: chunk) :: later => .set true (chunkRanges (chunk :: later))
  | parts => .set false (chunkRanges parts)

/-- `fnmatch.translate`. The fuel is the length of the pattern. -/
def translate : Nat → List Char → List Token
  | 0, _ => []
  | _ + 1, [] => []
  | fuel + 1, '*' :: cs => .star :: translate fuel cs
  | fuel + 1, '?' :: cs => .one :: translate fuel cs
  | fuel + 1, '[' :: cs =>
      match splitSet cs with
      | some (stuff, rest) => setToken stuff :: translate fuel rest
      | none => .literal '[' :: translate fuel cs
  | fuel + 1, c :: cs => .literal c :: translate fuel cs

def Token.matchesOne : Token → Char → Bool
  | .star, _ => false
  | .one, _ => true
  | .literal d, c => c = d
  | .set negated ranges, c => negated ^^ ranges.any fun range => range.1 ≤ c && c ≤ range.2

def matchTokens : List Token → List Char → Bool
  | [], cs => cs.isEmpty
  | .star :: tokens, cs => cs.tails.any (matchTokens tokens)
  | token :: tokens, cs =>
      match cs with
      | [] => false
      | c :: cs => token.matchesOne c && matchTokens tokens cs

/-- `fnmatchcase(name, pattern)`. -/
def fnmatchcase (name pattern : String) : Bool :=
  matchTokens (translate pattern.toList.length pattern.toList) name.toList

theorem matchTokens_star (cs : List Char) : matchTokens [.star] cs = true := by
  simp only [matchTokens, List.any_eq_true]
  exact ⟨[], (List.mem_tails [] cs).mpr (List.nil_suffix), rfl⟩

/-- The pattern `*` matches every text. -/
theorem fnmatchcase_star (name : String) : fnmatchcase name "*" = true :=
  matchTokens_star name.toList

example : fnmatchcase "svc-x" "svc-[!a-w]" = true := by decide

end Py.Fnmatch
