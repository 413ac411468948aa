/-
  Wildcards in words: patterns that texts and names of files may fit. Quoted characters stand for
  themselves.
-/
import Playbook.Shell.Files
import Playbook.Glob

namespace Playbook.Shell

open Playbook.Text

/-- A character and whether it is quoted. -/
abbrev Marked := Char × Bool

/-- The characters of a class by its name, as ranges. -/
def classRanges (name : String) : List (Char × Char) :=
  match name with
  | "alnum" => [('0', '9'), ('A', 'Z'), ('a', 'z')]
  | "alpha" => [('A', 'Z'), ('a', 'z')]
  | "blank" => [(' ', ' '), ('\t', '\t')]
  | "cntrl" => [('\x00', '\x1f'), ('\x7f', '\x7f')]
  | "digit" => [('0', '9')]
  | "graph" => [('!', '~')]
  | "lower" => [('a', 'z')]
  | "print" => [(' ', '~')]
  | "punct" => [('!', '/'), (':', '@'), ('[', '\x60'), ('\x7b', '~')]
  | "space" => [('\t', '\r'), (' ', ' ')]
  | "upper" => [('A', 'Z')]
  | "xdigit" => [('0', '9'), ('A', 'F'), ('a', 'f')]
  | _ => []

namespace Wildcard

/-- The name of a class behind `[:`, and what follows `:]`. -/
def className? (cs : List Marked) : Option (String × List Marked) :=
  let plain := cs.map Prod.fst
  let name := plain.takeWhile (· != ':')
  match plain.drop name.length with
  | ':' :: ']' :: _ => some (String.ofList name, cs.drop (name.length + 2))
  | _ => none

/-- The ranges between brackets and what follows the closing one, which is not the first
character; none if there is no closing bracket. -/
def body? : (steps : Nat) → (first : Bool) → List Marked → Option (List (Char × Char) × List Marked)
  | 0, _, _ => none
  | _, _, [] => none
  | n + 1, first, (c, quoted) :: rest =>
    if c == ']' && !quoted && !first then some ([], rest)
    else
      let named := if c == '[' && !quoted && rest.head? == some (':', false)
        then className? rest.tail else none
      match named with
      | some (name, after) =>
        (body? n false after).map fun (rs, after) => (classRanges name ++ rs, after)
      | none =>
        match rest with
        | ('-', false) :: (d, dquoted) :: after =>
          if d == ']' && !dquoted then
            (body? n false rest).map fun (rs, after) => ((c, c) :: rs, after)
          else (body? n false after).map fun (rs, after) => ((c, d) :: rs, after)
        | _ => (body? n false rest).map fun (rs, after) => ((c, c) :: rs, after)

/-- A class behind its opening bracket. -/
def bracket? (cs : List Marked) : Option (Glob.Token × List Marked) :=
  let (negated, inner) := match cs with
    | ('!', false) :: rest => (true, rest)
    | _ => (false, cs)
  (body? (inner.length + 1) true inner).map fun (ranges, after) =>
    (if negated then .except ranges else .within ranges, after)

/-- The wildcards of a word. A backslash that is not quoted quotes the next character. -/
def tokensFrom : (steps : Nat) → List Marked → List Glob.Token
  | 0, _ => []
  | _, [] => []
  | n + 1, (c, quoted) :: rest =>
    if quoted then .char c :: tokensFrom n rest
    else
      match c with
      | '*' => .anyText :: tokensFrom n rest
      | '?' => .anyChar :: tokensFrom n rest
      | '\\' =>
        match rest with
        | (d, _) :: rest => .char d :: tokensFrom n rest
        | [] => [.char c]
      | '[' =>
        match bracket? rest with
        | some (token, rest) => token :: tokensFrom n rest
        | none => .char c :: tokensFrom n rest
      | _ => .char c :: tokensFrom n rest

/-- The wildcards of a whole word. -/
def tokens (cs : List Marked) : List Glob.Token := tokensFrom (cs.length + 1) cs

/-- Whether a word has wildcards. -/
def isWild (cs : List Marked) : Bool :=
  cs.any fun (c, quoted) => !quoted && (c == '*' || c == '?' || c == '[')

/-- The parts of a word between its slashes. -/
def segments : List Marked → List (List Marked)
  | [] => [[]]
  | c :: cs =>
    if c.1 == '/' then [] :: segments cs
    else
      match segments cs with
      | [] => [[c]]
      | p :: ps => (c :: p) :: ps

/-- The names in the directory that a beginning of a path leads to, with the directory itself and
the one above it. -/
def namesIn (d : Disk) (path : String) : List String :=
  let dir := if path.isEmpty then "." else path
  if Files.isDirectory d dir then "." :: ".." :: Files.names d dir else []

/-- The paths that the rest of a word stands for, behind the beginning of a path. A name that
begins with a point fits only what does so, too. -/
def pathsFrom (d : Disk) : (path : String) → List (List Marked) → List String
  | _, [] => []
  | path, [last] =>
    if isWild last then (fitting path last).map (path ++ ·)
    else
      let whole := path ++ String.ofList (last.map Prod.fst)
      if (Files.find? d whole false).isSome then [whole] else []
  | path, s :: rest =>
    if isWild s then
      (fitting path s).flatMap fun name =>
        if Files.isDirectory d (path ++ name) then pathsFrom d (path ++ name ++ "/") rest
        else []
    else pathsFrom d (path ++ String.ofList (s.map Prod.fst) ++ "/") rest
where
  /-- The names that fit a segment. -/
  fitting (path : String) (segment : List Marked) : List String :=
    let ts := tokens segment
    let dotted := (segment.head?.map Prod.fst) == some '.'
    (namesIn d path).filter fun name =>
      (dotted || !name.startsWith ".") && Glob.fits ts name.toList

/-- The paths of files that a word stands for, in order. -/
def paths (d : Disk) (word : List Marked) : List String :=
  (pathsFrom d "" (segments word)).mergeSort fun a b => a ≤ b

end Wildcard

end Playbook.Shell
