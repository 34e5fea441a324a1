import CryptoSurvey.Pattern.Basic

namespace CryptoSurvey.Pattern

open Text (CodeSet)

/-- Any one character of a set; a set of one character is that character. -/
def ofSet (s : CodeSet) : Pattern :=
  match s.ranges with
  | [(first, last)] => if first == last then .literal [Char.ofNat first] else .set s
  | _ => .set s

def parts : Pattern → List Pattern
  | .empty => []
  | .seq p q => p :: q.parts
  | p => [p]

def branches : Pattern → List Pattern
  | .alt p q => p :: q.branches
  | p => [p]

def joinLiterals : List Pattern → List Pattern
  | [] => []
  | .literal text :: rest =>
    match joinLiterals rest with
    | .literal more :: rest => .literal (text ++ more) :: rest
    | rest => .literal text :: rest
  | p :: rest => p :: joinLiterals rest

def ofParts : List Pattern → Pattern
  | [] => .empty
  | [p] => p
  | p :: rest => .seq p (ofParts rest)

def concat (ps : List Pattern) : Pattern :=
  ofParts (joinLiterals (ps.flatMap parts))

def ofBranches : List Pattern → Pattern
  | [] => .set ∅
  | [p] => p
  | p :: rest => .alt p (ofBranches rest)

def singleChar? : Pattern → Option Char
  | .literal [c] => some c
  | _ => none

def charSet? : Pattern → Option CodeSet
  | .set s => some s
  | _ => none

def commonParts (first : List Pattern) : List (List Pattern) → List Pattern
  | [] => first
  | ps :: rest =>
    commonParts (((first.zip ps).takeWhile fun x => x.1 == x.2).map Prod.fst) rest

/-- A choice between patterns. If all branches are sequences that begin alike, what they have in common
comes before the choice; each such step makes every branch shorter. -/
def alternationFrom : Nat → List Pattern → Pattern
  | 0, ps => ofBranches ps
  | fuel + 1, ps =>
    match ps.flatMap branches with
    | [] => .set ∅
    | [p] => p
    | p :: rest =>
      let ps := p :: rest
      match ps.mapM singleChar? with
      | some cs => ofSet (.ofRanges (cs.map fun c => (c.toNat, c.toNat)))
      | none =>
        match ps.mapM charSet? with
        | some sets => ofSet (sets.foldl .union ∅)
        | none =>
          let lists := ps.map parts
          let common := if lists.all (2 ≤ ·.length) then commonParts p.parts (rest.map parts) else []
          if common.isEmpty then ofBranches ps
          else
            concat (common ++
              [alternationFrom fuel (lists.map fun ps => concat (ps.drop common.length))])

def size : Pattern → Nat
  | .capture _ p => p.size + 1
  | .seq p q => p.size + q.size + 1
  | .alt p q => p.size + q.size + 1
  | .times p _ _ => p.size + 1
  | _ => 1

def alternation (ps : List Pattern) : Pattern :=
  alternationFrom (ps.foldl (fun n p => n + p.size) 1) ps

/-- Copies of a pattern one after the other. An empty stretch is the same as any number of its
copies. -/
def repeated (p : Pattern) (least : Nat) (most : Option Nat) : Pattern :=
  let (least, most) :=
    if p.onlyEmpty then (min least 1, some ((most.map (min · 1)).getD 1)) else (least, most)
  if most == some 0 then .empty
  else if least == 1 && most == some 1 then p
  else .times p least most

end CryptoSurvey.Pattern
