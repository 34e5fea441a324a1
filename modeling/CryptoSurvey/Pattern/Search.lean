import CryptoSurvey.Pattern.Basic

namespace CryptoSurvey

open Text (CodeSet)

/-- A pattern whose character sets carry marks. A composite pattern knows whether it has any. -/
inductive MarkedPattern where
  | empty
  | set (marked : Bool) (s : CodeSet)
  | look (l : Look)
  | seq (marked : Bool) (p q : MarkedPattern)
  | alt (marked : Bool) (p q : MarkedPattern)
  /-- Any number of copies. -/
  | star (marked : Bool) (p : MarkedPattern)

namespace MarkedPattern

def marked : MarkedPattern → Bool
  | .empty => false
  | .set m _ => m
  | .look _ => false
  | .seq m _ _ => m
  | .alt m _ _ => m
  | .star m _ => m

def andThen (p q : MarkedPattern) : MarkedPattern :=
  .seq (p.marked || q.marked) p q

def orElse (p q : MarkedPattern) : MarkedPattern :=
  .alt (p.marked || q.marked) p q

def anyNumber (p : MarkedPattern) : MarkedPattern :=
  .star p.marked p

def copies (p : MarkedPattern) (n : Nat) : MarkedPattern :=
  if h : n < 2 then if n = 0 then .empty else p
  else
    let half := copies p (n / 2)
    if n % 2 = 0 then half.andThen half else (half.andThen half).andThen p
termination_by n
decreasing_by omega

def times (p : MarkedPattern) (least : Nat) : Option Nat → MarkedPattern
  | none => (p.copies least).andThen p.anyNumber
  | some most => (p.copies least).andThen ((p.orElse .empty).copies (most - least))

def ofText : List Char → MarkedPattern
  | [] => .empty
  | c :: rest => andThen (.set false (.single c.toNat)) (ofText rest)

def ofPattern : Pattern → MarkedPattern
  | .empty => .empty
  | .literal text => ofText text
  | .set s => .set false s
  | .look l => .look l
  | .capture _ p => ofPattern p
  | .seq p q => (ofPattern p).andThen (ofPattern q)
  | .alt p q => (ofPattern p).orElse (ofPattern q)
  | .times p least most => (ofPattern p).times least most

def ends (here : Place) (enter : Bool) : MarkedPattern → Bool
  | .empty => enter
  | .set m _ => m
  | .look l => enter && l.holds here
  | .seq m p q => (enter || m) && ends here (ends here enter p) q
  | .alt m p q => (enter || m) && (ends here enter p || ends here enter q)
  | .star m p => enter || (m && ends here false p)

def step (here : Place) (c : Char) (enter : Bool) : MarkedPattern → MarkedPattern
  | .empty => .empty
  | .set _ s => .set (enter && s.contains c.toNat) s
  | .look l => .look l
  | .seq m p q =>
    if enter || m then andThen (step here c enter p) (step here c (ends here enter p) q)
    else .seq m p q
  | .alt m p q =>
    if enter || m then orElse (step here c enter p) (step here c enter q) else .alt m p q
  | .star m p =>
    if enter || m then anyNumber (step here c (enter || ends here false p) p) else .star m p

/-- A match that begins anywhere in the rest of a text, or is under way, ends in it. -/
def occursFrom (p : MarkedPattern) (before : Option Char) : List Char → Bool
  | [] => p.ends ⟨before, none⟩ true
  | c :: rest =>
    let here : Place := ⟨before, some c⟩
    p.ends here true || (p.step here c true).occursFrom (some c) rest

end MarkedPattern

def Pattern.occursIn (p : Pattern) (text : String) : Bool :=
  (MarkedPattern.ofPattern p).occursFrom none text.toList

end CryptoSurvey
