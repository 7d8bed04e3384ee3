import LayeredConfig.Pattern.Basic

set_option autoImplicit false

/-!
# Matching

Backtracking search. An expression is run at a place with a continuation, which tells whether the
rest can be matched; choices are tried in order of preference until the continuation succeeds.

## Main definitions

* `Node.run` — runs an expression.
* `Node.search` — whether an expression matches somewhere in a text.
-/

namespace LayeredConfig.Pattern

/-- Where a match stands: the place reached, and what groups have captured. -/
structure Place where
  /-- The number of characters before the place. -/
  pos : Nat
  /-- The first and the last place of what each group captured last. -/
  captures : List (Nat × Nat × Nat)

/-- What remains to be matched. -/
abbrev Rest := Place → Option Place

/-- What a group has captured last. -/
def Place.captured? (p : Place) (index : Nat) : Option (Nat × Nat) :=
  (p.captures.find? (·.1 = index)).map (·.2)

/-- Whether an anchor holds at a place. -/
def Anchor.holds (text : Array Char) (pos : Nat) : Anchor → Bool
  | .textStart => pos == 0
  | .lineStart => pos == 0 || text[pos - 1]? == some '\n'
  | .textEnd => pos == text.size
  | .finalEnd => pos == text.size || (pos + 1 == text.size && text[pos]? == some '\n')
  | .lineEnd => pos == text.size || text[pos]? == some '\n'
  | .wordBorder ascii outside =>
    let isWord (c : Option Char) : Bool := match c with
      | some c => CharClass.word.contains ascii c
      | none => false
    if text.isEmpty then false
    else ((isWord (if pos = 0 then none else text[pos - 1]?)) != isWord text[pos]?) != outside

/-- Moves over one character, if there is one that satisfies a condition. -/
def stepOver (text : Array Char) (ok : Char → Bool) (p : Place) (rest : Rest) : Option Place :=
  match text[p.pos]? with
  | some c => if ok c then rest { p with pos := p.pos + 1 } else none
  | none => none

/-- Whether the captured text stands at a place as well. -/
def repeats (text : Array Char) (fold : Fold) (start : Nat) : (length pos : Nat) → Bool
  | 0, _ => true
  | n + 1, pos =>
    match text[start]?, text[pos]? with
    | some a, some b => fold.same a.toNat b.toNat && repeats text fold (start + 1) n (pos + 1)
    | _, _ => false

/-- Repeats a step. The number of repetitions so far is `count`; once it is large enough, a
repetition that does not move ends the loop. At most `fuel` repetitions are made. -/
def iterate (step : Place → Rest → Option Place) (lazily : Bool) (least : Nat)
    (most : Option Nat) (rest : Rest) : (fuel count : Nat) → Place → Option Place
  | 0, count, p => if least ≤ count then rest p else none
  | fuel + 1, count, p =>
    if count < least then step p (iterate step lazily least most rest fuel (count + 1))
    else
      let more (_ : Unit) : Option Place :=
        if most.any (· ≤ count) then none
        else step p fun q =>
          if q.pos = p.pos then rest q
          else iterate step lazily least most rest fuel (count + 1) q
      if lazily then
        match rest p with
        | some q => some q
        | none => more ()
      else
        match more () with
        | some q => some q
        | none => rest p

/-- Repeats a step as often as possible, taking of each repetition the first match only. The
number of repetitions so far is `count`; it has to reach `least`. -/
def exhaust (step : Place → Rest → Option Place) (least : Nat) (most : Option Nat) :
    (fuel count : Nat) → Place → Option Place
  | 0, count, p => if least ≤ count then some p else none
  | fuel + 1, count, p =>
    if most.any (· ≤ count) && least ≤ count then some p
    else
      match step p some with
      | some q =>
        if least ≤ count && q.pos = p.pos then some q
        else exhaust step least most fuel (count + 1) q
      | none => if least ≤ count then some p else none

/-- Runs an expression at a place. -/
def Node.run (text : Array Char) : Node → Place → Rest → Option Place
  | .empty, p, rest => rest p
  | .char fold code, p, rest => stepOver text (fun c => fold.same code c.toNat) p rest
  | .set fold outside items, p, rest =>
    stepOver text (fun c => items.any (·.contains fold c) != outside) p rest
  | .any lineFeeds, p, rest => stepOver text (fun c => lineFeeds || c != '\n') p rest
  | .anchor a, p, rest => if a.holds text p.pos then rest p else none
  | .cat first second, p, rest => run text first p fun q => run text second q rest
  | .alt first second, p, rest =>
    match run text first p rest with
    | some q => some q
    | none => run text second p rest
  | .repeated greed least most body, p, rest =>
    let fuel := least + (text.size - p.pos) + 1
    match greed with
    | .greedy => iterate (run text body) false least most rest fuel 0 p
    | .lazy => iterate (run text body) true least most rest fuel 0 p
    | .possessive =>
      match exhaust (run text body) least most fuel 0 p with
      | some q => rest q
      | none => none
  | .group index body, p, rest =>
    run text body p fun q => rest { q with captures := (index, p.pos, q.pos) :: q.captures }
  | .backreference fold index, p, rest =>
    match p.captured? index with
    | some (first, last) =>
      if repeats text fold first (last - first) p.pos then
        rest { p with pos := p.pos + (last - first) }
      else none
    | none => none
  | .conditional index yes no, p, rest =>
    if (p.captured? index).isSome then run text yes p rest else run text no p rest
  | .atomic body, p, rest =>
    match run text body p some with
    | some q => rest q
    | none => none
  | .ahead negated body, p, rest =>
    match run text body p some with
    | some q => if negated then none else rest { q with pos := p.pos }
    | none => if negated then rest p else none
  | .behind negated width body, p, rest =>
    let found :=
      if p.pos < width then none
      else
        run text body { p with pos := p.pos - width } fun q =>
          if q.pos = p.pos then some q else none
    match found with
    | some q => if negated then none else rest { q with pos := p.pos }
    | none => if negated then rest p else none

/-- Whether an expression matches at one of the places from `pos` on, at most `fuel` of them. -/
def Node.searchFrom (r : Node) (text : Array Char) : (fuel pos : Nat) → Bool
  | 0, _ => false
  | fuel + 1, pos =>
    (r.run text ⟨pos, []⟩ some).isSome || r.searchFrom text fuel (pos + 1)

/-- Whether an expression matches somewhere in a text. -/
def Node.search (r : Node) (text : String) : Bool :=
  let cs := text.toList.toArray
  r.searchFrom cs (cs.size + 1) 0

end LayeredConfig.Pattern
