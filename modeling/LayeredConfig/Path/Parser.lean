import LayeredConfig.Path.Basic
import LayeredConfig.Fault
import LayeredConfig.Number.Literal
import LayeredConfig.Text.Case

set_option autoImplicit false

/-!
# Reading paths

A path is a sequence of segments separated by dots. A segment is a name, which holds no dot and no
bracket, followed by any number of indexes: digits of ASCII in brackets.

## Main definitions

* `Path.parse` — reads a path, or tells where the text stops being one.
* `Path.parseKey` — reads a key as stores do: regardless of letter case.
-/

namespace LayeredConfig.Path

/-- Whether a character may stand in a name. -/
def isNameChar (c : Char) : Bool :=
  c ≠ '.' && c ≠ '[' && c ≠ ']'

/-- A part of `text`, `offset` characters from its start, is wrong. -/
def malformed {α : Type} (text : String) (offset : Nat) (fragment : List Char)
    (reason : PathError.Reason) : Except Fault α :=
  .error (.path ⟨text, String.ofList fragment, offset, reason⟩)

mutual

/-- Reads a segment and what follows it. The characters are those of `text` from `offset` on. -/
def parseSegment (text : String) (offset : Nat) (cs : List Char) : Except Fault Path :=
  let name := cs.takeWhile isNameChar
  if name.isEmpty then malformed text offset (cs.take 1) .expectedKey
  else do
    let rest ← parseRest text (offset + name.length) (cs.dropWhile isNameChar)
    return .key (String.ofList name) :: rest
termination_by (cs.length, 1)
decreasing_by
  have := (List.dropWhile_suffix isNameChar (l := cs)).length_le
  omega

/-- Reads what follows a name or an index: indexes, and a separator with more segments. -/
def parseRest (text : String) (offset : Nat) (cs : List Char) : Except Fault Path :=
  match cs with
  | [] => .ok []
  | '[' :: rest =>
    let digits := rest.takeWhile (· ≠ ']')
    match h : rest.dropWhile (· ≠ ']') with
    | [] => malformed text offset ('[' :: rest) .unbalancedBracket
    | _ :: after =>
      if digits.isEmpty || !digits.all Text.isAsciiDigit then
        malformed text offset ('[' :: digits ++ [']']) .invalidIndex
      else if Number.digitLimit < digits.length then .error (.tooManyDigits digits.length)
      else do
        let steps ← parseRest text (offset + digits.length + 2) after
        return .index (Text.ofDigits digits) :: steps
  | '.' :: [] => malformed text offset ['.'] .trailingSeparator
  | '.' :: c :: rest => parseSegment text (offset + 1) (c :: rest)
  | c :: rest => malformed text offset (c :: rest) .unexpectedCharacter
termination_by (cs.length, 0)
decreasing_by
  · have := (List.dropWhile_suffix (fun c : Char => decide (c ≠ ']')) (l := rest)).length_le
    rw [h] at this
    simp_wf
    simp at this ⊢
    omega
  · simp_wf
    omega

end

/-- Reads a path. -/
def parse (text : String) : Except Fault Path :=
  if text.isEmpty then malformed text 0 [] .emptyPath
  else parseSegment text 0 text.toList

/-- Reads a key of a store: letter case does not matter. -/
def parseKey (key : String) : Except Fault Path :=
  parse (Text.lower key)

end LayeredConfig.Path
