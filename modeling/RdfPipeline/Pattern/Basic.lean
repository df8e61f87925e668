import RdfPipeline.Pattern.CharSet

/-!
# Patterns

Regular expressions and the texts in which they are found. A pattern moves a set of positions to the
set of all positions at which a match from one of them can end, so that no order of attempts
matters.
-/

set_option autoImplicit false

namespace RdfPipeline

inductive Pattern.Anchor where
  | textStart
  | textEnd
  | lineStart
  | lineEnd
  /-- The two line anchors where a carriage return also ends lines. -/
  | lineStartAfterReturn
  | lineEndBeforeReturn
  | wordBoundary (unicode : Bool)
  | noWordBoundary (unicode : Bool)
  | wordStart (unicode : Bool)
  | wordEnd (unicode : Bool)
  | wordStartHalf (unicode : Bool)
  | wordEndHalf (unicode : Bool)
  deriving DecidableEq, Repr

inductive Pattern where
  | empty
  | oneOf (set : Pattern.CharSet)
  | anchor (condition : Pattern.Anchor)
  | sequence (first second : Pattern)
  | choice (left right : Pattern)
  /-- At least `least` times, and at most `most` times unless that is absent. -/
  | repetition (body : Pattern) (least : Nat) (most : Option Nat)
  deriving DecidableEq, Repr

namespace Pattern

/-! ## Anchors -/

def isWordChar (unicode : Bool) (c : Option Char) : Bool :=
  match c with
  | some c =>
      if c.toNat < 0x80 then CharSet.asciiWordChars.contains c.toNat
      else unicode && CharSet.wordChars.contains c.toNat
  | none => false

/-- Whether a condition holds between two neighbours, absent at the ends of the text. -/
def Anchor.holds (condition : Anchor) (before after : Option Char) : Bool :=
  match condition with
  | .textStart => before.isNone
  | .textEnd => after.isNone
  | .lineStart => before.isNone || before == some '\n'
  | .lineEnd => after.isNone || after == some '\n'
  | .lineStartAfterReturn =>
      before.isNone || before == some '\n' || (before == some '\r' && after != some '\n')
  | .lineEndBeforeReturn =>
      after.isNone || after == some '\r' || (after == some '\n' && before != some '\r')
  | .wordBoundary unicode => isWordChar unicode before != isWordChar unicode after
  | .noWordBoundary unicode => isWordChar unicode before == isWordChar unicode after
  | .wordStart unicode => !isWordChar unicode before && isWordChar unicode after
  | .wordEnd unicode => isWordChar unicode before && !isWordChar unicode after
  | .wordStartHalf unicode => !isWordChar unicode before
  | .wordEndHalf unicode => !isWordChar unicode after

/-! ## Sets of positions -/

/-- Ascending positions in a text. -/
abbrev Positions := List Nat

def mergePositions : Positions → Positions → Positions
  | [], right => right
  | left, [] => left
  | a :: left, b :: right =>
      if a < b then a :: mergePositions left (b :: right)
      else if b < a then b :: mergePositions (a :: left) right
      else a :: mergePositions left right
termination_by left right => left.length + right.length

/-- Applies a step `count` times, or until no position is left. -/
def iterate (step : Positions → Positions) : Nat → Positions → Positions
  | 0, positions => positions
  | count + 1, positions => if positions = [] then [] else iterate step count (step positions)

/-- All positions after at most `count` applications of a step. -/
def reach (step : Positions → Positions) : Nat → Positions → Positions
  | 0, positions => positions
  | count + 1, positions =>
      let next := mergePositions positions (step positions)
      if next = positions then positions else reach step count next

/-- The positions at which a match that starts at one of the given positions can end. Repeating a
step without bound adds nothing new after as many rounds as the text has positions. -/
def ends (text : Array Char) : Pattern → Positions → Positions
  | .empty, positions => positions
  | .oneOf set, positions =>
      positions.filterMap fun position =>
        match text[position]? with
        | some c => if set.contains c.toNat then some (position + 1) else none
        | none => none
  | .anchor condition, positions =>
      positions.filter fun position =>
        condition.holds (if position = 0 then none else text[position - 1]?) text[position]?
  | .sequence first second, positions => ends text second (ends text first positions)
  | .choice left right, positions =>
      mergePositions (ends text left positions) (ends text right positions)
  | .repetition body least most, positions =>
      let rounds :=
        match most with
        | some most => most - least
        | none => text.size + 1
      reach (ends text body) rounds (iterate (ends text body) least positions)

/-- A match starts somewhere in the text. -/
def isFoundIn (pattern : Pattern) (text : String) : Bool :=
  let chars := text.toList.toArray
  pattern.ends chars (List.range (chars.size + 1)) != []

/-! ## Size -/

/-- Estimated size of a pattern once its repetitions are written out, in bytes. -/
def weight : Pattern → Nat
  | .empty => 0
  | .oneOf set => if set.size ≤ 1 then 32 else 60 * set.size
  | .anchor _ => 32
  | .sequence first second => weight first + weight second
  | .choice left right => weight left + weight right + 32
  | .repetition body least most =>
      match most with
      | some most => most * (weight body + 32)
      | none => (least + 1) * weight body + 32

/-- Patterns that are larger are refused. -/
def weightLimit : Nat := 10 * Nat.pow 2 20

end Pattern

end RdfPipeline
