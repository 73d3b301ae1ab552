import RatingLift.Library.Scanner

/-!
# The prolog of an XML document

What may stand before the root element: white space, the XML declaration and other processing instructions,
comments and the document type declaration, as the items of a scanner over bytes.

* (`item_space`) white space is an item;
* (`read_tag`) no item begins where a start tag does.
-/

namespace Library

namespace XmlProlog

def byte (c : Char) : UInt8 := c.toNat.toUInt8

def bytes (s : String) : List UInt8 := s.toList.map byte

def isSpace (b : UInt8) : Bool := (0x09 ≤ b && b ≤ 0x0D) || b == 0x20

/-- Where the scanner is; `inner` says whether that is in the internal subset of the document type
declaration. -/
inductive MiscState where
  | start
  /-- after `<` -/
  | opened (inner : Bool)
  /-- after `<!` -/
  | bang (inner : Bool)
  /-- after `<!-` -/
  | dash (inner : Bool)
  /-- in `<!DOCTYPE`, before these letters -/
  | keyword (letters : List UInt8)
  | instruction (inner question : Bool)
  /-- after so many hyphens -/
  | comment (inner : Bool) (hyphens : Nat)
  /-- the document type declaration, or a declaration in its internal subset -/
  | declaration (inner : Bool)
  | quoted (inner : Bool) (quote : UInt8)
  | subset
  | done
deriving DecidableEq

namespace MiscState

/-- At the end of a part. -/
def close (inner : Bool) : MiscState := if inner then subset else done

def declared (inner : Bool) (b : UInt8) : MiscState :=
  if b = byte '>' then close inner
  -- a quote of either kind
  else if b = 0x22 ∨ b = 0x27 then quoted inner b
  else if b = byte '[' ∧ inner = false then subset
  else declaration inner

def step : MiscState → UInt8 → Option MiscState
  | start, b => if isSpace b then some done else if b = byte '<' then some (opened false) else none
  | opened inner, b =>
    if b = byte '!' then some (bang inner) else if b = byte '?' then some (instruction inner false) else none
  | bang inner, b =>
    if b = byte '-' then some (dash inner)
    else if inner then some (declared true b)
    else if b = byte 'D' then some (keyword (bytes "OCTYPE"))
    else none
  | dash inner, b => if b = byte '-' then some (comment inner 0) else none
  | keyword [], b => if isSpace b then some (declaration false) else none
  | keyword (letter :: letters), b => if b = letter then some (keyword letters) else none
  | instruction inner question, b =>
    if question ∧ b = byte '>' then some (close inner) else some (instruction inner (b == byte '?'))
  | comment inner hyphens, b =>
    if b = byte '-' then some (comment inner (hyphens + 1))
    else if b = byte '>' ∧ 2 ≤ hyphens then some (close inner)
    else some (comment inner 0)
  | declaration inner, b => some (declared inner b)
  | quoted inner quote, b => if b = quote then some (declaration inner) else some (quoted inner quote)
  | subset, b =>
    if b = byte ']' then some (declaration false) else if b = byte '<' then some (opened true)
    else some subset
  | done, _ => none

end MiscState

/-- The scanner for an item of the prolog. -/
def misc : Scanner UInt8 MiscState where
  start := .start
  step := MiscState.step
  final s := s == .done

/-- The document without its prolog. -/
def root (document : List UInt8) : List UInt8 := misc.skip document

theorem item_space {b : UInt8} (h : isSpace b = true) : misc.Item [b] := by
  have hstep : misc.step misc.start b = some .done := if_pos h
  unfold Scanner.Item Scanner.read
  rw [Scanner.readFrom_cons hstep]
  rfl

/-- No item begins with a byte that is not white space and one that is neither `!` nor `?`. -/
theorem read_tag {a b : UInt8} {l : List UInt8} (ha : isSpace a = false) (hbang : b ≠ byte '!')
    (hquestion : b ≠ byte '?') :
    misc.read (a :: b :: l) = none := by
  unfold Scanner.read
  by_cases hopen : a = byte '<'
  · have hfirst : misc.step misc.start a = some (.opened false) := by
      show (if isSpace a then _ else if a = byte '<' then _ else _) = _
      rw [ha, if_neg nofun, if_pos hopen]
    have hsecond : misc.step (.opened false) b = none := by
      show (if b = byte '!' then _ else if b = byte '?' then _ else _) = _
      rw [if_neg hbang, if_neg hquestion]
    rw [Scanner.readFrom_cons hfirst]
    exact Scanner.readFrom_cons_of_none hsecond
  · have hfirst : misc.step misc.start a = none := by
      show (if isSpace a then _ else if a = byte '<' then _ else _) = _
      rw [ha, if_neg nofun, if_neg hopen]
    exact Scanner.readFrom_cons_of_none hfirst

example :
    root (bytes "<?xml version='1.0'?>\n<!DOCTYPE svg [<!ENTITY a '>'> <!-- ]> -->]> <!-- <svg --><html>") =
      bytes "<html>" := by
  decide

end XmlProlog

end Library
