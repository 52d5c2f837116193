import PageModel.Address.DomainTable
import PageModel.Address.Punycode
import PageModel.Unicode.Direction

/-!
# Domain names

The labels that a domain name has once its characters have been put into the form in which they are
compared, and the conditions on them: labels in ASCII form have to be those of other labels, some
characters may not come first, joiners need certain neighbours, and labels that run from right to
left keep to an order.
-/

namespace PageModel.Address

open Unicode

/-! ### Characters -/

/-- Whether a character beyond ASCII is refused. -/
def isRefused (c : Char) : Bool :=
  refusedTable.contains c || categoryCn.contains c || categoryCo.contains c

/-- The ASCII characters that a character stands for, if it does. -/
def asciiImage? (c : Char) : Option (List Char) :=
  let n := c.toNat
  match asciiSpellings.lookup n with
  | some s => some s.toList
  | none =>
      match asciiRuns.find? fun r => r.1 ≤ n && n < r.1 + r.2.length with
      | some (first, images) => (images.toList[n - first]?).map fun c => [c]
      | none => none

/-- The characters that a character stands for. Those that stand for another character beyond ASCII
are kept, as nothing below depends on which it is. -/
def mapChar (c : Char) : Option (List Char) :=
  if c.toNat < 0x80 then some [c.toLower]
  else if droppedTable.contains c then some []
  else if isRefused c then none
  else some ((asciiImage? c).getD [c])

/-- The characters that the characters of a name stand for. -/
def mapChars : List Char → Option (List Char)
  | [] => some []
  | c :: cs =>
      match mapChar c, mapChars cs with
      | some start, some rest => some (start ++ rest)
      | _, _ => none

/-- The ASCII characters that no domain name has. -/
def isForbidden (c : Char) : Bool :=
  c.toNat ≤ 0x20 || c.toNat = 0x7F || "%#/:<>?@[\\]^|".toList.contains c

/-! ### Labels -/

/-- The parts of a name between its dots. -/
def splitDots : List Char → List (List Char)
  | [] => [[]]
  | c :: cs =>
      if c = '.' then [] :: splitDots cs
      else
        match splitDots cs with
        | [] => [[c]]
        | part :: parts => (c :: part) :: parts

/-- Whether a character may stand in a label that was written in ASCII form. -/
def isPlain (c : Char) : Bool :=
  if c.toNat < 0x80 then !isForbidden c && !c.isUpper && c ≠ '.'
  else !droppedTable.contains c && !isRefused c && !mappedTable.contains c

/-- The label that a label stands for. A label in ASCII form has to stand for one with other
characters. -/
def plainLabel (label : List Char) : Option (List Char) :=
  if "xn--".toList.isPrefixOf label then
    match Punycode.decode (label.drop 4) with
    | some plain =>
        if plain.all isPlain && plain.any fun c => 0x80 ≤ c.toNat then some plain else none
    | none => none
  else some label

/-- Whether a character may come first in a label. -/
def mayStart (c : Char) : Bool :=
  !(categoryMn.contains c || categoryMc.contains c || categoryMe.contains c
    || markedTable.contains c)

/-- Whether a character leaves the joining of its neighbours as it is. -/
def isTransparent (c : Char) : Bool :=
  categoryMn.contains c || categoryMe.contains c || categoryCf.contains c

/-- Whether a joiner may stand between texts, the one before it being given in reverse. -/
def mayJoin (joiner : Char) (before after : List Char) : Bool :=
  before.head?.any viramaTable.contains
    || (joiner.toNat = 0x200C
      && (before.dropWhile isTransparent).head?.any joinsNextTable.contains
      && (after.dropWhile isTransparent).head?.any joinsPreviousTable.contains)

/-- Whether all joiners of a label have the neighbours that they need. -/
def joinersHold (before : List Char) : List Char → Bool
  | [] => true
  | c :: cs =>
      (if c.toNat = 0x200C ∨ c.toNat = 0x200D then mayJoin c before cs else true)
        && joinersHold (c :: before) cs

/-- Whether a label that holds anything is well formed. -/
def isLabel (label : List Char) : Bool :=
  label.head?.all mayStart && joinersHold [] label

/-! ### Directions -/

/-- Whether a label has characters that run from right to left. -/
def isBidirectional (label : List Char) : Bool :=
  label.any fun c => direction c = .right || direction c = .arabicNumber

/-- Whether the directions in a label keep to the rule for labels that run from left to right. -/
def isLeftLabel (ds : List Direction) : Bool :=
  ds.all (fun d => d != .right && d != .arabicNumber)
    && (ds.reverse.dropWhile (· == .mark)).head?.any fun d => d == .left || d == .europeanNumber

/-- Whether the directions in a label keep to the rule for labels that run from right to left. -/
def isRightLabel (ds : List Direction) : Bool :=
  ds.all (· != .left)
    && (ds.reverse.dropWhile (· == .mark)).head?.any
      (fun d => d == .right || d == .europeanNumber || d == .arabicNumber)
    && !(ds.contains .europeanNumber && ds.contains .arabicNumber)

/-- Whether the directions in a label keep to the rule for labels of names in which some label has
characters that run from right to left. -/
def directionsHold (label : List Char) : Bool :=
  let ds := label.map direction
  match ds.head? with
  | none => true
  | some .left => isLeftLabel ds
  | some .right => isRightLabel ds
  | some _ => false

/-! ### Names -/

/-- The labels of a domain name, if it is one. -/
def domainLabels? (name : List Char) : Option (List (List Char)) :=
  match mapChars name with
  | none => none
  | some mapped =>
      if mapped.isEmpty || mapped.any isForbidden then none
      else
        match (splitDots mapped).mapM plainLabel with
        | none => none
        | some labels =>
            if labels.all isLabel && (!labels.any isBidirectional || labels.all directionsHold) then
              some labels
            else none

end PageModel.Address
