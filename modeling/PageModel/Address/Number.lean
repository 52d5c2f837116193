import PageModel.Number.Digits

/-!
# Numeric addresses

Addresses of machines: four numbers with dots between them, the last of which may stand for
several and each of which may be written in the base 8, 10 or 16; or eight numbers of 16 bits with
colons between them, of which a row of zeros may be left out.
-/

namespace PageModel.Address

/-! ### Four numbers -/

/-- The number that a part of an address denotes: in base 16 after `0x`, in base 8 after a zero. -/
def partValue? (part : List Char) : Option Nat :=
  match part with
  | [] => none
  | '0' :: x :: ds =>
      if x = 'x' ∨ x = 'X' then if ds.all isHexDigit then some (valueIn 16 ds) else none
      else if (x :: ds).all fun c => '0' ≤ c && c ≤ '7' then some (valueIn 8 (x :: ds))
      else none
  | ds => if ds.all Char.isDigit then some (decimalValue ds) else none

/-- The parts without the empty part after a dot at the end. -/
def withoutLastEmpty (parts : List (List Char)) : List (List Char) :=
  if parts.getLast? = some [] then parts.dropLast else parts

/-- Whether the last part of a name is a number, so that the name has to be an address. -/
def endsInNumber (parts : List (List Char)) : Bool :=
  let parts := if 1 < parts.length then withoutLastEmpty parts else parts
  match parts.getLast? with
  | none => false
  | some last => (!last.isEmpty && last.all Char.isDigit) || (partValue? last).isSome

/-- Whether parts are those of an address: at most four numbers, all but the last below 256, the
last with what is left of 32 bits. -/
def isFourNumbers (parts : List (List Char)) : Bool :=
  let parts := withoutLastEmpty parts
  match parts.mapM partValue? with
  | none => false
  | some numbers =>
      numbers.length ≤ 4 && numbers.dropLast.all (· < 256)
        && numbers.getLast?.any fun n => n < Nat.pow 256 (5 - numbers.length)

/-! ### Eight numbers -/

/-- A number below 256 in the base ten without zeros before it, and the text after it. -/
def readByte (cs : List Char) : Option (List Char) :=
  let ds := cs.takeWhile Char.isDigit
  if ds.isEmpty || (ds.head? = some '0' && 1 < ds.length) || 255 < decimalValue ds then none
  else some (cs.drop ds.length)

/-- Whether a text is four numbers below 256 with dots between them, `more` of them after the
first. -/
def isBytes : (more : Nat) → List Char → Bool
  | 0, cs => readByte cs = some []
  | more + 1, cs =>
      match readByte cs with
      | some ('.' :: rest) => isBytes more rest
      | _ => false

/-- Whether a text goes on as an address of eight numbers, after `count` of them; `gap` tells
whether numbers have been left out before. -/
def isEightFrom : (fuel count : Nat) → (gap : Bool) → List Char → Bool
  | _, count, gap, [] => gap || count == 8
  | 0, _, _, _ => false
  | fuel + 1, count, gap, c :: cs =>
      if 8 ≤ count then false
      else if c = ':' then !gap && isEightFrom fuel (count + 1) true cs
      else
        let ds := ((c :: cs).take 4).takeWhile isHexDigit
        match (c :: cs).drop ds.length with
        | '.' :: _ =>
            !ds.isEmpty && count ≤ 6 && isBytes 3 (c :: cs) && (gap || count == 6)
        | ':' :: rest => !rest.isEmpty && isEightFrom fuel (count + 1) gap rest
        | [] => isEightFrom fuel (count + 1) gap []
        | _ => false

/-- Whether a text is an address of eight numbers. -/
def isEightNumbers (cs : List Char) : Bool :=
  match cs with
  | ':' :: ':' :: rest => isEightFrom rest.length 1 true rest
  | ':' :: _ => false
  | cs => isEightFrom cs.length 0 false cs

/-! ### Examples -/

example : isEightNumbers "::1".toList = true := by decide +kernel

example : isEightNumbers "1:2:3:4:5:6:7.8.9.10".toList = true := by decide +kernel

example : isEightNumbers "1:2:3:4:5:6:7".toList = false := by decide +kernel

end PageModel.Address
