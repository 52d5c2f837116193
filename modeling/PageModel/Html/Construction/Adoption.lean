import PageModel.Html.Construction.Builder

/-!
# Misnested formatting

The end tag of a formatting element may come while blocks are open that were opened inside the
element: `<b><p></b>`. Then the innermost such block is moved out of the element, and a copy of
the element takes over the block's content, so that the text in the block keeps its format.
-/

namespace PageModel.Html.Build

/-- The state of moving a block out of a formatting element: the node moved last, the entry of
the list of formatting elements behind which the copy will stand, and how many elements have
been passed. -/
structure Moving where
  last : Nat
  bookmark : Option Nat
  passed : Nat

/-- The entries of formatting elements with the entry of one element replaced. -/
def replaceEntry (i : Nat) (e : FormatEntry) (entries : List FormatEntry) : List FormatEntry :=
  entries.map fun old => if old.isFor i then e else old

/-- The entries with one more in front of the entry of an element, that is, made later. -/
def insertEntryAfter (i : Nat) (e : FormatEntry) : List FormatEntry → List FormatEntry
  | [] => [e]
  | old :: rest => if old.isFor i then e :: old :: rest else old :: insertEntryAfter i e rest

/-- The tag of a formatting element. -/
def formattingTag? (entries : List FormatEntry) (i : Nat) : Option Tag :=
  entries.findSome? fun
    | .mark => none
    | .element j t => if i == j then some t else none

/-- The elements between a block and the formatting element that it leaves, innermost first:
those that format text and are near are copied, each copy taking the node moved last; the others
are closed. The elements that stay open are the result. -/
def passBetween (m : Moving) : List Nat → Build (List Nat × Moving)
  | [] => return ([], m)
  | node :: rest => do
      let m := { m with passed := m.passed + 1 }
      let entries := (← state).formatting
      match formattingTag? entries node with
      | none => passBetween m rest
      | some t =>
          if 3 < m.passed then
            removeFormatting node
            passBetween m rest
          else
            let copy ← makeElement .html t.name (t.attrsIn .html)
            change fun b =>
              { b with formatting := replaceEntry node (.element copy t) b.formatting }
            let bookmark := if m.bookmark.isNone then some copy else m.bookmark
            let last := m.last
            append copy last
            let (kept, m) ← passBetween { m with last := copy, bookmark := bookmark } rest
            return (copy :: kept, m)

/-- The innermost element of `above`, the open elements inside a formatting element with the
outermost first, that is special: what is open inside of it, the element, and what is open
outside of it, each innermost first. -/
def furthestBlock? (arena : Arena) (inner : List Nat) :
    (above : List Nat) → Option (List Nat × Nat × List Nat)
  | [] => none
  | i :: rest =>
      if (arena.content i).elementName.isSpecial then some (rest.reverse, i, inner)
      else furthestBlock? arena (i :: inner) rest

/-- The end of the open elements up to one with the given name, as for an end tag that no rule
of its own exists for. A special element on the way keeps all open. -/
def closeOther (name : String) : Build Unit := do
  let b ← state
  let named := b.stack.map fun i => (i, (b.arena.content i).elementName)
  match named.find? fun (_, n) => n.isHtml [name] || n.isSpecial with
  | some (i, n) =>
      if n.isHtml [name] then
        closeImplied name
        change fun b => { b with stack := (b.stack.dropWhile (· != i)).drop 1 }
  | none => pure ()

/-- One round for an end tag: whether another round may follow. -/
def adoptOnce (name : String) : Build Bool := do
  let b ← state
  match (sinceMark b.formatting).find? (·.2.name == name) with
  | none =>
      closeOther name
      return false
  | some (element, tag) =>
      if !b.stack.contains element then
        removeFormatting element
        return false
      else if !(← inScopeWhere ElementName.boundsScope fun i _ => i == element) then
        return false
      else
        let above := b.stack.takeWhile (· != element)
        let below := (b.stack.dropWhile (· != element)).drop 1
        match furthestBlock? b.arena [] above.reverse with
        | none =>
            change fun b => { b with stack := below }
            removeFormatting element
            return false
        | some (inside, block, between) => do
            let (kept, m) ← passBetween ⟨block, none, 0⟩ between
            detach m.last
            insertAt (← placeIn below.head?) m.last
            let copy ← makeElement .html tag.name (tag.attrsIn .html)
            moveChildren block copy
            append block copy
            change fun b =>
              { b with
                formatting :=
                  match m.bookmark with
                  | none => replaceEntry element (.element copy tag) b.formatting
                  | some i =>
                      (insertEntryAfter i (.element copy tag) b.formatting).filter
                        (!FormatEntry.isFor element ·)
                stack := inside ++ copy :: block :: kept ++ below }
            return true

/-- At most `rounds` rounds for an end tag. -/
def adoptRounds (name : String) : (rounds : Nat) → Build Unit
  | 0 => pure ()
  | rounds + 1 => do
      if ← adoptOnce name then adoptRounds name rounds

/-- The end tag of a formatting element. -/
def closeFormatting (name : String) : Build Unit := do
  let b ← state
  let innermost := b.stack.headD 0
  if (b.arena.content innermost).elementName.isHtml [name]
      && !b.formatting.any (FormatEntry.isFor innermost) then
    pop
  else
    adoptRounds name 8

end PageModel.Html.Build
