import PageModel.Regex.CharSet
import PageModel.Unicode.Script

/-!
# Properties by name

The sets that patterns name: general categories and their groups, scripts and binary properties.
Names are compared without regard to case, blanks, dashes, underscores and a leading `is`.
-/

namespace PageModel.Regex

open Unicode

/-- The form of a name in which names are compared. -/
def looseName (name : String) : String :=
  let kept := (name.toList.filter fun c =>
    c.toNat < 0x80 && c != ' ' && c != '_' && c != '-').map Char.toLower
  match kept with
  | ['i', 's', 'c'] => "isc"
  | 'i' :: 's' :: rest =>
      if (name.toList.take 2).map Char.toLower = ['i', 's'] then String.ofList rest
      else String.ofList kept
  | _ => String.ofList kept

/-- Whether a name is one of a list of names. -/
def isNamed (names : List String) (name : String) : Bool :=
  names.any fun n => looseName n == looseName name

/-- The characters of a general category or of a group of them. -/
def category? (name : String) : Option CharSet :=
  let n := looseName name
  if n = "any" then some .all
  else if n = "ascii" then some (.range '\x00' '\x7F')
  else if n = "assigned" then some (.compl (.table categoryCn))
  else
    match categories.find? fun (short, long, _) => isNamed (short :: long) name with
    | some (_, _, table) => some (.table table)
    | none =>
        match categoryGroups.find? fun (short, long, _) => isNamed (short :: long) name with
        | some (_, _, members) =>
            some (.unions ((categories.filter fun (short, _, _) => members.contains short).map
              fun (_, _, table) => .table table))
        | none => if isNamed ["Cs", "Surrogate"] name then some .none else none

/-- The characters of a script, or of its extensions. -/
def script? (extensions : Bool) (name : String) : Option CharSet :=
  (scripts.find? fun s => isNamed s.names name).map fun s =>
    .table (if extensions then s.extensions else s.table)

/-- The characters with a binary property. -/
def binary? (name : String) : Option CharSet :=
  if isNamed ["cf", "sc", "lc"] name then none
  else (binaryProperties.find? fun (names, _) => isNamed names name).map fun (_, table) =>
    .table table

/-- The set that a name stands for. -/
def property? (name : String) : Option CharSet :=
  (binary? name).or ((category? name).or (script? false name))

/-- The set that a name with a value stands for. -/
def propertyValue? (name value : String) : Option CharSet :=
  if isNamed ["General_Category", "gc"] name then category? value
  else if isNamed ["Script", "sc"] name then script? false value
  else if isNamed ["Script_Extensions", "scx"] name then script? true value
  else none

/-- The classes of ASCII characters that are named in double brackets. -/
def asciiClass? : String → Option CharSet
  | "alnum" => some (.unions [.range '0' '9', .range 'A' 'Z', .range 'a' 'z'])
  | "alpha" => some (.unions [.range 'A' 'Z', .range 'a' 'z'])
  | "ascii" => some (.range '\x00' '\x7F')
  | "blank" => some (.unions [.single '\t', .single ' '])
  | "cntrl" => some (.unions [.range '\x00' '\x1F', .single '\x7F'])
  | "digit" => some (.range '0' '9')
  | "graph" => some (.range '!' '~')
  | "lower" => some (.range 'a' 'z')
  | "print" => some (.range ' ' '~')
  | "punct" =>
      some (.unions [.range '!' '/', .range ':' '@', .range '[' '\x60', .range '\x7b' '~'])
  | "space" => some (.unions [.range '\t' '\r', .single ' '])
  | "upper" => some (.range 'A' 'Z')
  | "word" =>
      some (.unions [.range '0' '9', .range 'A' 'Z', .single '_', .range 'a' 'z'])
  | "xdigit" => some (.unions [.range '0' '9', .range 'A' 'F', .range 'a' 'f'])
  | _ => none

end PageModel.Regex
