import PageModel.Html.Token

/-!
# Old document types

A document that declares an old type, or none, is laid out by old rules. Of these rules one
bears on the tree: a table does not end the paragraph that it stands in.

A public identifier names an owner and a document type, between pairs of slashes.
-/

namespace PageModel.Html

/-- The public identifiers that name an old type and do not name an owner as the others do. -/
def oldPublicIds : List String :=
  ["-//w3o//dtd w3 html strict 3.0//en//", "-/w3c/dtd html 4.0 transitional/en", "html"]

/-- The old types, by owner. -/
def oldTypes : List (String × List String) :=
  [("advasoft ltd", ["html 3.0 aswedit + extensions"]),
   ("as", ["html 3.0 aswedit + extensions"]),
   ("ietf", ["html 2.0 level 1", "html 2.0 level 2", "html 2.0 strict level 1",
     "html 2.0 strict level 2", "html 2.0 strict", "html 2.0", "html 2.1e", "html 3.0",
     "html 3.2 final", "html 3.2", "html 3", "html level 0", "html level 1", "html level 2",
     "html level 3", "html strict level 0", "html strict level 1", "html strict level 2",
     "html strict level 3", "html strict", "html"]),
   ("metrius", ["metrius presentational"]),
   ("microsoft", ["internet explorer 2.0 html strict", "internet explorer 2.0 html",
     "internet explorer 2.0 tables", "internet explorer 3.0 html strict",
     "internet explorer 3.0 html", "internet explorer 3.0 tables"]),
   ("netscape comm. corp.", ["html", "strict html"]),
   ("o'reilly and associates", ["html 2.0", "html extended 1.0", "html extended relaxed 1.0"]),
   ("softquad software", ["hotmetal pro 6.0::19990601::extensions to html 4.0"]),
   ("softquad", ["hotmetal pro 4.0::19971010::extensions to html 4.0"]),
   ("spyglass", ["html 2.0 extended"]),
   ("sq", ["html 2.0 hotmetal + extensions"]),
   ("sun microsystems corp.", ["hotjava html", "hotjava strict html"]),
   ("w3c", ["html 3 1995-03-24", "html 3.2 draft", "html 3.2 final", "html 3.2",
     "html 3.2s draft", "html 4.0 frameset", "html 4.0 transitional",
     "html experimental 19960712", "html experimental 970421", "w3 html"]),
   ("w3o", ["w3 html 3.0"]),
   ("webtechs", ["mozilla html 2.0", "mozilla html"])]

/-- The types that are old where there is no system identifier, by owner. -/
def oldTypesAlone : List (String × List String) :=
  [("w3c", ["html 4.01 frameset", "html 4.01 transitional"])]

/-- The system identifier that names an old type, in parts. -/
def oldSystemIdParts : List String :=
  ["http:", "", "www.ibm.com", "data", "dtd", "v11", "ibmxhtml1-transitional.dtd"]

/-- A string in lower case, as far as its letters are ASCII. -/
def asciiLowerText (s : String) : String :=
  String.ofList (s.toList.map asciiLower)

/-- What the public identifiers of a type start with. -/
def publicStart (owner type : String) : String :=
  "-//" ++ owner ++ "//dtd " ++ type ++ "//"

/-- Whether a public identifier names one of a list of types. -/
def namesType (types : List (String × List String)) (publicId : String) : Bool :=
  types.any fun (owner, names) =>
    names.any fun name => (publicStart owner name).toList.isPrefixOf publicId.toList

/-- Whether a document type calls for the old rules. -/
def Doctype.isOld (d : Doctype) : Bool :=
  let publicId := asciiLowerText (d.publicId.getD "")
  let systemId := d.systemId.map asciiLowerText
  d.malformed || d.name != "html" || oldPublicIds.contains publicId
    || systemId == some ("/".intercalate oldSystemIdParts)
    || namesType oldTypes publicId
    || (systemId.isNone && namesType oldTypesAlone publicId)

end PageModel.Html
