import ChatMarkup.Document.Token

/-!
Document types of old. A page with one of them, with a damaged one or with none at all is built as
old browsers did, which lets a table stand in a paragraph.

A public identifier consists of fields between double slashes: whether the owner is registered, the
owner, the kind and name of the text, and its language.
-/

namespace ChatMarkup.Document.Doctype

def fields (separator : String) (identifier : String) : List String :=
  (identifier.toLower.splitOn separator)

/-- Owners of document types, and the names of their types that are old. -/
def oldTypes : List (String × List String) := [
  ("advasoft ltd", ["html 3.0 aswedit + extensions"]),
  ("as", ["html 3.0 aswedit + extensions"]),
  ("ietf", [
    "html 2.0 level 1", "html 2.0 level 2", "html 2.0 strict level 1", "html 2.0 strict level 2",
    "html 2.0 strict", "html 2.0", "html 2.1e", "html 3.0", "html 3.2 final", "html 3.2", "html 3",
    "html level 0", "html level 1", "html level 2", "html level 3", "html strict level 0",
    "html strict level 1", "html strict level 2", "html strict level 3", "html strict", "html"]),
  ("metrius", ["metrius presentational"]),
  ("microsoft", [
    "internet explorer 2.0 html strict", "internet explorer 2.0 html",
    "internet explorer 2.0 tables", "internet explorer 3.0 html strict",
    "internet explorer 3.0 html", "internet explorer 3.0 tables"]),
  ("netscape comm. corp.", ["html", "strict html"]),
  ("o'reilly and associates", ["html 2.0", "html extended 1.0", "html extended relaxed 1.0"]),
  ("softquad software", ["hotmetal pro 6.0::19990601::extensions to html 4.0"]),
  ("softquad", ["hotmetal pro 4.0::19971010::extensions to html 4.0"]),
  ("spyglass", ["html 2.0 extended"]),
  ("sq", ["html 2.0 hotmetal + extensions"]),
  ("sun microsystems corp.", ["hotjava html", "hotjava strict html"]),
  ("w3c", [
    "html 3 1995-03-24", "html 3.2 draft", "html 3.2 final", "html 3.2", "html 3.2s draft",
    "html 4.0 frameset", "html 4.0 transitional", "html experimental 19960712",
    "html experimental 970421", "w3 html"]),
  ("w3o", ["w3 html 3.0"]),
  ("webtechs", ["mozilla html 2.0", "mozilla html"])
]

/-- Types that are old unless a system identifier goes with them. -/
def oldAlone : List String := ["html 4.01 frameset", "html 4.01 transitional"]

def typeName (name : String) : String := "dtd " ++ name

def isOldPublic (identifier : String) (alone : Bool) : Bool :=
  match fields "//" identifier with
  | "-" :: owner :: text :: _ :: _ =>
    ((oldTypes.lookup owner).getD []).any (typeName · == text) ||
      (alone && owner == "w3c" && oldAlone.any (typeName · == text))
  | "+" :: "silmaril" :: text :: _ :: _ => text == typeName "html pro v0r11 19970101"
  | _ => false

def oldPublics : List (List String) := [
  ["-", "w3o", "dtd w3 html strict 3.0", "en", ""],
  ["-/w3c/dtd html 4.0 transitional/en"],
  ["html"]
]

def oldSystem : List String :=
  ["http:", "", "www.ibm.com", "data", "dtd", "v11", "ibmxhtml1-transitional.dtd"]

def isOld (doctype : Doctype) : Bool :=
  doctype.damaged || doctype.name != "html" ||
    doctype.publicId.any (fun identifier =>
      oldPublics.contains (fields "//" identifier) ||
        isOldPublic identifier doctype.systemId.isNone) ||
    doctype.systemId.any fun identifier => fields "/" identifier == oldSystem

end ChatMarkup.Document.Doctype
