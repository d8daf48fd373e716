/-
Classes of characters with names, as the Unicode Character Database has them. A class is given by
tables of stretches whose code points belong to it and by tables of exceptions; its set of code
points is worked out when it is looked up.
-/

import SlashScript.Text.CodeSet

namespace SlashScript.Text

/-- A class of characters. -/
structure NamedClass where
  /-- The names, in small letters without separators. -/
  names : List String
  /-- The tables of code points that belong to the class unless they are exceptions. -/
  members : List (List Stretch)
  exceptions : List (List Stretch) := []

namespace NamedClass

/-- The members of a class without regard to its exceptions, as one table. -/
def table (cls : NamedClass) : List Stretch :=
  cls.members.flatten

/-- The code points of a class. -/
def codes (cls : NamedClass) : CodeSet :=
  (CodeSet.ofStretches cls.table).difference (CodeSet.ofStretches cls.exceptions.flatten)

/-- The class with a name, which is given in small letters without separators. -/
def find? (classes : List NamedClass) (name : String) : Option NamedClass :=
  classes.find? fun cls => cls.names.contains name

/-- The code points of the class with a name. -/
def codes? (classes : List NamedClass) (name : String) : Option CodeSet :=
  (find? classes name).map codes

end NamedClass

end SlashScript.Text
