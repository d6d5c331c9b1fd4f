/-!
The two choices a reader of a page has, and how they are read from a configuration value.
-/

namespace ChatMarkup

structure Options where
  /-- Character references in text are decoded. -/
  decodeEntities : Bool := true
  /-- Element names are lowercased before their rule is looked up. -/
  lowercaseTags : Bool := false
deriving DecidableEq, Repr

namespace Options

/-! ## Configuration values -/

inductive Setting where
  | flag (value : Bool)
  | other
deriving DecidableEq, Repr

/-- Where options are read from: named fields, values by position, or something else. -/
inductive Source where
  | fields (entries : List (String × Setting))
  | positions (values : List Setting)
  | other
deriving Repr

/-- A truth value where one is given, `fallback` where nothing is. -/
def Setting.read? (fallback : Bool) : Option Setting → Option Bool
  | none => some fallback
  | some (.flag value) => some value
  | some .other => none

def decodeEntitiesField : String := "decodeEntities"

def lowercaseTagsField : String := "lowercaseTags"

/-- What is left out takes its default and other fields are ignored, but a field of the right name
with another kind of value is refused, and so are more values than there are options. -/
def read? : Source → Option Options
  | .fields entries => do
    let decodeEntities ← Setting.read? true (entries.lookup decodeEntitiesField)
    let lowercaseTags ← Setting.read? false (entries.lookup lowercaseTagsField)
    some ⟨decodeEntities, lowercaseTags⟩
  | .positions values =>
    if 2 < values.length then none
    else do
      let decodeEntities ← Setting.read? true values[0]?
      let lowercaseTags ← Setting.read? false values[1]?
      some ⟨decodeEntities, lowercaseTags⟩
  | .other => none

def entries (options : Options) : List (String × Bool) :=
  [(decodeEntitiesField, options.decodeEntities), (lowercaseTagsField, options.lowercaseTags)]

theorem read?_entries (options : Options) :
    read? (.fields (options.entries.map fun (name, value) => (name, .flag value))) =
      some options := by
  rfl

example : read? (.fields [("lowercaseTags", .flag true)]) = some ⟨true, true⟩ := rfl

example : read? (.positions [.flag false]) = some ⟨false, false⟩ := rfl

end Options

end ChatMarkup
