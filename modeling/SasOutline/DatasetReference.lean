import SasOutline.DatasetOption
import SasOutline.LetterCase

/-!
# References to datasets

A dataset is referred to by a name that a library may qualify; a reference
without a library means the library `work`.  Spelling does not depend on case,
so every reference has one canonical name in lower case and one identifier in
upper case.  The identifier is what keys a dataset in the lineage graph.
-/

namespace SasOutline

structure DatasetReference where
  library : Option DynamicName
  dataset : DynamicName
  options : Option (List DatasetOption)
  deriving DecidableEq, Repr

/-- Why a reference does not name a dataset. -/
inductive ReferenceDefect where
  | emptyDataset
  | emptyLibrary
  deriving DecidableEq, Repr

def ReferenceDefect.message : ReferenceDefect → String
  | emptyDataset => "dataset name is empty"
  | emptyLibrary => "library name is empty"

def defaultLibrary : String := "work"

namespace DatasetReference

def libraryName (object : DatasetReference) : String :=
  match object.library with
  | some library => lowerCase library.text
  | none => defaultLibrary

def datasetName (object : DatasetReference) : String :=
  lowerCase object.dataset.text

/-- The canonical `library.dataset` name. -/
def name (object : DatasetReference) : String :=
  object.libraryName ++ "." ++ object.datasetName

def identifier (object : DatasetReference) : String :=
  upperCase object.name

/-- A missing library is no defect; one that is present must not be empty. -/
def defect? (object : DatasetReference) : Option ReferenceDefect :=
  if object.dataset.isEmpty then some .emptyDataset
  else if object.library.any DynamicName.isEmpty then some .emptyLibrary
  else none

end DatasetReference

namespace Cursor

def qualifier? (cursor : Cursor) : Option (DynamicName × Cursor) := do
  let (library, stop) ← cursor.dynamicName?
  let stop ← stop.char? '.'
  return (library, stop)

/-- A dataset name with a dot in front of it or without one. -/
def datasetName? (cursor : Cursor) : Option (DynamicName × Cursor) :=
  (cursor.char? '.').bind dynamicName? <|> cursor.dynamicName?

/-- A dataset, with a library in front and options in parentheses behind where
they are written. -/
def datasetReference? (cursor : Cursor) : Option (DatasetReference × Cursor) := do
  let (library, start) := optional cursor cursor.qualifier?
  let (dataset, stop) ← start.datasetName?
  let (options, stop) := optional stop stop.skipSpace.datasetOptions?
  return (⟨library, dataset, options⟩, stop)

/-- References separated by blanks; there may be none. -/
def datasetList (cursor : Cursor) : List DatasetReference × Cursor :=
  separated datasetReference? space? cursor

/-- References separated by commas; there may be none. -/
def datasetEnumeration (cursor : Cursor) : List DatasetReference × Cursor :=
  separated datasetReference? comma? cursor

theorem qualifier?_passes {cursor later : Cursor} {library : DynamicName}
    (h : cursor.qualifier? = some (library, later)) : cursor.Passes later := by
  obtain ⟨⟨_, first⟩, hname, h⟩ := Option.bind_eq_some_iff.1 h
  obtain ⟨stop, hdot, h⟩ := Option.bind_eq_some_iff.1 h
  obtain ⟨-, rfl⟩ := Prod.mk.inj (Option.some.inj h)
  exact (dynamicName?_passes hname).trans (char?_passes hdot)

theorem datasetName?_passes {cursor later : Cursor} {dataset : DynamicName}
    (h : cursor.datasetName? = some (dataset, later)) : cursor.Passes later := by
  rcases orElse_some h with h | ⟨-, h⟩
  · obtain ⟨middle, hdot, hname⟩ := Option.bind_eq_some_iff.1 h
    exact (char?_passes hdot).trans (dynamicName?_passes hname)
  · exact dynamicName?_passes h

theorem datasetReference?_passes {cursor later : Cursor} {object : DatasetReference}
    (h : cursor.datasetReference? = some (object, later)) : cursor.Passes later := by
  have toStart : cursor.Reaches (optional cursor cursor.qualifier?).2 :=
    optional_reaches fun _ _ hqualifier => (qualifier?_passes hqualifier).1
  obtain ⟨⟨dataset, stop⟩, hname, h⟩ := Option.bind_eq_some_iff.1 h
  have toStop : stop.Reaches (optional stop stop.skipSpace.datasetOptions?).2 :=
    optional_reaches fun _ _ hoptions =>
      stop.skipSpace_reaches.trans (datasetOptions?_passes hoptions).1
  obtain ⟨-, rfl⟩ := Prod.mk.inj (Option.some.inj h)
  exact (toStart.trans_passes (datasetName?_passes hname)).trans_reaches toStop

theorem datasetList_reaches (cursor : Cursor) : cursor.Reaches cursor.datasetList.2 :=
  separated_reaches (fun _ _ _ h => (datasetReference?_passes h).1)
    (fun _ _ h => (space?_passes h).1) cursor

theorem datasetEnumeration_reaches (cursor : Cursor) :
    cursor.Reaches cursor.datasetEnumeration.2 :=
  separated_reaches (fun _ _ _ h => (datasetReference?_passes h).1)
    (fun _ _ h => (comma?_passes h).1) cursor

end Cursor

end SasOutline
