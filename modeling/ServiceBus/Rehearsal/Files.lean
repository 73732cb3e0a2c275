import ServiceBus.Settings.Loading
import ServiceBus.Text.Search

set_option autoImplicit false

/-! # Files for rehearsals

A directory of which the files are given, with nothing around it. Files are found under any path
that leads to them, also by way of other directories and back. -/

namespace ServiceBus.Rehearsal

/-- The names that a path leads through. -/
def segments (path : String) : List String :=
  (path.splitOn "/").filter fun name => name ≠ "" && name ≠ "."

/-- Whether a place among some files is a directory: the top, one of the entries, or a place that
a file lies below. -/
def isDirectory (files : List (List String × FileEntry)) (place : List String) : Bool :=
  place.isEmpty || files.any fun file =>
    match file.2 with
    | .directory => place.isPrefixOf file.1
    | .regular _ => place.isPrefixOf file.1 && place ≠ file.1

/-- The place that names lead to from a place; two dots lead back out of a directory. -/
def follow (files : List (List String × FileEntry)) : List String → List String → Option (List String)
  | place, [] => some place
  | place, name :: rest =>
      if name = ".." then
        if isDirectory files place && !place.isEmpty then follow files place.dropLast rest else none
      else follow files (place ++ [name]) rest

/-- The view of a directory with some files. -/
def filesIn (directory : String) (files : List (String × FileEntry)) : FileView := fun path =>
  let files := files.map fun file => (segments file.1, file.2)
  match Text.after? directory.toList path.toList with
  | some ('/' :: rest) =>
      (follow files [] (segments (String.ofList rest))).bind fun place => files.lookup place
  | _ => none

end ServiceBus.Rehearsal
