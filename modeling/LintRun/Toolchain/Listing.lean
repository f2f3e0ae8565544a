import LintRun.Text.Blank

/-!
# Toolchain — Listings

The table that the product manager prints: one line for each version, the product first and the version second,
between double quotes.

* `versionOf?`: the version of a line.
* `versions`: the versions of a listing, in line order.
-/

namespace LintRun.Listing

/-- What stands between a double quote at the front and the next one, if that is not nothing. -/
def quotedField? : List Char → Option (List Char)
  | '"' :: rest =>
    match Text.cutAt? '"' rest with
    | some ([], _) => none
    | some (field, _) => some field
    | none => none
  | _ => none

/-- The second field of a line, which has to follow a first field and blanks. -/
def versionOf? (line : List Char) : Option String :=
  let row := line.dropWhile Text.isBlank
  let afterFirst := row.dropWhile fun c => !Text.isBlank c
  if row.isEmpty then none
  else match afterFirst with
    | [] => none
    | rest => (quotedField? (rest.dropWhile Text.isBlank)).map String.ofList

/-- The versions that a listing names. -/
def versions (output : String) : List String :=
  (Text.splitLines output.toList).filterMap versionOf?

end LintRun.Listing
