import Mathlib
import LintRun.Proofs.Text.Line
import LintRun.Toolchain.Listing

/-!
# Proofs — Toolchain — Listings

A listing names the versions of the lines that have the form of a row, in their order.

* `Listing.HasVersion`: the form of a line that names a version. `Listing.versionOf?_eq_some_iff`:
  exactly such a line has this version.
* `Listing.Names`: the versions that some lines name.
* `Listing.versions_append`: two listings, one below the other.
* `Listing.versions_are_those_of_rows`: the versions of any text, and of a listing that is made of
  rows.
-/

namespace LintRun.Listing

open Text

variable {line chars field version : List Char} {v : String}
  {lines : List (List Char)} {vs : List String}

/-! ### A line -/

/-- Characters that separate words, if any. -/
def AreBlanks (chars : List Char) : Prop := ∀ c ∈ chars, isBlank c = true

/-- A run of characters that separate no words. -/
structure IsWord (chars : List Char) : Prop where
  nonempty : chars ≠ []
  solid : ∀ c ∈ chars, isBlank c = false

/-- What can stand between double quotes. -/
structure IsQuotable (chars : List Char) : Prop where
  nonempty : chars ≠ []
  quote : '"' ∉ chars

/-- **The form of a line that names a version**: a word, which blanks may stand before, blanks, the
version between double quotes, and anything behind them. -/
inductive HasVersion : List Char → List Char → Prop
  | row {indent word gap version rest : List Char} (hindent : AreBlanks indent)
      (hword : IsWord word)
      (hgap : AreBlanks gap) (hne : gap ≠ []) (hversion : IsQuotable version) :
      HasVersion (indent ++ (word ++ (gap ++ ('"' :: (version ++ '"' :: rest))))) version

/-- A quoted field is quotable text between double quotes. -/
theorem quotedField?_eq_some_iff :
    quotedField? chars = some field ↔
    IsQuotable field ∧ ∃ rest, chars = '"' :: (field ++ '"' :: rest) := by
  constructor
  · intro h
    unfold quotedField? at h
    split at h
    · split at h
      · cases h
      · next before after hne hcut =>
        obtain rfl := Option.some.inj h
        obtain ⟨rfl, hquote⟩ := cutAt?_eq_some_iff.1 hcut
        exact ⟨⟨fun hnil => hne hnil, hquote⟩, _, rfl⟩
      · cases h
    · cases h
  · rintro ⟨⟨hne, hquote⟩, rest, rfl⟩
    rw [quotedField?, cutAt?_eq_some_iff.2 ⟨rfl, hquote⟩]
    cases field with
    | nil => exact absurd rfl hne
    | cons c field => rfl

/-- A line of the form of a row is read as one. -/
theorem HasVersion.versionOf?_eq (h : HasVersion line version) :
    versionOf? line = some (String.ofList version) := by
  cases h with
  | @row indent word gap _ rest hindent hword hgap hne hversion =>
    obtain ⟨c, word, rfl⟩ := List.exists_cons_of_ne_nil hword.nonempty
    obtain ⟨d, gap, rfl⟩ := List.exists_cons_of_ne_nil hne
    have hquoted := quotedField?_eq_some_iff.2 ⟨hversion, rest, rfl⟩
    have hrow :
        (indent ++ (c :: word ++ (d :: gap ++ '"' :: (version ++ '"' :: rest)))).dropWhile isBlank =
          c :: word ++ (d :: gap ++ '"' :: (version ++ '"' :: rest)) := by
      rw [List.dropWhile_append_of_pos hindent, List.cons_append, List.dropWhile_cons_of_neg]
      simp [hword.solid c List.mem_cons_self]
    have hsecond : (c :: word ++ (d :: gap ++ '"' :: (version ++ '"' :: rest))).dropWhile
      (fun c => !isBlank c) =
        d :: gap ++ '"' :: (version ++ '"' :: rest) := by
      rw [List.dropWhile_append_of_pos fun e he => by rw [hword.solid e he]; rfl, List.cons_append,
        List.dropWhile_cons_of_neg]
      simp [hgap d List.mem_cons_self]
    have hgap' : (d :: gap ++ '"' :: (version ++ '"' :: rest)).dropWhile isBlank =
        '"' :: (version ++ '"' :: rest) := by
      rw [List.dropWhile_append_of_pos hgap, List.dropWhile_cons_of_neg (by decide)]
    simp only [versionOf?, hrow, hsecond]
    rw [List.cons_append, List.isEmpty_cons, if_neg Bool.false_ne_true]
    show (quotedField? ((d :: gap ++ '"' :: (version ++ '"' :: rest)).dropWhile isBlank)).map
        String.ofList = _
    rw [hgap', hquoted]
    rfl

/-- Where a run is dropped, the rest starts with a character that does not belong to it. -/
theorem exists_run_of_dropWhile {p : Char → Bool} {c : Char} {rest : List Char}
    (h : chars.dropWhile p = c :: rest) :
    p c = false ∧ ∃ run, (∀ e ∈ run, p e = true) ∧ chars = run ++ c :: rest := by
  have hhead := List.head_dropWhile_not p (show chars.dropWhile p ≠ [] by simp [h])
  refine ⟨by simpa [h] using hhead, chars.takeWhile p, fun e => List.mem_takeWhile_imp, ?_⟩
  rw [← h, List.takeWhile_append_dropWhile]

/-- A run is not empty if the text starts with a character of it. -/
theorem ne_nil_of_append {p : Char → Bool} {c d : Char} {run rest rest' : List Char}
    (hc : p c = true) (hd : p d = false) (h : c :: rest = run ++ d :: rest') : run ≠ [] := by
  rintro rfl
  rw [(List.cons.inj h).1, hd] at hc
  cases hc

/-- A line that has a version has the form of a row. -/
theorem hasVersion_of_versionOf? (h : versionOf? line = some v) : HasVersion line v.toList := by
  cases hrow : line.dropWhile isBlank with
  | nil => simp [versionOf?, hrow] at h
  | cons c row =>
    obtain ⟨hc, indent, hindent, rfl⟩ := exists_run_of_dropWhile hrow
    cases hsecond : (c :: row).dropWhile fun c => !isBlank c with
    | nil => simp [versionOf?, hrow, hsecond] at h
    | cons d second =>
      obtain ⟨hd, word, hword, hrest⟩ := exists_run_of_dropWhile hsecond
      have hne : word ≠ [] := ne_nil_of_append (p := fun c => !isBlank c) (by simp [hc]) hd hrest
      rw [hrest]
      have hquoted : (quotedField? ((d :: second).dropWhile isBlank)).map String.ofList =
          some v := by
        simpa only [versionOf?, hrow, hsecond, List.isEmpty_cons, Bool.false_eq_true,
          if_false] using h
      obtain ⟨version, hfield, rfl⟩ := Option.map_eq_some_iff.1 hquoted
      obtain ⟨hversion, rest, hquote⟩ := quotedField?_eq_some_iff.1 hfield
      obtain ⟨hq, gap, hgap, hafter⟩ := exists_run_of_dropWhile hquote
      have hgap' : gap ≠ [] := ne_nil_of_append (by simpa using hd) hq hafter
      rw [hafter, String.toList_ofList]
      exact .row hindent ⟨hne, fun e he => by simpa using hword e he⟩ hgap hgap' hversion

/-- **Exactly a line of the form of a row has a version**, the one between its double quotes. -/
theorem versionOf?_eq_some_iff : versionOf? line = some v ↔ HasVersion line v.toList :=
  ⟨hasVersion_of_versionOf?, fun h => by rw [h.versionOf?_eq, String.ofList_toList]⟩

/-! ### A listing -/

/-- The versions that some lines name, in their order: a line of the form of a row names its
version, and no other line names any. -/
inductive Names : List (List Char) → List String → Prop
  | nil : Names [] []
  | row {line : List Char} {v : String} {lines : List (List Char)} {vs : List String}
      (h : HasVersion line v.toList)
      (hrest : Names lines vs) : Names (line :: lines) (v :: vs)
  | other {line : List Char} {lines : List (List Char)} {vs : List String}
      (h : ∀ version, ¬ HasVersion line version)
      (hrest : Names lines vs) : Names (line :: lines) vs

theorem filterMap_versionOf?_eq_iff : lines.filterMap versionOf? = vs ↔ Names lines vs := by
  constructor
  · rintro rfl
    induction lines with
    | nil => exact .nil
    | cons line lines ih =>
      rw [List.filterMap_cons]
      cases hversion : versionOf? line with
      | none =>
        refine .other (fun version h => ?_) ih
        cases hversion.symm.trans h.versionOf?_eq
      | some v => exact .row (versionOf?_eq_some_iff.1 hversion) ih
  · intro h
    induction h with
    | nil => rfl
    | row h _ ih => rw [List.filterMap_cons_some (versionOf?_eq_some_iff.2 h), ih]
    | @other line _ _ h _ ih =>
      cases hversion : versionOf? line with
      | none => rw [List.filterMap_cons_none hversion, ih]
      | some v => exact absurd (versionOf?_eq_some_iff.1 hversion) (h _)

/-- **Two listings, one below the other**, name the versions of the first one and then those of the
second one. -/
theorem versions_append (upper lower : String) :
    versions (upper ++ "\n" ++ lower) = versions upper ++ versions lower := by
  obtain ⟨gap, hgap, hlines⟩ := splitLines_append_newline upper.toList lower.toList
  have htext : (upper ++ "\n" ++ lower).toList = upper.toList ++ '\n' :: lower.toList := by simp
  have hempty : versionOf? [] = none := rfl
  rw [versions, htext, hlines, List.filterMap_append, List.filterMap_append]
  rcases hgap with rfl | rfl <;> simp [versions, hempty]

/-- A row of a listing. -/
structure Row where
  product : String
  version : String
  rest : String

/-- The line of a row: product and version, each between double quotes, and the rest. -/
def Row.text (row : Row) : String :=
  "\"" ++ row.product ++ "\" \"" ++ row.version ++ "\" " ++ row.rest

/-- A row that fits into one line: the product is a word, the version can stand between double
quotes, and neither it nor the rest holds a character that ends a line. -/
structure Row.IsPrintable (row : Row) : Prop where
  product : IsWord row.product.toList
  version : IsQuotable row.version.toList
  unbroken : IsUnbroken row.version.toList
  rest : IsUnbroken row.rest.toList

theorem isBlank_of_isLineBreak {c : Char} (h : isLineBreak c = true) : isBlank c = true := by
  simp only [isLineBreak, isBlank, Bool.or_eq_true, Bool.and_eq_true, decide_eq_true_eq,
    beq_iff_eq] at h ⊢
  omega

instance (row : Row) : Decidable row.IsPrintable :=
  decidable_of_iff ((row.product.toList ≠ [] ∧
    row.product.toList.all (fun c => isBlank c = false) = true) ∧
      (row.version.toList ≠ [] ∧ '"' ∉ row.version.toList) ∧
      row.version.toList.all (fun c => isLineBreak c = false) = true ∧
      row.rest.toList.all (fun c => isLineBreak c = false) = true)
    ⟨fun ⟨⟨hne, hsolid⟩, ⟨hne', hquote⟩, hversion, hrest⟩ =>
        ⟨⟨hne, by simpa using hsolid⟩, ⟨hne', hquote⟩, by simpa [IsUnbroken] using hversion,
          by simpa [IsUnbroken] using hrest⟩,
      fun h => ⟨⟨h.product.nonempty, by simpa using h.product.solid⟩,
        ⟨h.version.nonempty, h.version.quote⟩,
        by simpa [IsUnbroken] using h.unbroken, by simpa [IsUnbroken] using h.rest⟩⟩

/-- The first field of a row. -/
def Row.word (row : Row) : List Char := '"' :: (row.product.toList ++ ['"'])

theorem Row.toList_text (row : Row) : row.text.toList =
    [] ++ (row.word ++
      ([' '] ++ ('"' :: (row.version.toList ++ '"' :: (' ' :: row.rest.toList))))) := by
  simp [text, word]

theorem Row.IsPrintable.isWord {row : Row} (h : row.IsPrintable) : IsWord row.word := by
  refine ⟨List.cons_ne_nil _ _,
    List.forall_mem_cons.2 ⟨by decide, List.forall_mem_append.2 ⟨h.product.solid, ?_⟩⟩⟩
  exact List.forall_mem_singleton.2 (by decide)

/-- A row that can be printed is one line, with its version. -/
theorem Row.IsPrintable.versions_text {row : Row} (h : row.IsPrintable) :
    versions row.text = [row.version] := by
  have hword : IsUnbroken row.word := fun c hc => by
    by_contra hbreak
    have hblank := isBlank_of_isLineBreak (Bool.eq_true_of_not_eq_false hbreak)
    rw [h.isWord.solid c hc] at hblank
    cases hblank
  have hunbroken : IsUnbroken row.text.toList := by
    simp only [IsUnbroken, row.toList_text, List.forall_mem_append, List.forall_mem_cons]
    exact ⟨isUnbroken_nil, hword, ⟨by decide, isUnbroken_nil⟩, by decide,
      h.unbroken, by decide, by decide, h.rest⟩
  have hversion : HasVersion row.text.toList row.version.toList := by
    rw [row.toList_text]
    exact .row (fun _ hc => absurd hc List.not_mem_nil)
      h.isWord (List.forall_mem_singleton.2 (by decide))
      (List.cons_ne_nil _ _) h.version
  have hne : row.text.toList ≠ [] := by simp [Row.text]
  rw [versions, splitLines_single _ hne hunbroken,
    List.filterMap_cons_some (versionOf?_eq_some_iff.2 hversion)]
  rfl

/-- **What is printed as rows is read back**, one version for each. -/
theorem versions_rows {rows : List Row} (h : ∀ row ∈ rows, row.IsPrintable) :
    versions (joinWith "\n" (rows.map Row.text)) = rows.map Row.version := by
  induction rows with
  | nil => rfl
  | cons row rows ih =>
    obtain ⟨hrow, hrows⟩ := List.forall_mem_cons.1 h
    cases rows with
    | nil => exact hrow.versions_text
    | cons next rows =>
      show versions (row.text ++ "\n" ++ joinWith "\n" ((next :: rows).map Row.text)) = _
      rw [versions_append, hrow.versions_text, ih hrows]
      rfl

/-- **The versions of a listing are those of its rows.** The versions of a text are those of its
lines that have the form of a row, in their order. Of two listings with a line feed between them,
the versions of the second one come behind those of the first one. A listing of rows that fit into a
line each has their versions. -/
theorem versions_are_those_of_rows :
    (∀ output vs, versions output = vs ↔ ∃ lines, AreLines output.toList lines ∧ Names lines vs) ∧
    (∀ upper lower, versions (upper ++ "\n" ++ lower) = versions upper ++ versions lower) ∧
    ∀ rows : List Row, (∀ row ∈ rows, row.IsPrintable) →
      versions (joinWith "\n" (rows.map Row.text)) = rows.map Row.version := by
  refine ⟨fun output vs => ?_, versions_append, fun rows => versions_rows⟩
  rw [versions, filterMap_versionOf?_eq_iff]
  constructor
  · exact fun h => ⟨_, splitLines_eq_iff.1 rfl, h⟩
  · rintro ⟨lines, hlines, h⟩
    rwa [splitLines_eq_iff.2 hlines]

/-- Two rows, of which the first one has blanks in its version and a quotation mark in its
product. -/
theorem versions_are_those_of_two_rows :
    let rows : List Row := [⟨"cl\"ang", "v9 beta", "\"Linux\""⟩, ⟨"clang", "v10_0", ""⟩]
    (∀ row ∈ rows, row.IsPrintable) ∧ versions (joinWith "\n" (rows.map Row.text)) =
      ["v9 beta", "v10_0"] := by
  intro rows
  have hrows : ∀ row ∈ rows, row.IsPrintable := by decide
  exact ⟨hrows, versions_are_those_of_rows.2.2 rows hrows⟩

end LintRun.Listing
