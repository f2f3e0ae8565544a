import Mathlib
import LintRun.Analysis.Runner
import LintRun.Proofs.Files.Path
import LintRun.Proofs.Text.Line
import LintRun.Proofs.Toolchain.Resolver

/-!
# Proofs — Toolchain — What the analyzer sees of an activation

The script that sets up a version prints the environment that it ends with. What it has changed is
kept with the toolchain, and the analyzer starts from its own environment with these changes laid
over it.

* `Environment.get?_overlay`, `Environment.get?_changes`: which value a variable has.
* `Environment.get?_overlay_changes`: changes that are laid over what they were found against.
* `Environment.ofDump_dump`, `Environment.isPrintable_ofDump`: a printed environment reads back, and
  what is read can be printed.
* `Environment.dump_reads_back_and_changes_settle`: which environments read back, what the changes
  between two of them are, and that nothing has changed once they are laid over.
* `Resolver.analyzer_sees_activated_variables`: what the analyzer sees of the environment that the
  last script prints.
* `Resolver.analyzer_keeps_removed_variable`: a variable that the last script removes is still
  there.
-/

namespace LintRun

namespace Environment

variable {env lower upper before after : Environment} {name value : String}

/-- The names of the variables. -/
abbrev names (env : Environment) : List String := env.map Prod.fst

/-- An environment that can be printed: each name is there once, no name holds an equals sign, and
neither names nor values hold a NUL. -/
structure IsPrintable (env : Environment) : Prop where
  nodup : env.names.Nodup
  equals : ∀ e ∈ env, '=' ∉ e.1.toList
  nul : ∀ e ∈ env, '\x00' ∉ e.1.toList ∧ '\x00' ∉ e.2.toList

instance (env : Environment) : Decidable env.IsPrintable :=
  decidable_of_iff (env.names.Nodup ∧ (∀ e ∈ env, '=' ∉ e.1.toList) ∧
      ∀ e ∈ env, '\x00' ∉ e.1.toList ∧ '\x00' ∉ e.2.toList)
    ⟨fun ⟨h₁, h₂, h₃⟩ => ⟨h₁, h₂, h₃⟩, fun ⟨h₁, h₂, h₃⟩ => ⟨h₁, h₂, h₃⟩⟩

theorem get?_cons (n v : String) (rest : Environment) (name : String) :
    get? ((n, v) :: rest) name = if name = n then some v else rest.get? name := by
  rw [get?, List.lookup_cons]
  by_cases h : name = n <;> simp [h, get?, beq_false_of_ne]

/-- A variable has no value when it is not there. -/
theorem get?_eq_none_iff : env.get? name = none ↔ name ∉ env.names := by
  induction env with
  | nil => simp [get?]
  | cons e rest ih =>
    obtain ⟨n, v⟩ := e
    by_cases h : name = n <;> simp_all [get?_cons]

/-! ### One environment over another -/

@[simp] theorem get?_set (env : Environment) (n v name : String) :
    (env.set n v).get? name = if name = n then some v else env.get? name := by
  induction env with
  | nil => exact get?_cons n v [] name
  | cons e rest ih =>
    obtain ⟨m, w⟩ := e
    rw [set]
    by_cases hm : m = n
    · subst hm
      rw [if_pos rfl, get?_cons, get?_cons]
      split <;> rfl
    · rw [if_neg hm, get?_cons, ih, get?_cons]
      by_cases hname : name = m
      · rw [if_pos hname, if_pos hname, if_neg (hname ▸ hm)]
      · rw [if_neg hname, if_neg hname]

/-- **What lies above wins.** -/
theorem get?_overlay (hupper : upper.names.Nodup) (lower : Environment) (name : String) :
    (lower.overlay upper).get? name = (upper.get? name).or (lower.get? name) := by
  -- the variables of `upper` are set one after the other, so the induction is over all environments
  -- below
  induction upper generalizing lower with
  | nil => rfl
  | cons e rest ih =>
    obtain ⟨n, v⟩ := e
    obtain ⟨hn, hrest⟩ := List.nodup_cons.1 hupper
    rw [show lower.overlay ((n, v) :: rest) = (lower.set n v).overlay rest from rfl, ih hrest,
      get?_set, get?_cons]
    by_cases hname : name = n
    · subst hname
      rw [get?_eq_none_iff.2 hn, if_pos rfl, if_pos rfl]
      rfl
    · rw [if_neg hname, if_neg hname]

/-- A new variable comes behind the others. -/
theorem set_of_notMem (h : name ∉ env.names) (value : String) :
    env.set name value = env ++ [(name, value)] := by
  induction env with
  | nil => rfl
  | cons e rest ih =>
    rw [names, List.map_cons, List.mem_cons, not_or] at h
    rw [set, if_neg fun he => h.1 he.symm, ih h.2]
    rfl

/-- New variables come after those that are there. -/
theorem overlay_eq_append (h : (lower ++ upper).names.Nodup) :
    lower.overlay upper = lower ++ upper := by
  induction upper generalizing lower with
  | nil => exact (List.append_nil lower).symm
  | cons e rest ih =>
    obtain ⟨n, v⟩ := e
    have hn : n ∉ lower.names := by
      rw [names, List.map_append, List.nodup_append] at h
      exact fun hmem => h.2.2 n hmem n (by simp) rfl
    rw [show lower.overlay ((n, v) :: rest) = (lower.set n v).overlay rest from rfl,
      set_of_notMem hn, ih (by simpa using h), List.append_assoc]
    rfl

theorem mem_of_mem_set {e : String × String} (h : e ∈ env.set name value) :
    e = (name, value) ∨ e ∈ env := by
  induction env with
  | nil => exact .inl (List.mem_singleton.1 h)
  | cons first rest ih =>
    rw [set] at h
    split at h
    · exact (List.mem_cons.1 h).imp_right (List.mem_cons_of_mem _)
    · rcases List.mem_cons.1 h with rfl | h
      · exact .inr List.mem_cons_self
      · exact (ih h).imp_right (List.mem_cons_of_mem _)

/-- A variable that is set again keeps its place. -/
theorem names_set_of_mem (h : name ∈ env.names) (value : String) :
    (env.set name value).names = env.names := by
  induction env with
  | nil => exact absurd h List.not_mem_nil
  | cons e rest ih =>
    rw [set]
    split
    case isTrue he => rw [names, List.map_cons, names, List.map_cons, he]
    case isFalse he =>
      rw [names, List.map_cons, names, List.map_cons]
      exact congrArg _ (ih ((List.mem_cons.1 h).resolve_left fun hname => he hname.symm))

/-- Setting a variable does not make two of it. -/
theorem nodup_set (h : env.names.Nodup) (name value : String) :
    (env.set name value).names.Nodup := by
  by_cases hname : name ∈ env.names
  · rwa [names_set_of_mem hname]
  · rw [set_of_notMem hname, names, List.map_append]
    exact List.nodup_append'.2 ⟨h, List.nodup_singleton name, by simpa using hname⟩

/-- **What an environment over another one is made of**: each name is there once, and each variable
is one of them. -/
theorem overlay_subset (h : lower.names.Nodup) (upper : Environment) :
    (lower.overlay upper).names.Nodup ∧ ∀ e ∈ lower.overlay upper, e ∈ lower ∨ e ∈ upper := by
  induction upper generalizing lower with
  | nil => exact ⟨h, fun e he => .inl he⟩
  | cons first rest ih =>
    obtain ⟨hnodup, hmem⟩ := ih (nodup_set h first.1 first.2)
    refine ⟨hnodup, fun e he => ?_⟩
    rcases hmem e he with he | he
    · rcases mem_of_mem_set he with rfl | he
      · exact .inr List.mem_cons_self
      · exact .inl he
    · exact .inr (List.mem_cons_of_mem _ he)

/-! ### Changes -/

/-- **A change is a variable with another value than before**, the shell's own variables aside. -/
theorem get?_changes (hafter : after.names.Nodup) (before : Environment) (name : String) :
    (changes before after).get? name =
      (after.get? name).filter fun v => !shellVariables.contains name &&
        before.get? name ≠ some v := by
  induction after with
  | nil => rfl
  | cons e rest ih =>
    obtain ⟨n, v⟩ := e
    obtain ⟨hn, hrest⟩ := List.nodup_cons.1 hafter
    have hchanges : changes before ((n, v) :: rest) =
        if !shellVariables.contains n && before.get? n ≠ some v then (n, v) :: changes before rest
        else changes before rest := List.filter_cons
    rw [hchanges, get?_cons]
    by_cases hname : name = n
    · subst hname
      rw [if_pos rfl, Option.filter_some]
      split
      · rw [get?_cons, if_pos rfl]
      · rw [ih hrest, get?_eq_none_iff.2 hn]
        rfl
    · rw [if_neg hname, ← ih hrest]
      split
      · rw [get?_cons, if_neg hname]
      · rfl

theorem nodup_changes (hafter : after.names.Nodup) (before : Environment) :
    (changes before after).names.Nodup :=
  hafter.sublist (List.filter_sublist.map Prod.fst)

/-- **Changes that are laid over what they were found against** give what they were found in, except
for the shell's own variables and for variables that are no longer there. -/
theorem get?_overlay_changes (hafter : after.names.Nodup) (before : Environment) (name : String) :
    (before.overlay (changes before after)).get? name =
      if name ∈ shellVariables then before.get? name else
        (after.get? name).or (before.get? name) := by
  rw [get?_overlay (nodup_changes hafter before), get?_changes hafter]
  by_cases hshell : name ∈ shellVariables
  · simp [hshell]
  · cases hget : after.get? name with
    | none => simp [hshell]
    | some v => by_cases hsame : before.get? name = some v <;>
        simp [hshell, hsame, Option.filter_some]

/-- A change is a variable with a value that it did not have, unless the shell itself keeps it. -/
theorem mem_changes {e : String × String} :
    e ∈ changes before after ↔ e ∈ after ∧ e.1 ∉ shellVariables ∧ before.get? e.1 ≠ some e.2 := by
  simp [changes]

/-- Where names are distinct, a variable has the value that it is there with. -/
theorem get?_of_mem (h : env.names.Nodup) {e : String × String} (he : e ∈ env) :
    env.get? e.1 = some e.2 := by
  induction env with
  | nil => exact absurd he List.not_mem_nil
  | cons first rest ih =>
    obtain ⟨hfirst, hrest⟩ := List.nodup_cons.1 h
    rw [get?_cons]
    rcases List.mem_cons.1 he with rfl | he
    · exact if_pos rfl
    · rw [if_neg fun hname : e.1 = first.1 => hfirst (hname ▸ List.mem_map_of_mem he), ih hrest he]

/-- Over their changes nothing changes any more. -/
theorem changes_overlay_changes (hafter : after.names.Nodup) (before : Environment) :
    changes (before.overlay (changes before after)) after = [] := by
  refine List.eq_nil_iff_forall_not_mem.2 fun e he => ?_
  obtain ⟨hmem, hshell, hother⟩ := mem_changes.1 he
  rw [get?_overlay_changes hafter, if_neg hshell, get?_of_mem hafter hmem] at hother
  exact hother rfl

/-! ### Dumps -/

/-- The entry of a variable. -/
def entry (n v : String) : List Char := n.toList ++ '=' :: v.toList

/-- A variable reads back from its entry, if its name has no equals sign. -/
theorem ofEntry?_entry (n v : String) (h : '=' ∉ n.toList) :
    ofEntry? (entry n v) = some (n, v) := by
  unfold ofEntry?
  rw [entry, Text.cutAt?_eq_some_iff.2 ⟨rfl, h⟩]
  simp

/-- An entry that has a variable is the entry of it. -/
theorem eq_of_ofEntry? {chars : List Char} {e : String × String} (h : ofEntry? chars = some e) :
    chars = entry e.1 e.2 ∧ '=' ∉ e.1.toList := by
  obtain ⟨⟨n, v⟩, hcut, rfl⟩ := Option.map_eq_some_iff.1 h
  obtain ⟨rfl, hn⟩ := Text.cutAt?_eq_some_iff.1 hcut
  simpa [entry] using hn

theorem IsPrintable.of_cons {e : String × String} {rest : Environment}
    (h : IsPrintable (e :: rest)) :
    rest.IsPrintable :=
  ⟨(List.nodup_cons.1 h.nodup).2, (List.forall_mem_cons.1 h.equals).2,
    (List.forall_mem_cons.1 h.nul).2⟩

/-- The entries of a dump are the variables that it was made of. -/
theorem entries_dump (h : env.IsPrintable) :
    (Text.splitAt '\x00' env.dump.toList).filterMap ofEntry? = env := by
  rw [dump, String.toList_ofList]
  induction env with
  | nil => rfl
  | cons e rest ih =>
    obtain ⟨n, v⟩ := e
    obtain ⟨hn, hv⟩ := h.nul (n, v) List.mem_cons_self
    have hnul : '\x00' ∉ entry n v := by simp [entry, hn, hv]
    rw [List.flatMap_cons]
    show (Text.splitAt '\x00' ((entry n v ++ ['\x00']) ++ _)).filterMap ofEntry? = _
    rw [List.append_assoc, List.singleton_append, Text.splitAt_append hnul, List.filterMap_cons,
      ofEntry?_entry n v (h.equals (n, v) List.mem_cons_self), ih h.of_cons]

/-- **A printed environment reads back.** -/
theorem ofDump_dump (h : env.IsPrintable) : ofDump env.dump = env := by
  rw [ofDump, entries_dump h, overlay_eq_append (by simpa using h.nodup), List.nil_append]

/-- Whatever a text is, the environment that is read of it can be printed. -/
theorem isPrintable_ofDump (output : String) : (ofDump output).IsPrintable := by
  obtain ⟨hnodup, hmem⟩ := overlay_subset (show (names []).Nodup from List.nodup_nil)
    ((Text.splitAt '\x00' output.toList).filterMap ofEntry?)
  have hentry : ∀ e ∈ ofDump output, '\x00' ∉ entry e.1 e.2 ∧ '=' ∉ e.1.toList := by
    intro e he
    obtain ⟨chars, hchars, hread⟩ :=
      List.mem_filterMap.1 ((hmem e he).resolve_left List.not_mem_nil)
    obtain ⟨rfl, hequals⟩ := eq_of_ofEntry? hread
    exact ⟨Text.notMem_of_mem_splitAt hchars, hequals⟩
  refine ⟨hnodup, fun e he => (hentry e he).2, fun e he => ?_⟩
  have hnul := (hentry e he).1
  simp only [entry, List.mem_append, List.mem_cons, not_or] at hnul
  exact ⟨hnul.1, hnul.2.2⟩

/-- **Environments read back, and changes settle.** A printed environment reads back, in its order,
exactly if it can be printed. What has changed between two environments is made of the variables of
the second one that are not the shell's own and have another value in the first one, or none there.
Once the changes are laid over the first environment, nothing has changed any more. -/
theorem dump_reads_back_and_changes_settle :
    (∀ env : Environment, ofDump env.dump = env ↔ env.IsPrintable) ∧
    ∀ before after : Environment, after.names.Nodup →
      (∀ e, e ∈ changes before after ↔ e ∈ after ∧ e.1 ∉ shellVariables ∧
        before.get? e.1 ≠ some e.2) ∧
      changes (before.overlay (changes before after)) after = [] :=
  ⟨fun env => ⟨fun h => h ▸ isPrintable_ofDump env.dump, ofDump_dump⟩,
    fun before _ hafter => ⟨fun _ => mem_changes, changes_overlay_changes hafter before⟩⟩

/-- An empty name, an empty value and one with an equals sign and a line feed read back; of four
variables, one of them the shell's own and one with the same value as before, two are changes, and
laid over what was before they are none. -/
theorem changes_with_empty_name_settle :
    let before := [("HOME", "/h"), ("SHLVL", "1"), ("OPTS", "-v"), ("GONE", "1")]
    let after := [("SHLVL", "2"), ("OPTS", ""), ("HOME", "/h"), ("", "a=b\nc")]
    ofDump (dump after) = after ∧
    changes before after = [("OPTS", ""), ("", "a=b\nc")] ∧
    ("", "a=b\nc") ∈ changes before after ∧ ("SHLVL", "2") ∉ changes before after ∧
    changes (overlay before (changes before after)) after = [] := by
  intro before after
  obtain ⟨hreads, hchanges⟩ := dump_reads_back_and_changes_settle
  obtain ⟨hmem, hsettles⟩ := hchanges before after (by decide)
  exact ⟨(hreads after).2 (by decide), by decide, (hmem _).2 (by decide),
    fun h => ((hmem _).1 h).2.1 (by decide), hsettles⟩

end Environment

namespace Resolver

open Environment

/-- **The analyzer sees the variables that an activation leaves.** Let a resolution, whatever the
resolver has done before, give a toolchain, and let its last script print the environment `after`.
In the environment that an analyzer is started in, if it inherits the one that the scripts start
from, each variable of `after` that is not the shell's own has its value there. All other variables
are as they are inherited, also those that the last script has removed. -/
theorem analyzer_sees_activated_variables (r : Resolver) (products : Path) (s : Session)
    (t : Toolchain) (version : String) (result : ShellResult) (after : Environment)
    (hgives : ((r.resolve products).run s).1 = .ok t) (hversion : t.version = some version)
    (hlast : r.answer products s.scripts.length 2 (setupCommands r.product version) = .ok result)
    (hprints : result.output = after.dump) (hafter : after.IsPrintable) (name : String) :
    (Runner.environmentFor r.environment (some t)).get? name =
      if name ∈ shellVariables then r.environment.get? name
      else (after.get? name).or (r.environment.get? name) := by
  obtain ⟨scripts, last, hends, -, -⟩ := r.resolve_ends products s
  have ht : t = r.activated products version result := by
    rw [hgives] at hends
    cases hends with
    | active _ hanswer _ =>
      obtain rfl := Option.some.inj hversion
      rw [hlast] at hanswer
      cases hanswer
      rfl
  have hchanges : t.environment = changes r.environment after := by
    rw [ht, activated, hprints, ofDump_dump hafter]
  rw [Runner.environmentFor, hchanges, get?_overlay_changes hafter.nodup]

/-- A resolver whose last script changes a variable, adds one and removes one. -/
def changing : Resolver :=
  { pinned := some "v9"
    environment := [("GONE", "1"), ("SHLVL", "1"), ("KEPT", "old")]
    shell := fun ran _ _ => match ran with
      | 1 => .ok { output := "\"clang\" \"v9\" \"Linux\"\n" }
      | 2 => .ok { output := "KEPT=new\x00SHLVL=2\x00CLANG_DIR=a=b\x00" }
      | _ => .ok {}
    tree := ⟨.directory [("p", .directory [("setup", .file [] false)])], []⟩ }

/-- What the last script of `changing` prints. -/
def changedTo : Environment := [("KEPT", "new"), ("SHLVL", "2"), ("CLANG_DIR", "a=b")]

theorem resolve_changing : ((changing.resolve ⟨.absolute, ["p"]⟩).run {}).1 =
    .ok (changing.activated ⟨.absolute, ["p"]⟩ "v9" { output := changedTo.dump }) := by
  have hfile : changing.tree.isFile (setupFile ⟨.absolute, ["p"]⟩) = .ok true :=
    FileTree.leadsTo_of_find? Node.isFile (.file [] false) (.inl rfl) (by decide)
      (by decide) (by decide) rfl
  simp only [resolve, Stateful.run_bind, run_remember, setUp, hfile, run_run]
  cbv

/-- A changed variable has its new value, and of the shell's own one the analyzer sees the one that
it inherits. -/
theorem analyzer_sees_changed_variable :
    ∃ t, ((changing.resolve ⟨.absolute, ["p"]⟩).run {}).1 = .ok t ∧
      (Runner.environmentFor changing.environment (some t)).get? "KEPT" = some "new" ∧
      (Runner.environmentFor changing.environment (some t)).get? "SHLVL" = some "1" := by
  have hsees := analyzer_sees_activated_variables changing ⟨.absolute, ["p"]⟩ {}
      _ "v9" { output := changedTo.dump }
    changedTo resolve_changing rfl (by cbv) rfl (by decide)
  exact ⟨_, resolve_changing, (hsees "KEPT").trans (by decide), (hsees "SHLVL").trans (by decide)⟩

/-- **A variable that an activation removes is still there for the analyzer.** -/
theorem analyzer_keeps_removed_variable :
    ∃ t, ((changing.resolve ⟨.absolute, ["p"]⟩).run {}).1 = .ok t ∧
      changing.answer ⟨.absolute, ["p"]⟩ 0 2 (setupCommands "clang" "v9") =
        .ok { output := changedTo.dump } ∧
      changing.environment.get? "GONE" = some "1" ∧ changedTo.get? "GONE" = none ∧
      (Runner.environmentFor changing.environment (some t)).get? "GONE" = some "1" :=
  ⟨_, resolve_changing, by cbv, by decide, by decide, by cbv⟩

end Resolver
end LintRun
