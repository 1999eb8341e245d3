import EntityQuery.Proofs.WrittenYaml

/-!
# Writing a query file and reading it back

A parsed file that is written and read again comes back as it was, but for its package list,
with any YAML library that reads back what it writes for the file (`YamlCodec.ReadsBack`):
`parsed_file_reads_back_after_writing`. The package list goes through its own hooks:
an empty list is left out when written, as an empty field is, so it reads back absent
(`empty_package_list_reads_back_absent`), and a list of one empty name is written as an empty
string, which reads back as no packages (`parsed_file_reads_back_after_writing_empty_name`).
`rereadPackages` says what every package list reads back as.

The proof has two parts. What the library reads back is the file as written, the package list
as its reading hook reads what its writing hook gave (`StringOrArray.unmarshal_of_holds`,
`unmarshal_marshalWith`). The defaults a parsed file already has are not changed by being applied
again (`withDefaults_withDefaults`), and applying them commutes with rereading the package list.
-/

set_option autoImplicit false

namespace EntityQuery

variable {N : Type}

namespace QueryFile

/-- What a package list reads back as once written: an empty list is left out, so it reads
back absent, and a list of one empty name is written as an empty string, which reads back as
no packages. -/
def rereadPackages : Option (List String) → Option (List String)
  | some [] => none
  | some [""] => some []
  | ps => ps

theorem rereadPackages_eq_none {ps : Option (List String)} (h : ps.getD [] = []) :
    rereadPackages ps = none := by
  cases ps with
  | none => rfl
  | some l =>
    simp only [Option.getD_some] at h
    subst h
    rfl

theorem rereadPackages_some {ps : List String} (hne : ps ≠ []) :
    rereadPackages (some ps) = some (if ps = [""] then [] else ps) := by
  match ps, hne with
  | [p], _ => by_cases hp : p = "" <;> simp [rereadPackages, hp]
  | p :: q :: rest, _ => simp [rereadPackages]

/-- The file as it reads back once written: the same, but for its package list. -/
def reread (qf : QueryFile) : QueryFile := { qf with packages := rereadPackages qf.packages }

end QueryFile

/-- The reading hook reads a node holding what the writing hook gave for a list of packages as
the list reads back: one empty name as none, any other list as itself. -/
theorem StringOrArray.unmarshal_of_holds (y : YamlCodec N) {ps : List String} (hne : ps ≠ [])
    {n : N} (h : y.Holds (StringOrArray.marshal ps) n) :
    StringOrArray.unmarshal y n = .ok (if ps = [""] then [] else ps) := by
  -- one package is written as a string, more as a list
  match ps, hne with
  | [p], _ =>
    obtain ⟨hkind, hdecode⟩ := h
    by_cases hp : p = "" <;> simp [StringOrArray.unmarshal, hkind, hdecode, hp, Except.map]
  | p :: q :: rest, _ =>
    obtain ⟨hkind, hdecode⟩ := h
    simp [StringOrArray.unmarshal, hkind, hdecode]

namespace QueryFile

/-- A library that reads back what it writes for a file reads the written file back with its
package list as it reads back. -/
theorem unmarshal_marshalWith {y : YamlCodec N} {qf : QueryFile}
    (h : y.ReadsBack StringOrArray.marshal qf) :
    y.unmarshal (StringOrArray.unmarshal y) (marshalWith y qf) = .ok qf.reread := by
  by_cases hnil : qf.packages.getD [] = []
  · rw [marshalWith, h.omitted hnil, reread, rereadPackages_eq_none hnil]
  · have hsome : qf.packages = some (qf.packages.getD []) := by
      cases hp : qf.packages with
      | none => simp [hp] at hnil
      | some ps => rfl
    rw [marshalWith, h.written hnil _ _ fun n hn => StringOrArray.unmarshal_of_holds y hnil hn,
      reread, hsome, rereadPackages_some hnil]
    rfl

/-! ### Defaults -/

theorem setDefaultDepth_setDefaultDepth (qf : QueryFile) (d d' : Int) :
    (qf.setDefaultDepth d).setDefaultDepth d' = qf.setDefaultDepth d := by
  simp [setDefaultDepth, Function.comp_def]

/-- Defaults applied twice are applied once: after the first time the version is set, and
when there is a file depth every query has a depth. -/
theorem withDefaults_withDefaults (qf : QueryFile) :
    qf.withDefaults.withDefaults = qf.withDefaults := by
  unfold withDefaults
  split_ifs <;> cases hd : qf.depth <;> simp_all [setDefaultDepth, Function.comp_def]

theorem reread_withDefaults (qf : QueryFile) : qf.reread.withDefaults = qf.withDefaults.reread := by
  unfold withDefaults
  split_ifs <;> cases hd : qf.depth <;> simp_all [reread, setDefaultDepth]

/-- A parsed file is a decoded one with its defaults. -/
theorem exists_unmarshalled_of_parseWith {y : YamlCodec N} {text : String} {qf : QueryFile}
    (h : parseWith y text = .ok qf) :
    ∃ raw, y.unmarshal (StringOrArray.unmarshal y) text = .ok raw ∧ qf = raw.withDefaults := by
  unfold parseWith at h
  split at h
  · cases h
  · rename_i raw hraw
    cases h
    exact ⟨raw, hraw, rfl⟩

/-- A parsed file has its defaults already. -/
theorem withDefaults_of_parseWith {y : YamlCodec N} {text : String} {qf : QueryFile}
    (h : parseWith y text = .ok qf) : qf.withDefaults = qf := by
  obtain ⟨raw, -, rfl⟩ := exists_unmarshalled_of_parseWith h
  exact withDefaults_withDefaults raw

/-! ### Writing and reading back -/

/-- A parsed file, written and read back, is the same file but for its package list, with any
YAML library that reads back what it writes for the file. -/
theorem parsed_file_reads_back_after_writing (y : YamlCodec N) (text : String) (qf : QueryFile)
    (hparse : parseWith y text = .ok qf) (hread : y.ReadsBack StringOrArray.marshal qf) :
    parseWith y (marshalWith y qf) = .ok { qf with packages := rereadPackages qf.packages } := by
  have hdefaults : qf.reread.withDefaults = qf.reread := by
    rw [reread_withDefaults, withDefaults_of_parseWith hparse]
  rw [parseWith, unmarshal_marshalWith hread]
  simp only [hdefaults]
  rfl

/-- With the reader and writer the program runs, a list of one empty name is written as an empty
string and reads back as no packages. -/
theorem parsed_file_reads_back_after_writing_empty_name :
    parseWith Yaml.library "packages: [\"\"]\ndepth: 2\n" =
      .ok { version := "1", packages := some [""], depth := some 2 } ∧
    Yaml.library.ReadsBack StringOrArray.marshal
      { version := "1", packages := some [""], depth := some 2 } ∧
    parseWith Yaml.library (marshalWith Yaml.library
      { version := "1", packages := some [""], depth := some 2 }) =
      .ok { version := "1", packages := some [], depth := some 2 } := by
  have hparse : parseWith Yaml.library "packages: [\"\"]\ndepth: 2\n" =
      .ok { version := "1", packages := some [""], depth := some 2 } := by
    decide +kernel
  have hread : Yaml.library.ReadsBack StringOrArray.marshal
      { version := "1", packages := some [""], depth := some 2 } :=
    library_readsBack (by decide +kernel)
  exact ⟨hparse, hread, parsed_file_reads_back_after_writing Yaml.library _ _ hparse hread⟩

/-- An empty package list is left out when written, and reads back absent. -/
theorem empty_package_list_reads_back_absent :
    parse "packages: []\n" = .ok { version := "1", packages := some [] } ∧
    parse (marshal { version := "1", packages := some [] }) = .ok { version := "1" } := by
  decide +kernel

end QueryFile

end EntityQuery
