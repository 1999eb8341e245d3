import EntityQuery.Proofs.RoundTrip
import EntityQuery.QueryFile.Validate

/-!
# Which depth a query is built at

Two writers give queries their depth: reading a file, which hands the file's depth to every
query without one, and `setDefaultDepth`, which a caller may use after reading, any number of
times. The depth a query ends up with is its own when the file sets one for it (zero included),
else the file's, else the one of the first later call; later calls change nothing
(`setDefaultDepths_cons`). A query is built at that depth, and at the default depth only while it
has none (`depths_follow_query_then_file_then_first_call`). This holds whatever YAML library reads
the file: the depths a query and the file have are what the library decodes from their keys.

The argument follows the two writers: reading replaces each query's depth by its own or the
file's (`queries_withDefaults`), a call by that or the call's (`queries_setDefaultDepth`), and
a call after a call finds every depth set.
-/

set_option autoImplicit false

namespace EntityQuery

namespace QueryFile

/-- `setDefaultDepth` called with each depth in turn. -/
def setDefaultDepths (qf : QueryFile) (ds : List Int) : QueryFile := ds.foldl setDefaultDepth qf

@[simp] theorem setDefaultDepths_nil (qf : QueryFile) : qf.setDefaultDepths [] = qf := rfl

/-- Only the first call counts: after it the file and every query have a depth. -/
theorem setDefaultDepths_cons (qf : QueryFile) (d : Int) (ds : List Int) :
    qf.setDefaultDepths (d :: ds) = qf.setDefaultDepth d := by
  induction ds generalizing qf with
  | nil => rfl
  | cons d' ds ih =>
    change (qf.setDefaultDepth d |>.setDefaultDepth d').setDefaultDepths ds = _
    rw [setDefaultDepth_setDefaultDepth]
    exact ih qf

theorem queries_setDefaultDepth (qf : QueryFile) (d : Int) :
    (qf.setDefaultDepth d).queries =
      qf.queries.map fun q => { q with depth := (q.depth.or qf.depth).or (some d) } := by
  simp only [setDefaultDepth]
  congr 1
  funext q
  cases q.depth <;> cases qf.depth <;> rfl

@[simp] theorem depth_withDefaults (qf : QueryFile) : qf.withDefaults.depth = qf.depth := by
  unfold withDefaults
  split_ifs <;> cases hd : qf.depth <;> simp [setDefaultDepth, hd]

theorem queries_withDefaults (qf : QueryFile) :
    qf.withDefaults.queries = qf.queries.map fun q => { q with depth := q.depth.or qf.depth } := by
  unfold withDefaults
  split_ifs <;> cases hd : qf.depth <;> simp [setDefaultDepth, hd]

/-- After reading and any calls, a query's depth is its own, else the file's, else the first
call's. -/
theorem queries_setDefaultDepths_withDefaults (raw : QueryFile) (ds : List Int) :
    (raw.withDefaults.setDefaultDepths ds).queries =
      raw.queries.map fun q => { q with depth := (q.depth.or raw.depth).or ds.head? } := by
  cases ds with
  | nil => simp [queries_withDefaults, Option.or_none]
  | cons d ds =>
    rw [setDefaultDepths_cons, queries_setDefaultDepth, queries_withDefaults, List.map_map,
      depth_withDefaults]
    congr 1
    funext q
    simp only [Function.comp_apply, List.head?_cons]
    cases q.depth <;> cases raw.depth <;> rfl

/-- For a file that a YAML library reads, with `raw` what the library decodes from its keys
before defaults: after any calls of `setDefaultDepth`, each query's effective depth is its own
depth, else the file's, else the first call's, else the fallback; a call after the first changes
nothing; and each query is built from its own template or id and paging at that depth, with the
default depth when none is set. -/
theorem depths_follow_query_then_file_then_first_call {N : Type} (y : YamlCodec N)
    {text : String} {qf : QueryFile} (h : parseWith y text = .ok qf) :
    ∃ raw, y.unmarshal (StringOrArray.unmarshal y) text = .ok raw ∧
    ∀ ds : List Int,
      (∀ x : Int, (qf.setDefaultDepths ds).queries.map (·.effectiveDepth x) =
        raw.queries.map fun q => ((q.depth.or raw.depth).or ds.head?).getD x) ∧
      (∀ d rest, ds = d :: rest → qf.setDefaultDepths ds = qf.setDefaultDepth d) ∧
      ∀ {K : Type} [DecidableEq K] (e : Query.Expander K) (c : Catalog K)
        (root : Option (Descriptor K)),
        (qf.setDefaultDepths ds).queries.map (·.renderWith e c root) =
          raw.queries.map fun q =>
            let depth := ((q.depth.or raw.depth).or ds.head?).getD Query.defaultDepth
            if q.id != "" then e.findById c root q.id depth
            else e.expand c root q.template q.offset q.limit depth := by
  obtain ⟨raw, hraw, rfl⟩ := exists_unmarshalled_of_parseWith h
  refine ⟨raw, hraw, fun ds => ⟨?_, ?_, ?_⟩⟩
  · intro x
    rw [queries_setDefaultDepths_withDefaults, List.map_map]
    rfl
  · rintro d rest rfl
    exact setDefaultDepths_cons _ d rest
  · intro K _ e c root
    rw [queries_setDefaultDepths_withDefaults, List.map_map]
    rfl

/-- With the reader the program runs: a query with an explicit zero keeps it; one without takes
the first call's depth, not the second's. -/
theorem depths_follow_query_then_file_then_first_call_zero :
    parseWith Yaml.library "queries:\n  - name: a\n    depth: 0\n  - name: b\n" =
      .ok { version := "1", queries := [{ name := "a", depth := some 0 }, { name := "b" }] } ∧
    (({ version := "1", queries := [{ name := "a", depth := some 0 }, { name := "b" }] } :
      QueryFile).setDefaultDepths [7, 9]).queries.map (·.effectiveDepth 5) = [0, 7] := by
  have hparse : parseWith Yaml.library "queries:\n  - name: a\n    depth: 0\n  - name: b\n" =
      .ok { version := "1", queries := [{ name := "a", depth := some 0 }, { name := "b" }] } := by
    decide +kernel
  have hdecode : (Yaml.library.unmarshal (StringOrArray.unmarshal Yaml.library)
      "queries:\n  - name: a\n    depth: 0\n  - name: b\n").toOption =
      some { queries := [{ name := "a", depth := some 0 }, { name := "b" }] } := by
    decide +kernel
  obtain ⟨raw, hraw, hdepths⟩ := depths_follow_query_then_file_then_first_call Yaml.library hparse
  rw [hraw] at hdecode
  cases hdecode
  exact ⟨hparse, (hdepths [7, 9]).1 5⟩

end QueryFile

end EntityQuery
