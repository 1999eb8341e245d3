import Mathlib.Data.List.Forall2
import Mathlib.Control.Monad.Basic
import EntityQuery.QueryFile.Decode

/-!
# The YAML reader reads back what the writer writes

`Yaml.library`, the YAML reader and writer the program runs, reads back what it writes for a
query file (`library_readsBack`, the `YamlCodec.ReadsBack` the round trip of a file relies on),
as long as the scanner reads the written text back as the tree of values it was written from
(`readsBackAs`): a string as a string scalar, an integer as a scalar that resolves to it, a list
as a sequence and a mapping as a mapping with its keys in order. The scanner's side is assumed
there; the decoder's is proved: it takes a tree it reads back to the fields it was written from,
with no errors and no state left behind (`Clean`).

The decoding lemmas go from the leaves up: scalars and string lists, then any record decoded
field by field from a mapping whose keys are distinct field names (`clean_decodeRecord`), then
queries and files, each through a function that copies the field a key names
(`QueryDefinition.copyField`, `QueryFile.copyField`). The package list goes to its reading hook,
which is handed a node holding what its writing hook gave (`library_holds_of_holds`).
-/

set_option autoImplicit false

namespace EntityQuery

namespace Yaml

/-! ### Nodes holding values -/

mutual

/-- Whether a node is what the reader builds for the written form of a value: a string is a
scalar with the string tag, an integer a scalar with the integer tag that resolves to it, a
list a sequence and a mapping a mapping whose keys hold the key strings, in order. -/
def Node.holds : Node → Value → Bool
  | .scalar tag text _ _, .str s => tag == "!!str" && text == s
  | .scalar tag text _ _, .int n =>
    tag == "!!int" &&
      match resolve "!!int" text with
      | .ok (rtag, .int m) => rtag == "!!int" && m == n
      | _ => false
  | .sequence tag items _, .list vs => tag == "!!seq" && Node.holdsAll items vs
  | .mapping tag pairs _, .map es => tag == "!!map" && Node.holdsEntries pairs es
  | _, _ => false

/-- Whether each node of a list holds the value at its place. -/
def Node.holdsAll : List Node → List Value → Bool
  | [], [] => true
  | n :: ns, v :: vs => n.holds v && Node.holdsAll ns vs
  | _, _ => false

/-- Whether each pair of a mapping holds the entry at its place, key and value. -/
def Node.holdsEntries : List (Node × Node) → List (String × Value) → Bool
  | [], [] => true
  | (k, n) :: ps, (key, v) :: es => k.holds (.str key) && n.holds v && Node.holdsEntries ps es
  | _, _ => false

end

/-- Whether a text reads back as a value: the root of its first document holds it. -/
def readsBackAs (text : String) (v : Value) : Bool :=
  match readDocument text with
  | .ok doc =>
    match doc.root with
    | some root => root.holds v
    | none => false
  | .error _ => false

namespace Node

theorem holds_str {n : Node} {s : String} :
    n.holds (.str s) = true ↔ ∃ style line, n = .scalar "!!str" s style line := by
  cases n with
  | scalar tag text style line =>
    simp only [holds, Bool.and_eq_true, beq_iff_eq, Node.scalar.injEq]
    constructor
    · rintro ⟨rfl, rfl⟩
      exact ⟨style, line, rfl, rfl, rfl, rfl⟩
    · rintro ⟨_, _, rfl, rfl, rfl, rfl⟩
      exact ⟨rfl, rfl⟩
  | _ => simp [holds]

theorem holds_int {n : Node} {i : Int} (h : n.holds (.int i) = true) :
    ∃ text style line, n = .scalar "!!int" text style line ∧
      resolve "!!int" text = .ok ("!!int", .int i) := by
  cases n with
  | scalar tag text style line =>
    simp only [holds, Bool.and_eq_true, beq_iff_eq] at h
    obtain ⟨rfl, h⟩ := h
    refine ⟨text, style, line, rfl, ?_⟩
    split at h <;> simp_all
  | _ => simp [holds] at h

theorem holds_list {n : Node} {vs : List Value} (h : n.holds (.list vs) = true) :
    ∃ items line, n = .sequence "!!seq" items line ∧ holdsAll items vs = true := by
  cases n <;> simp_all [holds]

theorem holds_map {n : Node} {es : List (String × Value)} (h : n.holds (.map es) = true) :
    ∃ pairs line, n = .mapping "!!map" pairs line ∧ holdsEntries pairs es = true := by
  cases n <;> simp_all [holds]

theorem holdsAll_map {β : Type} (g : β → Value) {items : List Node} {xs : List β}
    (h : holdsAll items (xs.map g) = true) :
    List.Forall₂ (fun item x => item.holds (g x) = true) items xs := by
  induction items generalizing xs with
  | nil => cases xs <;> simp_all [holdsAll]
  | cons item items ih =>
    cases xs with
    | nil => simp [holdsAll] at h
    | cons x xs =>
      simp only [List.map_cons, holdsAll, Bool.and_eq_true] at h
      exact List.Forall₂.cons h.1 (ih h.2)

/-- The keys of a mapping that holds some entries are the entries' keys. -/
theorem holdsEntries_keys {pairs : List (Node × Node)} {es : List (String × Value)}
    (h : holdsEntries pairs es = true) : pairs.map (fun p => p.1.value) = es.map Prod.fst := by
  induction pairs generalizing es with
  | nil => cases es <;> simp_all [holdsEntries]
  | cons p pairs ih =>
    obtain ⟨k, n⟩ := p
    cases es with
    | nil => simp [holdsEntries] at h
    | cons e es =>
      obtain ⟨key, v⟩ := e
      simp only [holdsEntries, Bool.and_eq_true] at h
      obtain ⟨⟨hk, -⟩, hrest⟩ := h
      obtain ⟨style, line, rfl⟩ := holds_str.mp hk
      rw [List.map_cons, List.map_cons, ih hrest]
      rfl

end Node

end Yaml

namespace QueryFile

open Yaml

variable {α β : Type}

/-! ### Decoding without a trace -/

@[simp] theorem except_pure_eq_ok {ε : Type} (a : α) : (pure a : Except ε α) = .ok a := rfl

@[simp] theorem except_ok_bind {ε : Type} (a : α) (f : α → Except ε β) :
    (Except.ok a >>= f) = f a := rfl

@[simp] theorem except_map_ok {ε : Type} (a : α) (f : α → β) :
    (f <$> Except.ok a : Except ε β) = .ok (f a) := rfl

/-- A decoding that gives `a` from every state outside a merge and leaves the state as it
was: it throws nothing and records no error. -/
def Clean (m : DecodeM α) (a : α) : Prop :=
  ∀ s : DecodeState, s.merged = none → m.run s = .ok (a, s)

theorem clean_pure (a : α) : Clean (pure a : DecodeM α) a := fun _ _ => rfl

theorem Clean.map {m : DecodeM α} {a : α} (hm : Clean m a) (f : α → β) : Clean (f <$> m) (f a) := by
  intro s hs
  rw [StateT.run_map, hm s hs]
  rfl

theorem Clean.bind {m : DecodeM α} {f : α → DecodeM β} {a : α} {b : β} (hm : Clean m a)
    (hf : Clean (f a) b) : Clean (m >>= f) b := by
  intro s hs
  rw [StateT.run_bind, hm s hs]
  exact hf s hs

theorem clean_decodeString (doc : Document) {n : Node} {s : String}
    (h : n.holds (.str s) = true) (current : String) :
    Clean (decodeString doc n current) (true, s) := by
  obtain ⟨style, line, rfl⟩ := Node.holds_str.mp h
  intro st _
  simp [decodeString, Document.resolveAlias, scalarValue, Node.value]

theorem clean_decodeInt (doc : Document) {n : Node} {i : Int} (h : n.holds (.int i) = true)
    (current : Int) : Clean (decodeInt doc n current) (true, i) := by
  obtain ⟨text, style, line, rfl, hres⟩ := Node.holds_int h
  intro st _
  simp [decodeInt, Document.resolveAlias, scalarValue, hres]

theorem clean_decodeIntRef (doc : Document) {n : Node} {i : Int} (h : n.holds (.int i) = true)
    (current : Option Int) : Clean (decodeIntRef doc n current) (true, some i) := by
  obtain ⟨text, style, line, rfl, hres⟩ := Node.holds_int h
  intro st hs
  have hint := clean_decodeInt doc h (current.getD 0) st hs
  simp [decodeIntRef, Document.resolveAlias, Node.tag] at hint ⊢
  simp [hint]

/-- Decoding list elements one by one, keeping those that decode, when each decodes cleanly. -/
theorem clean_foldlM_push (dec : Node → DecodeM (Bool × β)) {items : List Node} {xs : List β}
    (h : List.Forall₂ (fun item x => Clean (dec item) (true, x)) items xs) (out : Array β) :
    Clean (items.foldlM (fun out item => do
      let (good, x) ← dec item
      return if good then out.push x else out) out) (out ++ xs.toArray) := by
  induction h generalizing out with
  | nil => simpa using clean_pure out
  | @cons item x items xs hx _ ih =>
    rw [List.foldlM_cons]
    refine (hx.bind (clean_pure (out.push x))).bind ?_
    have hresult : out.push x ++ xs.toArray = out ++ (x :: xs).toArray := by simp
    rw [← hresult]
    exact ih (out.push x)

/-- Collecting the elements that decode, when each decodes cleanly, gives them all. -/
theorem clean_collect (dec : Node → DecodeM (Bool × β)) {items : List Node} {xs : List β}
    (h : List.Forall₂ (fun item x => Clean (dec item) (true, x)) items xs) :
    Clean (do
      let out ← items.foldlM (fun out item => do
        let (good, x) ← dec item
        return if good then out.push x else out) #[]
      return out.toList) xs := by
  have hresult : (#[] ++ xs.toArray).toList = xs := by simp
  rw [← hresult]
  exact (clean_foldlM_push dec h #[]).bind (clean_pure _)

theorem clean_decodeStrings (doc : Document) {items : List Node} {ss : List String}
    (h : Node.holdsAll items (ss.map .str) = true) : Clean (decodeStrings doc items) ss := by
  have hitems :=
    (Node.holdsAll_map Yaml.Value.str h).imp fun _ _ hs => clean_decodeString doc hs ""
  unfold decodeStrings
  exact clean_collect _ hitems

/-- A decoding that is clean gives its value when run on its own. -/
theorem decodeAlone_of_clean {m : DecodeM α} {a : α} (h : Clean m a) : decodeAlone m = .ok a := by
  simp [decodeAlone, h {} rfl]

/-- A node holding what a writing hook gave is, with its document, a node the library says
holds it. -/
theorem library_holds_of_holds (doc : Document) {v : YamlCodec.Written} {n : Node}
    (h : n.holds (writtenValue v) = true) : Yaml.library.Holds v ⟨doc, n⟩ := by
  cases v with
  | string s =>
    obtain ⟨style, line, rfl⟩ := Node.holds_str.mp h
    exact ⟨rfl, decodeAlone_of_clean ((clean_decodeString doc h "").map _)⟩
  | strings items =>
    obtain ⟨nodes, line, rfl, hitems⟩ := Node.holds_list h
    exact ⟨rfl, decodeAlone_of_clean (clean_decodeStrings doc hitems)⟩

/-- A package list node holding what the writing hook gave is read by the reading hook. -/
theorem clean_decodePackages (hook : PackagesHook) (doc : Document) {v : YamlCodec.Written}
    {items : List String} (hhook : ∀ m, Yaml.library.Holds v m → hook m = .ok items) {n : Node}
    (h : n.holds (writtenValue v) = true) (current : Option (List String)) :
    Clean (decodePackages hook doc n current) (some items) := by
  have hheld := hhook _ (library_holds_of_holds doc h)
  -- the node is a string or a sequence, which is no alias and not null
  have hplain : doc.resolveAlias n = n ∧ n.tag ≠ "!!null" := by
    cases v with
    | string s =>
      obtain ⟨style, line, rfl⟩ := Node.holds_str.mp h
      exact ⟨rfl, by simp [Node.tag]⟩
    | strings xs =>
      obtain ⟨nodes, line, rfl, -⟩ := Node.holds_list h
      exact ⟨rfl, by simp [Node.tag]⟩
  intro s hs
  simp [decodePackages, hplain.1, hplain.2, hheld]

/-! ### Records -/

theorem duplicatePairs_eq_nil {keys : List Node}
    (h : keys.Pairwise fun a b => a.value ≠ b.value) : duplicatePairs keys = [] := by
  induction keys with
  | nil => rfl
  | cons k rest ih =>
    rw [List.pairwise_cons] at h
    simp only [duplicatePairs, List.append_eq_nil_iff, List.filterMap_eq_nil_iff]
    refine ⟨fun kj hkj => ?_, ih h.2⟩
    simp [h.1 kj hkj]

theorem clean_duplicateKeys {n : Node} {es : List (String × Yaml.Value)}
    (hn : n.holds (.map es) = true) (hnodup : (es.map Prod.fst).Nodup) :
    Clean (duplicateKeys n) false := by
  obtain ⟨pairs, line, rfl, h⟩ := Node.holds_map hn
  have hkeys : (pairs.map Prod.fst).Pairwise fun a b => a.value ≠ b.value := by
    rw [← List.pairwise_map (f := Node.value), List.map_map]
    simp only [Function.comp_def]
    rw [Node.holdsEntries_keys h]
    exact hnodup
  intro s hs
  simp [duplicateKeys, duplicatePairs_eq_nil hkeys]

/-- Each entry's field is set by `setField`, from any node that holds the entry's value, as
`upd` sets it. -/
def SetsEntries (setField : String → Node → α → DecodeM α) (upd : String → α → α)
    (es : List (String × Yaml.Value)) : Prop :=
  ∀ e ∈ es, ∀ n : Node, n.holds e.2 = true → ∀ a, Clean (setField e.1 n a) (upd e.1 a)

section Record

variable (doc : Document) (target : String) (fields : List String)
  (setField : String → Node → α → DecodeM α)

/-- An entry whose key is a field not set yet sets that field. -/
theorem clean_decodeEntry {k n : Node} {key : String} (hk : k.holds (.str key) = true)
    (hfield : key ∈ fields) (w : RecordWalk α) (hmerged : w.merged = none)
    (hfresh : key ∉ w.done) {a : α} (hset : Clean (setField key n w.value) a) :
    Clean (decodeEntry doc target fields setField w (k, n))
      { w with value := a, done := key :: w.done } := by
  obtain ⟨style, line, rfl⟩ := Node.holds_str.mp hk
  have hmerge : isMergeKey (.scalar "!!str" key style line) = false := by simp [isMergeKey]
  unfold decodeEntry
  simp only [hmerge, Bool.false_eq_true, if_false]
  refine (clean_decodeString doc hk "").bind ?_
  simp only [Bool.not_true, Bool.false_eq_true, if_false, hmerged, setEntryField,
    List.contains_iff_mem, hfield, hfresh, if_true]
  exact hset.bind (clean_pure _)

/-- The entries of a mapping, decoded one after the other, set their fields in order. The
induction is on the mapping's pairs; the fields set so far are the keys already passed. -/
theorem clean_foldlM_decodeEntry (upd : String → α → α) {pairs : List (Node × Node)}
    {es : List (String × Yaml.Value)} (hpairs : Node.holdsEntries pairs es = true)
    (hnodup : (es.map Prod.fst).Nodup) (hfields : ∀ e ∈ es, e.1 ∈ fields)
    (hset : SetsEntries setField upd es)
    (a : α) (done : List String) (hfresh : ∀ e ∈ es, e.1 ∉ done) :
    Clean (pairs.foldlM (decodeEntry doc target fields setField) ⟨none, a, done, none⟩)
      ⟨none, (es.map Prod.fst).foldl (fun a k => upd k a) a, (es.map Prod.fst).reverse ++ done,
        none⟩ := by
  induction pairs generalizing es a done with
  | nil =>
    cases es with
    | nil => exact clean_pure _
    | cons _ _ => simp [Node.holdsEntries] at hpairs
  | cons p pairs ih =>
    obtain ⟨k, n⟩ := p
    cases es with
    | nil => simp [Node.holdsEntries] at hpairs
    | cons e es =>
      obtain ⟨key, v⟩ := e
      simp only [Node.holdsEntries, Bool.and_eq_true] at hpairs
      obtain ⟨⟨hk, hn⟩, hrest⟩ := hpairs
      simp only [List.map_cons, List.nodup_cons] at hnodup
      have hentry := clean_decodeEntry doc target fields setField hk
        (hfields (key, v) (by simp)) ⟨none, a, done, none⟩ rfl
        (hfresh (key, v) (by simp)) (hset (key, v) (by simp) n hn a)
      rw [List.foldlM_cons]
      refine hentry.bind ?_
      have hnext := ih hrest hnodup.2 (fun e he => hfields e (by simp [he]))
        (fun e he => hset e (by simp [he])) (upd key a) (key :: done) (by
          intro e he hmem
          rcases List.mem_cons.mp hmem with heq | hdone
          · exact hnodup.1 (heq ▸ List.mem_map_of_mem he)
          · exact hfresh e (by simp [he]) hdone)
      simpa using hnext

/-- A mapping whose keys are distinct field names decodes into a record by setting each field
in turn. -/
theorem clean_decodeRecord (upd : String → α → α) {n : Node}
    {es : List (String × Yaml.Value)} (hn : n.holds (.map es) = true)
    (hnodup : (es.map Prod.fst).Nodup) (hfields : ∀ e ∈ es, e.1 ∈ fields)
    (hset : SetsEntries setField upd es)
    (fuel : Nat) (a : α) :
    Clean (decodeRecord doc target fields setField (fuel + 1) n a)
      (true, (es.map Prod.fst).foldl (fun a k => upd k a) a) := by
  obtain ⟨pairs, line, rfl, hpairs⟩ := Node.holds_map hn
  intro s hs
  have hunmerged : { s with merged := none } = s := by cases s; simp_all
  have hdup := clean_duplicateKeys hn hnodup s hs
  have hwalk := clean_foldlM_decodeEntry doc target fields setField upd hpairs hnodup hfields
    hset a [] (by simp) s hs
  simp only [decodeRecord, Document.resolveAlias, StateT.run_bind, hdup, except_ok_bind,
    Bool.false_eq_true, if_false, StateT.run_get, StateT.run_modify, except_pure_eq_ok, hs,
    hunmerged, hwalk, StateT.run_pure]

end Record

end QueryFile

/-! ### Queries -/

namespace QueryDefinition

/-- Take the field a key names from `q`, leaving the others of `a` as they are. -/
def copyField (q : QueryDefinition) (key : String) (a : QueryDefinition) : QueryDefinition :=
  match key with
  | "name" => { a with name := q.name }
  | "entity" => { a with entity := q.entity }
  | "template" => { a with template := q.template }
  | "id" => { a with id := q.id }
  | "offset" => { a with offset := q.offset }
  | "limit" => { a with limit := q.limit }
  | "depth" => { a with depth := q.depth }
  | _ => a

theorem entries_keys_sublist (q : QueryDefinition) :
    (q.entries.map Prod.fst).Sublist QueryFile.queryFields := by
  obtain ⟨name, entity, template, id, offset, limit, depth⟩ := q
  unfold entries
  cases depth <;> split_ifs <;> simp only [List.map_cons, List.map_nil, List.cons_append,
    List.nil_append, List.append_nil] <;> decide

/-- A query is rebuilt from nothing by copying the fields it is written with: the others are
at their defaults. -/
theorem foldl_copyField_entries (q : QueryDefinition) :
    (q.entries.map Prod.fst).foldl (fun a k => q.copyField k a) {} = q := by
  obtain ⟨name, entity, template, id, offset, limit, depth⟩ := q
  unfold entries
  -- each optional field is either written and copied, or left at its default
  by_cases ht : template = "" <;> by_cases hi : id = "" <;> by_cases ho : offset = 0 <;>
    by_cases hl : limit = 0 <;> cases depth <;> simp [copyField, ht, hi, ho, hl]

end QueryDefinition

namespace QueryFile

open Yaml

/-- A depth is written as one entry when set, and not at all otherwise. -/
theorem eq_of_mem_depthEntry {depth : Option Int} {e : String × Yaml.Value}
    (h : e ∈ (match depth with
      | some d => [("depth", Yaml.Value.int d)]
      | none => [])) :
    ∃ d, depth = some d ∧ e = ("depth", .int d) := by
  cases depth with
  | none => simp at h
  | some d => exact ⟨d, rfl, List.mem_singleton.mp h⟩

/-- Each entry a query is written with, read back into any query, sets the field it names to
the query's. -/
theorem clean_setQueryField (doc : Document) (q : QueryDefinition) :
    SetsEntries (setQueryField doc) q.copyField q.entries := by
  intro e he n hn a
  simp only [QueryDefinition.entries, List.mem_append, List.mem_cons, List.mem_ite_nil_right,
    List.not_mem_nil, or_false, or_assoc] at he
  rcases he with rfl | rfl | ⟨-, rfl⟩ | ⟨-, rfl⟩ | ⟨-, rfl⟩ | ⟨-, rfl⟩ | hdepth
  · simp only [setQueryField, QueryDefinition.copyField]
    exact (clean_decodeString doc hn a.name).bind (clean_pure _)
  · simp only [setQueryField, QueryDefinition.copyField]
    exact (clean_decodeString doc hn a.entity).bind (clean_pure _)
  · simp only [setQueryField, QueryDefinition.copyField]
    exact (clean_decodeString doc hn a.template).bind (clean_pure _)
  · simp only [setQueryField, QueryDefinition.copyField]
    exact (clean_decodeString doc hn a.id).bind (clean_pure _)
  · simp only [setQueryField, QueryDefinition.copyField]
    exact (clean_decodeInt doc hn a.offset).bind (clean_pure _)
  · simp only [setQueryField, QueryDefinition.copyField]
    exact (clean_decodeInt doc hn a.limit).bind (clean_pure _)
  · obtain ⟨d, hd, rfl⟩ := eq_of_mem_depthEntry hdepth
    simp only [setQueryField, QueryDefinition.copyField, hd]
    exact (clean_decodeIntRef doc hn a.depth).bind (clean_pure _)

theorem clean_decodeQuery (doc : Document) {n : Node} {q : QueryDefinition}
    (hn : n.holds (.map q.entries) = true) :
    Clean (decodeRecord doc "querydef.Query" queryFields (setQueryField doc) (fuelOf doc) n {})
      (true, q) := by
  have hrecord := clean_decodeRecord doc "querydef.Query" queryFields (setQueryField doc)
    q.copyField hn (q.entries_keys_sublist.nodup (by decide))
    (fun e he => q.entries_keys_sublist.subset (List.mem_map_of_mem he))
    (clean_setQueryField doc q) (doc.bound * (doc.anchors.size + 1) + 7) {}
  rwa [QueryDefinition.foldl_copyField_entries] at hrecord

theorem clean_decodeQueries (doc : Document) {n : Node} {qs : List QueryDefinition}
    (hn : n.holds (.list (qs.map fun q => .map q.entries)) = true)
    (current : List QueryDefinition) : Clean (decodeQueries doc n current) qs := by
  obtain ⟨items, line, rfl, hitems⟩ := Node.holds_list hn
  have hdecoded := (Node.holdsAll_map _ hitems).imp fun _ _ hq => clean_decodeQuery doc hq
  unfold decodeQueries
  exact clean_collect _ hdecoded

/-! ### Files -/

/-- Take the field a key names from `qf`, leaving the others of `a` as they are. -/
def copyField (qf : QueryFile) (key : String) (a : QueryFile) : QueryFile :=
  match key with
  | "version" => { a with version := qf.version }
  | "packages" => { a with packages := qf.packages }
  | "depth" => { a with depth := qf.depth }
  | "queries" => { a with queries := qf.queries }
  | _ => a

theorem entries_keys_sublist (w : List String → YamlCodec.Written) (qf : QueryFile) :
    ((qf.entries w).map Prod.fst).Sublist fileFields := by
  obtain ⟨version, packages, depth, queries⟩ := qf
  unfold entries
  cases depth <;> split <;> simp only [List.map_cons, List.map_nil, List.cons_append,
    List.nil_append, List.append_nil] <;> decide

/-- A file is rebuilt from nothing by copying the fields it is written with, its package list
from the list read back, which is absent when none was written. -/
theorem foldl_copyField_entries (w : List String → YamlCodec.Written) (qf : QueryFile)
    {P : Option (List String)} (hP : qf.packages.getD [] = [] → P = none) :
    ((qf.entries w).map Prod.fst).foldl (fun a k => { qf with packages := P }.copyField k a) {} =
      { qf with packages := P } := by
  obtain ⟨version, packages, depth, queries⟩ := qf
  unfold entries
  cases depth <;> split <;> simp_all [copyField]

/-- A package list that reads back as `P`: absent when none was written, else what the reading
hook answers for every node holding what the writing hook gave. -/
def PackagesReadAs (hook : PackagesHook) (w : List String → YamlCodec.Written) (qf : QueryFile)
    (P : Option (List String)) : Prop :=
  (qf.packages.getD [] = [] → P = none) ∧
  (qf.packages.getD [] ≠ [] → ∃ items, P = some items ∧
    ∀ m, Yaml.library.Holds (w (qf.packages.getD [])) m → hook m = .ok items)

/-- Each entry a file is written with, read back into any file, sets the field it names to
the file's, the package list to what it reads back as. -/
theorem clean_setFileField (hook : PackagesHook) (doc : Document)
    (w : List String → YamlCodec.Written) (qf : QueryFile) {P : Option (List String)}
    (hP : PackagesReadAs hook w qf P) :
    SetsEntries (setFileField hook doc) { qf with packages := P }.copyField (qf.entries w) := by
  intro e he n hn a
  simp only [entries, List.mem_append, List.mem_cons, List.not_mem_nil, or_false,
    or_assoc] at he
  rcases he with rfl | hpackages | hdepth | rfl
  · simp only [setFileField, copyField]
    exact (clean_decodeString doc hn a.version).bind (clean_pure _)
  · -- the packages are written only when there are some
    split at hpackages
    · simp at hpackages
    · rename_i hne
      simp only [List.mem_singleton] at hpackages
      subst hpackages
      obtain ⟨items, rfl, hhook⟩ := hP.2 hne
      simp only [setFileField, copyField]
      exact (clean_decodePackages hook doc hhook hn a.packages).bind (clean_pure _)
  · obtain ⟨d, hd, rfl⟩ := eq_of_mem_depthEntry hdepth
    simp only [setFileField, copyField, hd]
    exact (clean_decodeIntRef doc hn a.depth).bind (clean_pure _)
  · simp only [setFileField, copyField]
    exact (clean_decodeQueries doc hn a.queries).bind (clean_pure _)

/-- A document whose root holds a file's entries decodes into the file, with its package list
as it reads back. -/
theorem decodeDocument_of_holds {hook : PackagesHook} {w : List String → YamlCodec.Written}
    {doc : Document} {root : Node} {qf : QueryFile} {P : Option (List String)}
    (hP : PackagesReadAs hook w qf P) (hroot : doc.root = some root)
    (h : root.holds (.map (qf.entries w)) = true) :
    decodeDocument hook doc = .ok { qf with packages := P } := by
  have hrecord := clean_decodeRecord doc "querydef.QueryFile" fileFields (setFileField hook doc)
    { qf with packages := P }.copyField h ((entries_keys_sublist w qf).nodup (by decide))
    (fun e he => (entries_keys_sublist w qf).subset (List.mem_map_of_mem he))
    (clean_setFileField hook doc w qf hP) (doc.bound * (doc.anchors.size + 1) + 7) {} {} rfl
  rw [foldl_copyField_entries w qf hP.1] at hrecord
  have hrun : (decodeRecord doc "querydef.QueryFile" fileFields (setFileField hook doc)
      (fuelOf doc) root {}).run {} = .ok ((true, { qf with packages := P }), {}) := hrecord
  simp [decodeDocument, hroot, hrun]

/-- A text that reads back as a file's entries is read as the file, with its package list as it
reads back. -/
theorem readFile_of_readsBackAs {hook : PackagesHook} {w : List String → YamlCodec.Written}
    {text : String} {qf : QueryFile} {P : Option (List String)}
    (hP : PackagesReadAs hook w qf P) (h : readsBackAs text (.map (qf.entries w)) = true) :
    readFile hook text = .ok { qf with packages := P } := by
  unfold readsBackAs at h
  split at h
  · rename_i doc hdoc
    split at h
    · rename_i root hroot
      simp [readFile, hdoc, decodeDocument_of_holds hP hroot h]
    · simp at h
  · simp at h

end QueryFile

/-- The reader reads back what the writer writes for a file, as long as the scanner reads the
written text back as the tree it was written from. -/
theorem library_readsBack {w : List String → YamlCodec.Written} {qf : QueryFile}
    (h : Yaml.readsBackAs (Yaml.writeFile w qf) (.map (qf.entries w)) = true) :
    Yaml.library.ReadsBack w qf where
  omitted hnil _ := QueryFile.readFile_of_readsBackAs ⟨fun _ => rfl, fun hne => absurd hnil hne⟩ h
  written hne _ items hhook :=
    QueryFile.readFile_of_readsBackAs ⟨fun hnil => absurd hnil hne, fun _ => ⟨items, rfl, hhook⟩⟩ h

end EntityQuery
