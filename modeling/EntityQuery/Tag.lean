import EntityQuery.Text.Quoted
import EntityQuery.Text.Space
/-!
# Field tags

A field may carry a tag: pairs `key:"value"` separated by spaces, the value a double-quoted
literal. `Tag.pairs` reads the pairs from the front and stops at the first piece that is not
one (a key is a run of characters above the space other than a colon, a quote and DEL, and must
be followed directly by a colon and a quote). `Tag.lookup` takes the value of the first pair with
the key, unquoted; a value that does not unquote counts as absent.

`FieldTag.parse` reads what the mapping needs from a tag: the `soql` key gives the wire name
before the first comma and the identifier option `id` among the later parts; `-` skips the
field. Without a wire name there, the `json` key gives it (before its first comma), and a `json`
value `-` skips the field when there is no `soql` key at all.
-/

set_option autoImplicit false

namespace EntityQuery.Tag

/-- Characters that may stand in a tag key. -/
def isKeyChar (c : Char) : Bool := ' ' < c && c != ':' && c != '"' && c != '\x7f'

/-- The raw characters of a quoted value up to its closing quote, and what follows it. A
backslash keeps the character after it inside the value. -/
def scanValue : List Char → Option (List Char × List Char)
  | [] => none
  | c :: rest =>
    if c == '"' then some ([], rest)
    else if c == '\\' then
      match rest with
      | [] => none
      | e :: more => (scanValue more).map fun p => (c :: e :: p.1, p.2)
    else (scanValue rest).map fun p => (c :: p.1, p.2)

theorem scanValue_length {cs raw rest : List Char} (h : scanValue cs = some (raw, rest)) :
    rest.length < cs.length := by
  fun_induction scanValue cs generalizing raw rest with
  | case1 => simp at h
  | case2 c r _ => simp at h; simp [h]
  | case3 => simp at h
  | case4 c e more _ _ ih =>
    simp only [Option.map_eq_some_iff] at h
    obtain ⟨p, hp, hq⟩ := h
    have := @ih p.1 p.2 hp
    simp only [Prod.mk.injEq] at hq
    rw [← hq.2]; simp only [List.length_cons]; omega
  | case5 c r _ _ ih =>
    simp only [Option.map_eq_some_iff] at h
    obtain ⟨p, hp, hq⟩ := h
    have := @ih p.1 p.2 hp
    simp only [Prod.mk.injEq] at hq
    rw [← hq.2]; simp only [List.length_cons]; omega

/-- The key and raw value of every well-formed pair at the front of a tag, in order. -/
def pairs (tag : List Char) : List (List Char × List Char) :=
  let t := tag.dropWhile (· == ' ')
  let key := t.takeWhile isKeyChar
  match hk : key, ht : t.dropWhile isKeyChar with
  | _ :: _, ':' :: '"' :: body =>
    match hs : scanValue body with
    | some (raw, rest) =>
      have h1 := scanValue_length hs
      have h2 := (List.dropWhile_suffix isKeyChar (l := t)).length_le
      have h3 : t.length ≤ tag.length := (List.dropWhile_suffix (· == ' ') (l := tag)).length_le
      have h4 : (t.dropWhile isKeyChar).length = body.length + 2 := by rw [ht]; simp
      (key, raw) :: pairs rest
    | none => []
  | _, _ => []
termination_by tag.length
decreasing_by omega

/-- The unquoted value of the first pair with the given key, as bytes. -/
def lookupBytes (tag key : String) : Option (List UInt8) :=
  match (pairs tag.toList).find? (fun p => p.1 == key.toList) with
  | some p => Text.unquoteBody p.2
  | none => none

/-- The value of the first pair with the given key, as text. -/
def lookup (tag key : String) : Option String :=
  (lookupBytes tag key).map Text.ofBytesLossy

end EntityQuery.Tag

namespace EntityQuery

/-- What a field's tag says about its mapping. -/
structure FieldTag where
  /-- The wire name the tag gives, empty for none. -/
  name : String
  /-- The tag marks the field as the record identifier. -/
  isIdentifier : Bool
  /-- The tag removes the field from the mapping. -/
  skip : Bool
deriving DecidableEq, Repr

namespace FieldTag

/-- The part of a tag value before its first comma, and the parts after it. -/
def splitOptions (v : String) : String × List String :=
  match v.toList.splitOn ',' with
  | [] => ("", [])
  | first :: rest => (String.ofList first, rest.map String.ofList)

/-- Reads the mapping part of a field tag. -/
def parse (tag : String) : FieldTag :=
  let own := Tag.lookup tag "soql"
  if own == some "-" then ⟨"", false, true⟩
  else
    let (name, isId) := match own with
      | some v =>
        let parts := splitOptions v
        (parts.1, parts.2.any fun o => Text.trimSpace o == "id")
      | none => ("", false)
    if name != "" then ⟨name, isId, false⟩
    else
      let js := (Tag.lookup tag "json").getD ""
      if js == "" then ⟨name, isId, false⟩
      else
        let jsName := (splitOptions js).1
        if jsName == "-" && own.isNone then ⟨"", false, true⟩
        else if jsName != "-" then ⟨jsName, isId, false⟩
        else ⟨name, isId, false⟩

end FieldTag

end EntityQuery
