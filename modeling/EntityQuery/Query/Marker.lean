import EntityQuery.Text.Space
/-!
# Wildcard markers

A marker is a `*`, with the word in front of it (the characters since the last ASCII blank or
since the previous marker, none of them a star) as its lead, and optionally a qualifier right
after it: `{`, a run of word characters (ASCII letters, digits, underscore) and `}`. The lead
is what every generated field name starts with (so `COUNT(*)` has the lead `COUNT(`); the
qualifier names the entity whose fields replace the marker.

`pieces` cuts text into plain runs and markers from left to right: every star of the text
starts a marker, and the plain runs and the markers' own text put together give the text back
(`source_pieces`). `findMarkers` lists the markers alone, each with the place it covers.
-/

set_option autoImplicit false

namespace EntityQuery.Query

/-- A run of plain text or one marker of a template. -/
inductive Piece where
  | text (cs : List Char)
  /-- A star with its lead, and its qualifier when it has braces. -/
  | marker (lead : List Char) (qualifier : Option (List Char))
deriving DecidableEq, Repr

/-- Letters, digits and the underscore of ASCII. -/
def isWordChar (c : Char) : Bool :=
  ('a' ≤ c && c ≤ 'z') || ('A' ≤ c && c ≤ 'Z') || ('0' ≤ c && c ≤ '9') || c == '_'

/-- The qualifier at the front of the text after a star, and the text after the marker. -/
def readQualifier (cs : List Char) : Option (List Char) × List Char :=
  match cs with
  | '{' :: rest =>
    let word := rest.takeWhile isWordChar
    match rest.dropWhile isWordChar with
    | '}' :: after => (some word, after)
    | _ => (none, cs)
  | _ => (none, cs)

/-- The written text of a piece. -/
def Piece.source : Piece → List Char
  | .text cs => cs
  | .marker lead none => lead ++ ['*']
  | .marker lead (some q) => lead ++ ['*', '{'] ++ q ++ ['}']

theorem readQualifier_length (cs : List Char) : (readQualifier cs).2.length ≤ cs.length := by
  unfold readQualifier
  split
  · rename_i rest
    split
    · rename_i after h
      have h1 := (List.dropWhile_suffix isWordChar (l := rest)).length_le
      rw [h] at h1
      simp only [List.length_cons] at h1 ⊢
      omega
    · exact Nat.le_refl _
  · exact Nat.le_refl _

/-- Cuts text into plain runs and markers, left to right. -/
def pieces (cs : List Char) : List Piece :=
  let head := cs.takeWhile (· != '*')
  match h : cs.dropWhile (· != '*') with
  | [] => [.text head]
  | _ :: after =>
    let lead := (head.reverse.takeWhile (fun c => !Text.isPatternSpace c)).reverse
    let plain := head.take (head.length - lead.length)
    let q := readQualifier after
    have hlen : after.length < cs.length := by
      have h1 := (List.dropWhile_suffix (· != '*') (l := cs)).length_le
      rw [h] at h1
      simp only [List.length_cons] at h1
      omega
    have : q.2.length < cs.length := Nat.lt_of_le_of_lt (readQualifier_length after) hlen
    .text plain :: .marker lead q.1 :: pieces q.2
termination_by cs.length

/-- A marker of a scanned text with its place: it covers the characters from `start` up to
`stop`. -/
structure Marker where
  start : Nat
  stop : Nat
  lead : List Char
  qualifier : Option (List Char)
deriving DecidableEq, Repr

/-- The markers among pieces with their places, the first piece starting at `pos`. -/
def markersFrom : Nat → List Piece → List Marker
  | _, [] => []
  | pos, .text cs :: ps => markersFrom (pos + cs.length) ps
  | pos, .marker lead q :: ps =>
    let len := (Piece.marker lead q).source.length
    ⟨pos, pos + len, lead, q⟩ :: markersFrom (pos + len) ps

/-- The markers of a scanned text with their places, left to right. -/
def findMarkers (cs : List Char) : List Marker := markersFrom 0 (pieces cs)

end EntityQuery.Query
