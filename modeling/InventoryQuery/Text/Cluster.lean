import InventoryQuery.Text.ClusterRuns
import InventoryQuery.Text.Emoji
import InventoryQuery.Text.Marks

/-!
# Clusters

What a reader takes for one character may be several: a letter with its marks, a syllable, a flag,
emoji with a joiner between them.  A text is cut into such clusters between the characters where
nothing holds them together.
-/

namespace InventoryQuery.Text

/-! ## Parts of clusters -/

/-- How a character bears on the clusters around it. -/
inductive ClusterPart
  | carriageReturn
  | lineFeed
  | control
  | mark
  | joiner
  | prepended
  | spacing
  | regional
  | leading
  | vowel
  | trailing
  /-- A Hangul syllable without a final consonant. -/
  | openSyllable
  | closedSyllable
  | pictograph
  | other
  deriving DecidableEq

/-- Every twenty-eighth Hangul syllable has no final consonant. -/
def syllablePart (c : Char) : ClusterPart :=
  if (c.toNat - 0xAC00) % 28 == 0 then .openSyllable else .closedSyllable

def clusterPart (c : Char) : ClusterPart :=
  if c == '\r' then .carriageReturn
  else if c == '\n' then .lineFeed
  else if c.toNat < 0x20 then .control
  else if c.toNat < 0x7F then .other
  else if c == '\u200D' then .joiner
  else if extendsGrapheme c || isTone c then .mark
  else if controlRuns.cover c then .control
  else if prependRuns.cover c then .prepended
  else if spacingRuns.cover c then .spacing
  else if isRegional c then .regional
  else if leadingRuns.cover c then .leading
  else if vowelRuns.cover c then .vowel
  else if trailingRuns.cover c then .trailing
  else if 0xAC00 ≤ c.toNat && c.toNat ≤ 0xD7A3 then syllablePart c
  else if isPictograph c then .pictograph
  else .other

def ClusterPart.isControl : ClusterPart → Bool
  | .carriageReturn | .lineFeed | .control => true
  | _ => false

/-- How consonants with linkers between them bear on the consonant after them. -/
inductive Conjunct
  | none
  | consonant
  | linked
  deriving DecidableEq

def isNonJoiner (c : Char) : Bool := c == '\u200C'

def Conjunct.next (conjunct : Conjunct) (c : Char) : Conjunct :=
  if consonantRuns.cover c then .consonant
  else
    match conjunct with
    | .none => .none
    | conjunct =>
      if linkerRuns.cover c then .linked
      else if (clusterPart c == .mark && !isNonJoiner c) || clusterPart c == .joiner then conjunct
      else .none

/-! ## Boundaries -/

/-- What a text ends with, as far as the character after it depends on it. -/
structure ClusterEnd where
  part : ClusterPart
  /-- Whether a pictograph and marks are at the end, not counting a joiner after them. -/
  pictograph : Bool
  /-- Whether the number of regional indicators at the end is odd. -/
  oddRegionals : Bool
  conjunct : Conjunct
  deriving DecidableEq

namespace ClusterEnd

def ofChar (c : Char) : ClusterEnd :=
  let part := clusterPart c
  ⟨part, part == .pictograph, part == .regional, Conjunct.none.next c⟩

/-- The end of a text with one character more. -/
def next (e : ClusterEnd) (c : Char) : ClusterEnd :=
  let part := clusterPart c
  { part := part
    pictograph :=
      part == .pictograph ||
        (e.pictograph && e.part != .joiner && (part == .mark || part == .joiner))
    oddRegionals := part == .regional && !e.oddRegionals
    conjunct := e.conjunct.next c }

/-- Whether the characters on both sides belong to one cluster. -/
def holds (e : ClusterEnd) (c : Char) : Bool :=
  match e.part, clusterPart c with
  | .carriageReturn, .lineFeed => true
  | part, next =>
    if part.isControl || next.isControl then false
    else
      match part, next with
      | .leading, .leading | .leading, .vowel | .leading, .openSyllable
      | .leading, .closedSyllable => true
      | .openSyllable, .vowel | .openSyllable, .trailing | .vowel, .vowel
      | .vowel, .trailing => true
      | .closedSyllable, .trailing | .trailing, .trailing => true
      | _, .mark | _, .joiner | _, .spacing | .prepended, _ => true
      | .joiner, .pictograph => e.pictograph
      | .regional, .regional => e.oddRegionals
      | _, _ => consonantRuns.cover c && e.conjunct == .linked

end ClusterEnd

/-- The rest of the cluster that ends so far, and the clusters after it. -/
def clustersAfter (e : ClusterEnd) : List Char → List Char × List (List Char)
  | [] => ([], [])
  | c :: rest =>
    if e.holds c then
      let (cluster, clusters) := clustersAfter (e.next c) rest
      (c :: cluster, clusters)
    else
      let (cluster, clusters) := clustersAfter (.ofChar c) rest
      ([], (c :: cluster) :: clusters)

/-- The clusters that a text consists of. -/
def clusters : List Char → List (List Char)
  | [] => []
  | c :: rest =>
    let (cluster, clusters) := clustersAfter (.ofChar c) rest
    (c :: cluster) :: clusters

end InventoryQuery.Text
