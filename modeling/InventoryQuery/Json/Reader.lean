import InventoryQuery.Json.Token

/-!
# Reading JSON

JSON text read as one value with nothing but spaces around it.  Where a value is not wanted, a text
in it need not stand for a string.
-/

namespace InventoryQuery.Json

/-- What is wanted of a value. -/
inductive Demand
  | whole
  /-- Of an object the member of a name, of anything else the whole. -/
  | member (name : String)
  /-- That it is a value, whatever it is. -/
  | form
  deriving DecidableEq

namespace Demand

/-- What is wanted of the value of a member. -/
def ofMember (d : Demand) (name : String) : Demand :=
  match d with
  | .member wanted => if name == wanted then .whole else .form
  | d => d

/-- What is wanted of an element of an array. -/
def ofElement : Demand → Demand
  | .member _ => .whole
  | d => d

/-- The string of a text; where only the form is wanted, a text that stands for none is empty. -/
def text? (d : Demand) (s : Option String) : Option String :=
  match d with
  | .form => some (s.getD "")
  | _ => s

end Demand

mutual

/-- The value at the front of the tokens. -/
def scanValue (demand : Demand) (tokens : List Token) : Option (Json × Tail tokens) :=
  match tokens with
  | .null :: rest => some (.null, .after _ rest)
  | .bool b :: rest => some (.bool b, .after _ rest)
  | .number n :: rest => some (.number n, .after _ rest)
  | .text s :: rest => (demand.text? s).map fun s ↦ (.text s, .after _ rest)
  | .openArray :: .closeArray :: rest =>
    some (.array [], ⟨rest, Nat.lt_succ_of_lt (Nat.lt_succ_self _)⟩)
  | .openArray :: rest =>
    (scanElements demand.ofElement rest).map fun (elements, tail) ↦
      (.array elements, tail.weaken (by simp))
  | .openObject :: .closeObject :: rest =>
    some (.object [], ⟨rest, Nat.lt_succ_of_lt (Nat.lt_succ_self _)⟩)
  | .openObject :: rest =>
    (scanMembers demand rest).map fun (members, tail) ↦ (.object members, tail.weaken (by simp))
  | _ => none
termination_by (tokens.length, 0)
decreasing_by all_goals (apply Prod.Lex.left; simp)

/-- One element or more, up to the closing bracket. -/
def scanElements (demand : Demand) (tokens : List Token) : Option (List Json × Tail tokens) :=
  match scanValue demand tokens with
  | none => none
  | some (value, ⟨.closeArray :: rest, h⟩) => some ([value], ⟨rest, by grind⟩)
  | some (value, ⟨.comma :: rest, h⟩) =>
    (scanElements demand rest).map fun (elements, tail) ↦
      (value :: elements, tail.weaken (by grind))
  | some _ => none
termination_by (tokens.length, 1)
decreasing_by
  · apply Prod.Lex.right; omega
  · apply Prod.Lex.left; grind

/-- One member or more, up to the closing brace. -/
def scanMembers (demand : Demand) (tokens : List Token) :
    Option (List (String × Json) × Tail tokens) :=
  match tokens with
  | .text s :: .colon :: rest =>
    match demand.text? s with
    | none => none
    | some name =>
      match scanValue (demand.ofMember name) rest with
      | none => none
      | some (value, ⟨.closeObject :: rest, h⟩) =>
        some ([(name, value)], ⟨rest, by grind⟩)
      | some (value, ⟨.comma :: rest, h⟩) =>
        (scanMembers demand rest).map fun (members, tail) ↦
          ((name, value) :: members, tail.weaken (by grind))
      | some _ => none
  | _ => none
termination_by (tokens.length, 1)
decreasing_by
  · apply Prod.Lex.left; grind
  · apply Prod.Lex.left; grind

end

/-- The value that a whole text is, as far as it is wanted. -/
def readFor (demand : Demand) (input : List Char) : Option Json :=
  match tokens input with
  | none => none
  | some tokens =>
    match scanValue demand tokens with
    | some (value, ⟨[], _⟩) => some value
    | _ => none

/-- The value that a whole text is. -/
def read (input : List Char) : Option Json := readFor .whole input

end InventoryQuery.Json
