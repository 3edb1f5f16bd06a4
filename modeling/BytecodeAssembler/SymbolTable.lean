import BytecodeAssembler.Text.CodePoint

/-!
# Symbol tables

A symbol table gives indices to names.  It keeps its names in the order in which they were first
entered, and entering a name again changes its index in place.
-/

namespace BytecodeAssembler

/-- Names with their indices, each name once. -/
structure SymbolTable where
  entries : List (Text × Nat)
deriving DecidableEq

namespace SymbolTable

def empty : SymbolTable :=
  ⟨[]⟩

/-- The index of a name in a list of entries. -/
def indexIn? (name : Text) : List (Text × Nat) → Option Nat
  | [] => none
  | (n, i) :: rest => if n = name then some i else indexIn? name rest

/-- The index of a name. -/
def find? (table : SymbolTable) (name : Text) : Option Nat :=
  indexIn? name table.entries

/-- Give a name an index in a list of entries. -/
def insertEntry (name : Text) (index : Nat) : List (Text × Nat) → List (Text × Nat)
  | [] => [(name, index)]
  | (n, i) :: rest => if n = name then (n, index) :: rest else (n, i) :: insertEntry name index rest

/-- Give a name an index. -/
def insert (table : SymbolTable) (name : Text) (index : Nat) : SymbolTable :=
  ⟨insertEntry name index table.entries⟩

/-- Number places from `start` on, some of which hold a name; a name that comes twice has its last
number. -/
def addNames (table : SymbolTable) (start : Nat) : List (Option Text) → SymbolTable
  | [] => table
  | none :: names => addNames table (start + 1) names
  | some name :: names => addNames (table.insert name start) (start + 1) names

/-- The table that numbers a list of places from zero on. -/
def ofNames (names : List (Option Text)) : SymbolTable :=
  addNames empty 0 names

theorem indexIn?_insertEntry (name name' : Text) (index : Nat) (entries : List (Text × Nat)) :
    indexIn? name' (insertEntry name index entries) =
      if name = name' then some index else indexIn? name' entries := by
  induction entries with
  | nil => simp only [insertEntry, indexIn?]
  | cons e rest ih =>
    obtain ⟨n, i⟩ := e
    by_cases hn : n = name
    · subst hn
      by_cases h : n = name' <;> simp [insertEntry, indexIn?, h]
    · by_cases h : n = name'
      · subst h
        have hne : ¬ name = n := fun h' => hn h'.symm
        simp [insertEntry, indexIn?, hn, hne]
      · simp only [insertEntry, hn, if_false, indexIn?, h, ih]

/-- Entering a name changes the index of that name only. -/
theorem find?_insert (table : SymbolTable) (name name' : Text) (index : Nat) :
    (table.insert name index).find? name' =
      if name = name' then some index else table.find? name' :=
  indexIn?_insertEntry name name' index table.entries

end SymbolTable

end BytecodeAssembler
