/-!
# Dictionaries

Finite maps from texts, kept as lists of entries in ascending order of their keys, each key once.
-/

set_option autoImplicit false

namespace RdfPipeline

/-- Entries in ascending order of the keys. -/
abbrev Dict (α : Type) := List (String × α)

namespace Dict

variable {α β : Type}

/-- The keys ascend strictly, so that none is repeated. -/
def Sorted (dict : Dict α) : Prop :=
  List.Pairwise (fun left right => left.1 < right.1) dict

def get? (key : String) : Dict α → Option α
  | [] => none
  | (name, value) :: rest => if name = key then some value else get? key rest

def contains (key : String) (dict : Dict α) : Bool :=
  (get? key dict).isSome

/-- Binds `key`, replacing the value that it had. -/
def insert (key : String) (value : α) : Dict α → Dict α
  | [] => [(key, value)]
  | (name, old) :: rest =>
      if key < name then (key, value) :: (name, old) :: rest
      else if key = name then (key, value) :: rest
      else (name, old) :: insert key value rest

/-- Binds the entries one after the other, so that the last of a repeated key stays. -/
def insertAll (dict : Dict α) (entries : List (String × α)) : Dict α :=
  entries.foldl (fun dict entry => insert entry.1 entry.2 dict) dict

def ofList (entries : List (String × α)) : Dict α :=
  insertAll [] entries

/-- An entry is found under its key, and all other keys stay as they were. -/
theorem get?_insert (sought key : String) (value : α) (dict : Dict α) :
    get? sought (insert key value dict) = if sought = key then some value else get? sought dict := by
  induction dict with
  | nil => simp [insert, get?, eq_comm]
  | cons entry rest ih =>
      obtain ⟨name, old⟩ := entry
      rw [insert]
      split
      · simp [get?, eq_comm]
      · split
        next same =>
          subst same
          by_cases found : key = sought
          · simp [get?, found]
          · simp [get?, found, Ne.symm found]
        next other =>
          simp only [get?, ih]
          by_cases found : name = sought
          · subst found
            simp [Ne.symm other]
          · simp [found]

def keys (dict : Dict α) : List String :=
  dict.map (·.1)

def mapValues (f : α → β) (dict : Dict α) : Dict β :=
  dict.map fun entry => (entry.1, f entry.2)

end Dict

end RdfPipeline
