/-!
# Named entries in order of first insertion

A list of named values in which every name stands once. Putting a value under a new name appends
it; putting one under a known name keeps the place of the name and replaces its value.
-/

namespace MagnetStream

/-- Named values in order. -/
abbrev Entries (α : Type) := List (String × α)

namespace Entries

variable {α : Type}

def get? (entries : Entries α) (name : String) : Option α := entries.lookup name

def insert (entries : Entries α) (name : String) (value : α) : Entries α :=
  match entries with
  | [] => [(name, value)]
  | (other, old) :: rest =>
    if other == name then (other, value) :: rest else (other, old) :: insert rest name value

def erase (entries : Entries α) (name : String) : Entries α :=
  entries.filter fun (other, _) => other != name

/-- Puts every pair of a list in turn, so the last value under a name stays. -/
def insertAll (entries : Entries α) (pairs : List (String × α)) : Entries α :=
  pairs.foldl (fun acc (name, value) => insert acc name value) entries

/-- The entries that a list of pairs makes, the last value under a name winning. -/
def ofPairs (pairs : List (String × α)) : Entries α := insertAll [] pairs

/-- The names in order. -/
def names (entries : Entries α) : List String := entries.map Prod.fst

def has (entries : Entries α) (name : String) : Bool := (get? entries name).isSome

theorem get?_insert_self (entries : Entries α) (name : String) (value : α) :
    get? (insert entries name value) name = some value := by
  induction entries with
  | nil => simp [insert, get?]
  | cons head rest ih =>
    obtain ⟨other, old⟩ := head
    by_cases h : other = name
    · simp [insert, get?, h]
    · have hne : (name == other) = false := by simpa using fun h' => h h'.symm
      simp only [get?] at ih
      simp [insert, get?, h, hne, List.lookup_cons, ih]

theorem get?_insert_of_ne {name other : String} (h : name ≠ other) (entries : Entries α)
    (value : α) : get? (insert entries other value) name = get? entries name := by
  induction entries with
  | nil =>
    have hne : (name == other) = false := by simpa using h
    simp [insert, get?, List.lookup_cons, hne]
  | cons head rest ih =>
    obtain ⟨first, old⟩ := head
    simp only [get?] at ih
    by_cases hf : first = other
    · have hne : (name == first) = false := by simpa [hf] using h
      have hne' : (name == other) = false := by simpa using h
      simp [insert, get?, hf, List.lookup_cons, hne']
    · simp [insert, get?, hf, List.lookup_cons, ih]

theorem get?_erase (entries : Entries α) (name other : String) :
    get? (erase entries other) name = if name = other then none else get? entries name := by
  induction entries with
  | nil => simp [erase, get?]
  | cons head rest ih =>
    obtain ⟨first, value⟩ := head
    simp only [get?, erase] at ih
    by_cases hf : first = other
    · by_cases hn : name = other
      · simpa [erase, get?, hf, hn] using ih
      · have hne : (name == other) = false := by simpa using hn
        simpa [erase, get?, hf, hn, List.lookup_cons, hne] using ih
    · by_cases hn : name = first
      · simp [erase, get?, hf, hn]
      · have hne : (name == first) = false := by simpa using hn
        simpa [erase, get?, hf, List.lookup_cons, hne] using ih

end Entries
end MagnetStream
