/-! Records: entries under string keys, in the order of their keys, each key once. Keys are
ordered by code points, which is also the order of their bytes in UTF-8. -/

namespace LiterateTest

abbrev Record (α : Type) := List (String × α)

namespace Record

variable {α β : Type}

def get? (key : String) : Record α → Option α
  | [] => none
  | (found, value) :: rest => if found = key then some value else get? key rest

def hasKey (record : Record α) (key : String) : Bool :=
  record.any fun (found, _) => found == key

def keys (record : Record α) : List String :=
  record.map Prod.fst

def insert (key : String) (value : α) : Record α → Record α
  | [] => [(key, value)]
  | (found, old) :: rest =>
      if key < found then (key, value) :: (found, old) :: rest
      else if key = found then (key, value) :: rest
      else (found, old) :: insert key value rest

def extend (record additions : Record α) : Record α :=
  additions.foldl (fun result (key, value) => insert key value result) record

def ofList (entries : List (String × α)) : Record α :=
  extend [] entries

def mapValues (transform : α → β) (record : Record α) : Record β :=
  record.map fun (key, value) => (key, transform value)

example : ofList [("b", 1), ("a", 2), ("b", 3)] = [("a", 2), ("b", 3)] := by decide

@[simp] theorem get?_insert_self (key : String) (value : α) (record : Record α) :
    get? key (insert key value record) = some value := by
  induction record with
  | nil => simp [insert, get?]
  | cons entry rest induction =>
      obtain ⟨found, old⟩ := entry
      rw [insert]
      split
      · simp [get?]
      · split
        · simp [get?]
        · next different => simp [get?, Ne.symm different, induction]

theorem get?_insert_of_ne {key other : String} (different : key ≠ other) (value : α)
    (record : Record α) : get? other (insert key value record) = get? other record := by
  induction record with
  | nil => simp [insert, get?, different]
  | cons entry rest induction =>
      obtain ⟨found, old⟩ := entry
      rw [insert]
      split
      · simp [get?, different]
      · split
        · next same => subst same; simp [get?, different]
        · by_cases found = other <;> simp [get?, *]

end Record

end LiterateTest
