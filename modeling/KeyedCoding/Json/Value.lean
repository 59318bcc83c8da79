import KeyedCoding.Number.Binary

/-!
# JSON values

## Main definitions

* `Json`: a JSON value. Numbers are whole, or finite numbers of 64 bits.
* `Json.Entries.get?`, `Json.Entries.insert`: the entries of an object, in ascending order of keys.
* `Json.kind`: how an error names the kind of a value.
-/

namespace KeyedCoding

/-- A JSON value. -/
inductive Json where
  | null
  | bool (value : Bool)
  /-- A whole number that fits 64 bits, with or without a sign. -/
  | integer (value : Int)
  /-- A finite number that is not written as a whole one. -/
  | float (negative : Bool) (magnitude : Magnitude)
  | string (value : String)
  | array (elements : List Json)
  /-- An object, whose entries are in ascending order of keys. -/
  | object (entries : List (String × Json))

namespace Json

/-- The entries of an object. -/
abbrev Entries := List (String × Json)

namespace Entries

/-- The value under a key. -/
def get? : Entries → String → Option Json
  | [], _ => none
  | (key, value) :: rest, wanted => if key = wanted then some value else get? rest wanted

/-- Put a value under a key, in place of what was there. -/
def insert (key : String) (value : Json) : Entries → Entries
  | [] => [(key, value)]
  | (key', value') :: rest =>
    if key = key' then (key, value) :: rest
    else if key < key' then (key, value) :: (key', value') :: rest
    else (key', value') :: insert key value rest

/-- Entries in the order given, a later one in place of an earlier one with the same key. -/
def ofList (entries : List (String × Json)) : Entries :=
  entries.foldl (fun entries (key, value) => entries.insert key value) []

/-- A value is found under the key where it was put, and all others stay as they were. -/
theorem get?_insert (entries : Entries) (key wanted : String) (value : Json) :
    (entries.insert key value).get? wanted =
      if key = wanted then some value else entries.get? wanted := by
  induction entries with
  | nil => simp [insert, get?]
  | cons entry rest ih =>
    obtain ⟨key', value'⟩ := entry
    by_cases same : key = key'
    · subst same
      by_cases found : key = wanted <;> simp [insert, get?, found]
    · by_cases before : key < key'
      · simp [insert, get?, same, before]
      · simp only [insert, same, before, if_false, get?, ih]
        by_cases found : key' = wanted
        · subst found; simp [same]
        · simp [found]

end Entries

/-- How an error names the kind of a value. -/
def kind : Json → String
  | null => "null"
  | bool _ => "a boolean"
  | integer _ => "a number"
  | float .. => "a number"
  | string _ => "a string"
  | array _ => "an array"
  | object _ => "an object"

end Json

end KeyedCoding
