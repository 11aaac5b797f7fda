/-! Registries: things found by name.

A registry lists its entries in the order their names were first put in. Putting a
thing under a name that is taken replaces the thing and keeps the place. -/
namespace WandArena

structure Registry (β : Type) where
  entries : List (String × β)
  deriving Repr

namespace Registry
variable {β : Type}

def empty : Registry β := ⟨[]⟩

def get? (r : Registry β) (name : String) : Option β :=
  r.entries.lookup name

def contains (r : Registry β) (name : String) : Bool :=
  (r.get? name).isSome

def names (r : Registry β) : List String :=
  r.entries.map (·.1)

private def putInto (name : String) (thing : β) : List (String × β) → List (String × β)
  | [] => [(name, thing)]
  | (n, t) :: rest => if name == n then (n, thing) :: rest else (n, t) :: putInto name thing rest

def put (r : Registry β) (name : String) (thing : β) : Registry β :=
  ⟨putInto name thing r.entries⟩

def erase (r : Registry β) (name : String) : Registry β :=
  ⟨r.entries.filter (·.1 != name)⟩

def ofList (entries : List (String × β)) : Registry β :=
  entries.foldl (fun r (name, thing) => r.put name thing) empty

@[simp] theorem get?_empty (name : String) : (empty : Registry β).get? name = none := rfl

private theorem lookup_putInto (name other : String) (thing : β) (entries : List (String × β)) :
    (putInto name thing entries).lookup other =
      if other = name then some thing else entries.lookup other := by
  induction entries with
  | nil =>
    by_cases h : other = name
    · simp [putInto, h]
    · simp [putInto, h]
  | cons entry rest ih =>
    obtain ⟨n, t⟩ := entry
    unfold putInto
    by_cases hn : name = n
    · subst hn
      by_cases h : other = name
      · simp [h]
      · have hb : (other == name) = false := by simpa using h
        simp [List.lookup_cons, h, hb]
    · rw [if_neg (by simpa using hn)]
      by_cases h : other = n
      · subst h
        have : other ≠ name := fun e => hn e.symm
        simp [this]
      · have hb : (other == n) = false := by simpa using h
        simp only [List.lookup_cons, hb]
        exact ih

/-- After a put, the name finds the new thing and every other name what it found before. -/
theorem get?_put (r : Registry β) (name other : String) (thing : β) :
    (r.put name thing).get? other = if other = name then some thing else r.get? other :=
  lookup_putInto name other thing r.entries

/-- After an erasure, the name finds nothing and every other name what it found before. -/
theorem get?_erase (r : Registry β) (name other : String) :
    (r.erase name).get? other = if other = name then none else r.get? other := by
  unfold get? erase
  induction r.entries with
  | nil => simp
  | cons entry rest ih =>
    obtain ⟨n, t⟩ := entry
    by_cases hn : n = name
    · subst hn
      by_cases h : other = n
      · subst h
        simpa using ih
      · have hb : (other == n) = false := by simpa using h
        simp only [List.lookup_cons, hb]
        simpa [h] using ih
    · by_cases h : other = n
      · subst h
        simp [hn]
      · have hb : (other == n) = false := by simpa using h
        have hf : (n != name) = true := by simpa using hn
        simp only [List.filter, hf, List.lookup_cons, hb]
        exact ih

end Registry
end WandArena
