/-!
# Ordered association lists

Mappings whose order shows are lists of pairs. Putting a value under a key that
is there already replaces the value and keeps the place of the key.
-/

namespace Gatehouse.Assoc

variable {α β : Type} [DecidableEq α]

/-- The pairs with `key` bound to `value`. -/
def put (key : α) (value : β) : List (α × β) → List (α × β)
  | [] => [(key, value)]
  | (k, v) :: rest => if k = key then (k, value) :: rest else (k, v) :: put key value rest

/-- The pairs that remain when they are put one after the other. -/
def ofList (pairs : List (α × β)) : List (α × β) :=
  pairs.foldl (fun acc p => put p.1 p.2 acc) []

/-- The value bound to `key`. -/
def get? (key : α) : List (α × β) → Option β
  | [] => none
  | (k, v) :: rest => if k = key then some v else get? key rest

/-- The pairs without those of `key`. -/
def erase (key : α) (pairs : List (α × β)) : List (α × β) :=
  pairs.filter fun p => p.1 ≠ key

theorem get?_put (key key' : α) (value : β) (pairs : List (α × β)) :
    get? key' (put key value pairs) = if key = key' then some value else get? key' pairs := by
  induction pairs with
  | nil => simp [put, get?]
  | cons p rest ih =>
    obtain ⟨k, v⟩ := p
    simp only [put]
    split <;> grind [get?]

/-- The value that is put last under a key. -/
def last? (key : α) (pairs : List (α × β)) : Option β :=
  (pairs.reverse.find? fun p => p.1 = key).map (·.2)

theorem ofList_concat (pairs : List (α × β)) (p : α × β) :
    ofList (pairs ++ [p]) = put p.1 p.2 (ofList pairs) := by
  rw [ofList, ofList, List.foldl_append]
  rfl

theorem last?_concat (key : α) (pairs : List (α × β)) (p : α × β) :
    last? key (pairs ++ [p]) = if p.1 = key then some p.2 else last? key pairs := by
  simp only [last?, List.reverse_append, List.reverse_cons, List.reverse_nil, List.nil_append,
    List.cons_append, List.find?_cons]
  by_cases h : p.1 = key <;> simp [h]

/-- Of the values put under one key the last one stays. -/
theorem get?_ofList (key : α) (pairs : List (α × β)) :
    get? key (ofList pairs) = last? key pairs := by
  rw [← List.reverse_reverse pairs]
  induction pairs.reverse with
  | nil => rfl
  | cons p rest ih => rw [List.reverse_cons, ofList_concat, get?_put, last?_concat, ih]

theorem keys_put (key : α) (value : β) (pairs : List (α × β)) :
    (put key value pairs).map (·.1) =
      if key ∈ pairs.map (·.1) then pairs.map (·.1) else pairs.map (·.1) ++ [key] := by
  induction pairs with
  | nil => rfl
  | cons p rest ih =>
    obtain ⟨k, v⟩ := p
    simp only [put]
    split <;> grind

theorem nodup_keys_put {key : α} {value : β} {pairs : List (α × β)}
    (h : (pairs.map (·.1)).Nodup) : ((put key value pairs).map (·.1)).Nodup := by
  rw [keys_put]
  split <;> grind

theorem mem_of_mem_put {key : α} {value : β} {pairs : List (α × β)} {p : α × β}
    (h : p ∈ put key value pairs) : p = (key, value) ∨ p ∈ pairs := by
  induction pairs with
  | nil => exact Or.inl (List.mem_singleton.mp h)
  | cons q rest ih =>
    obtain ⟨k, v⟩ := q
    rw [put] at h
    split at h <;> grind

/-- A key that is not there yet comes last. -/
theorem put_of_not_mem {key : α} {value : β} {pairs : List (α × β)}
    (h : key ∉ pairs.map (·.1)) : put key value pairs = pairs ++ [(key, value)] := by
  induction pairs with
  | nil => rfl
  | cons p rest ih =>
    obtain ⟨k, v⟩ := p
    rw [List.map_cons, List.mem_cons, not_or] at h
    rw [put, if_neg (Ne.symm h.1), ih h.2]
    rfl

/-- No key stands twice among the pairs that remain. -/
theorem nodup_keys_ofList (pairs : List (α × β)) : ((ofList pairs).map (·.1)).Nodup := by
  rw [← List.reverse_reverse pairs]
  induction pairs.reverse with
  | nil => exact List.nodup_nil
  | cons p rest ih =>
    rw [List.reverse_cons, ofList_concat]
    exact nodup_keys_put ih

theorem get?_of_mem {key : α} {value : β} {pairs : List (α × β)}
    (hkeys : (pairs.map (·.1)).Nodup) (h : (key, value) ∈ pairs) : get? key pairs = some value := by
  induction pairs with
  | nil => cases h
  | cons p rest ih =>
    obtain ⟨k, v⟩ := p
    grind [get?]

end Gatehouse.Assoc
