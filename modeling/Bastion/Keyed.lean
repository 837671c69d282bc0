set_option autoImplicit false

namespace Bastion.Keyed

variable {κ α : Type} [DecidableEq κ]

def get? (entries : List (κ × α)) (key : κ) : Option α :=
  match entries with
  | [] => none
  | (k, v) :: rest => if k = key then some v else get? rest key

def put (entries : List (κ × α)) (key : κ) (value : α) : List (κ × α) :=
  match entries with
  | [] => [(key, value)]
  | (k, v) :: rest => if k = key then (k, value) :: rest else (k, v) :: put rest key value

def erase (entries : List (κ × α)) (key : κ) : List (κ × α) :=
  entries.filter fun entry => entry.1 ≠ key

def last? (entries : List (κ × α)) (key : κ) : Option α :=
  match entries with
  | [] => none
  | (k, v) :: rest => (last? rest key).or (if k = key then some v else none)

/-- The pairs in order, a later one replacing the value of an earlier one. -/
def collect (entries : List (κ × α)) : List (κ × α) :=
  entries.foldl (fun kept entry => put kept entry.1 entry.2) []

theorem get?_put_same (entries : List (κ × α)) (key : κ) (value : α) :
    get? (put entries key value) key = some value := by
  induction entries with
  | nil => simp [put, get?]
  | cons entry rest ih =>
    by_cases h : entry.1 = key
    · simp [put, get?, h]
    · simp [put, get?, h, ih]

theorem get?_put_other (entries : List (κ × α)) {key other : κ} (value : α) (ne : other ≠ key) :
    get? (put entries key value) other = get? entries other := by
  induction entries with
  | nil => simp [put, get?, Ne.symm ne]
  | cons entry rest ih =>
    by_cases h : entry.1 = key
    · subst h; simp [put, get?, Ne.symm ne]
    · by_cases g : entry.1 = other
      · subst g; simp [put, get?, h]
      · simp [put, get?, h, g, ih]

theorem get?_erase_same (entries : List (κ × α)) (key : κ) :
    get? (erase entries key) key = none := by
  induction entries with
  | nil => rfl
  | cons entry rest ih =>
    by_cases h : entry.1 = key
    · simpa [erase, h] using ih
    · simpa [erase, h, get?] using ih

theorem get?_erase_other (entries : List (κ × α)) {key other : κ} (ne : other ≠ key) :
    get? (erase entries key) other = get? entries other := by
  induction entries with
  | nil => rfl
  | cons entry rest ih =>
    by_cases h : entry.1 = key
    · subst h; simpa [erase, get?, Ne.symm ne] using ih
    · by_cases g : entry.1 = other
      · subst g; simp [erase, get?, h]
      · simpa [erase, get?, h, g] using ih

end Bastion.Keyed
