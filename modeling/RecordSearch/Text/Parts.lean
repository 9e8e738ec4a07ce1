namespace RecordSearch.Text

/-!
# Parts of a text

A text can be known by what it starts with, and be cut at a delimiter.

* `afterStart?`: what is left after a start (`afterStart?_append`);
* `cutAt?`: what stands before a delimiter and after it.
-/

variable {α : Type} [DecidableEq α]

/-- What is left of a text after a given start. -/
def afterStart? : (start : List α) → List α → Option (List α)
  | [], cs => some cs
  | s :: start, c :: cs => if s = c then afterStart? start cs else none
  | _ :: _, [] => none

@[simp] theorem afterStart?_append (start rest : List α) :
    afterStart? start (start ++ rest) = some rest := by
  induction start with
  | nil => rfl
  | cons s start ih => simp [afterStart?, ih]

theorem eq_append_of_afterStart? {start text rest : List α}
    (h : afterStart? start text = some rest) : text = start ++ rest := by
  fun_induction afterStart? start text <;> simp_all

/-- The text before the first delimiter, and the text after it. -/
def cutAt? (delimiter : List α) : List α → Option (List α × List α)
  | [] => none
  | c :: cs =>
    match afterStart? delimiter (c :: cs) with
    | some rest => some ([], rest)
    | none => (cutAt? delimiter cs).map fun (key, rest) => (c :: key, rest)

end RecordSearch.Text
