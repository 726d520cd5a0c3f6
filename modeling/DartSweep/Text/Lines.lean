import DartSweep.Text.Basic

/-!
# Fields and lines

A text splits at a separator into at least one field, and joining the fields with the separator
gives the text back. Lines are the fields between line feeds. Joining is not injective on the empty
list of fields: it gives the empty text, which splits into one empty field.
-/
namespace DartSweep

def split (sep : Char) : Text → List Text
  | [] => [[]]
  | c :: rest =>
    if c = sep then [] :: split sep rest
    else match split sep rest with
      | [] => [[c]]
      | field :: fields => (c :: field) :: fields

def join (sep : Char) : List Text → Text
  | [] => []
  | [field] => field
  | field :: next :: fields => field ++ sep :: join sep (next :: fields)

/-- The lines of a source; a source that ends in a line feed has an empty last line. -/
def splitLines (source : Text) : List Text :=
  split '\n' source

def joinLines (lines : List Text) : Text :=
  join '\n' lines

theorem split_ne_nil (sep : Char) (t : Text) : split sep t ≠ [] := by
  cases t with
  | nil => simp [split]
  | cons c rest =>
    rw [split]
    split
    · simp
    · split <;> simp

theorem join_cons (sep : Char) (field : Text) {fields : List Text} (h : fields ≠ []) :
    join sep (field :: fields) = field ++ sep :: join sep fields := by
  cases fields with
  | nil => exact absurd rfl h
  | cons next fields => rfl

private theorem join_cons_cons (sep c : Char) (field : Text) (fields : List Text) :
    join sep ((c :: field) :: fields) = c :: join sep (field :: fields) := by
  cases fields <;> rfl

theorem join_split (sep : Char) (t : Text) : join sep (split sep t) = t := by
  induction t with
  | nil => rfl
  | cons c rest ih =>
    rw [split]
    split
    · rename_i hc
      rw [join_cons sep [] (split_ne_nil sep rest), ih, hc]
      rfl
    · cases hs : split sep rest with
      | nil => exact absurd hs (split_ne_nil sep rest)
      | cons field fields =>
        simp only
        rw [join_cons_cons, ← hs, ih]

theorem not_mem_of_mem_split {sep : Char} {t field : Text} (h : field ∈ split sep t) :
    sep ∉ field := by
  induction t generalizing field with
  | nil => simp_all [split]
  | cons c rest ih =>
    rw [split] at h
    split at h
    · rcases List.mem_cons.mp h with rfl | h
      · simp
      · exact ih h
    · rename_i hc
      cases hs : split sep rest with
      | nil => exact absurd hs (split_ne_nil sep rest)
      | cons first fields =>
        simp only [hs, List.mem_cons] at h
        rcases h with rfl | h
        · have hf : sep ∉ first := ih (by simp [hs])
          simp [hf, Ne.symm hc]
        · exact ih (by simp [hs, h])

theorem split_of_not_mem {sep : Char} {t : Text} (h : sep ∉ t) : split sep t = [t] := by
  induction t with
  | nil => rfl
  | cons c rest ih =>
    simp only [List.mem_cons, not_or] at h
    simp [split, Ne.symm h.1, ih h.2]

/-- A separator ends a field, whatever the texts around it are. -/
theorem split_append (sep : Char) (s t : Text) :
    split sep (s ++ sep :: t) = split sep s ++ split sep t := by
  induction s with
  | nil => simp [split]
  | cons c s ih =>
    rw [List.cons_append, split, split, ih]
    by_cases hc : c = sep
    · rw [if_pos hc, if_pos hc, List.cons_append]
    · rw [if_neg hc, if_neg hc]
      cases hs : split sep s with
      | nil => exact absurd hs (split_ne_nil sep s)
      | cons field fields => rfl

theorem split_join {sep : Char} {fields : List Text} (hne : fields ≠ [])
    (h : ∀ field ∈ fields, sep ∉ field) : split sep (join sep fields) = fields := by
  induction fields with
  | nil => exact absurd rfl hne
  | cons field fields ih =>
    cases fields with
    | nil => exact split_of_not_mem (h field (by simp))
    | cons next fields =>
      rw [join_cons sep field (by simp), split_append, split_of_not_mem (h field (by simp)),
        ih (by simp) (fun f hf => h f (List.mem_cons_of_mem _ hf)), List.singleton_append]

theorem splitLines_ne_nil (source : Text) : splitLines source ≠ [] :=
  split_ne_nil '\n' source

@[simp] theorem joinLines_splitLines (source : Text) : joinLines (splitLines source) = source :=
  join_split '\n' source

theorem splitLines_joinLines {lines : List Text} (hne : lines ≠ [])
    (h : ∀ line ∈ lines, '\n' ∉ line) : splitLines (joinLines lines) = lines :=
  split_join hne h

end DartSweep
