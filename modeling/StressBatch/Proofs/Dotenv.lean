import StressBatch.Dotenv

/-!
# What a variable file does to the variables

A variable file sets the variables it assigns, in order, and never one that is there already: what
the process has counts before the file, and of two assignments to one name the first.
-/

namespace StressBatch.Dotenv

variable {vars : Variables} {name : String}

/-- Sets variables one after the other, each unless it is there already. -/
def Variables.adopt (vars : Variables) (assignments : List (String × String)) : Variables :=
  assignments.foldl
    (fun vars a => if (vars.get? a.1).isSome then vars else vars ++ [(a.1, a.2)]) vars

/-- The variables without the one of a name. -/
def Variables.unset (vars : Variables) (name : String) : Variables :=
  vars.filter fun a => a.1 ≠ name

/-- The value that a variable has once assignments have been adopted. -/
def valueIn (process : Variables) (assignments : List (String × String)) (name : String) :
    Option String :=
  (process.get? name).or (assignments.lookup name)

theorem lookup_cons_eq (a : String × String) (assignments : List (String × String)) :
    (a :: assignments).lookup name =
      if name = a.1 then some a.2 else assignments.lookup name := by
  rw [List.lookup_cons]
  by_cases hname : name = a.1
  · simp [hname]
  · rw [if_neg hname, beq_false_of_ne hname]

theorem get?_adopt (assignments : List (String × String)) :
    (vars.adopt assignments).get? name = valueIn vars assignments name := by
  induction assignments generalizing vars with
  | nil => simp [Variables.adopt, valueIn]
  | cons a assignments ih =>
    have hstep : vars.adopt (a :: assignments) =
        (if (vars.get? a.1).isSome then vars else vars ++ [(a.1, a.2)]).adopt assignments := rfl
    rw [hstep, ih]
    unfold valueIn
    rw [lookup_cons_eq]
    cases hvalue : vars.get? a.1 with
    | some value =>
      rw [if_pos (by rfl)]
      by_cases hname : name = a.1
      · rw [hname, hvalue]
        rfl
      · rw [if_neg hname]
    | none =>
      have hlast : Variables.get? (vars ++ [(a.1, a.2)]) name =
          (vars.get? name).or (if name = a.1 then some a.2 else none) := by
        rw [Variables.get?, List.lookup_append, lookup_cons_eq]
        rfl
      rw [if_neg (by simp), hlast, Option.or_assoc]
      by_cases hname : name = a.1
      · rw [if_pos hname, if_pos hname]
        rfl
      · rw [if_neg hname, if_neg hname]
        rfl

theorem get?_unset (other : String) :
    (vars.unset name).get? other = if other = name then none else vars.get? other := by
  induction vars with
  | nil => simp [Variables.unset, Variables.get?]
  | cons a vars ih =>
    unfold Variables.unset Variables.get? at *
    rw [lookup_cons_eq]
    by_cases hname : a.1 = name
    · rw [List.filter_cons_of_neg (by simpa using hname), ih]
      by_cases hother : other = name
      · rw [if_pos hother, if_pos hother]
      · rw [if_neg hother, if_neg hother, if_neg (hname ▸ hother)]
    · rw [List.filter_cons_of_pos (by simpa using hname), lookup_cons_eq, ih]
      by_cases hother : other = name
      · have hne : other ≠ a.1 := fun hsame => hname (hsame.symm.trans hother)
        rw [if_pos hother, if_pos hother, if_neg hne]
      · rw [if_neg hother, if_neg hother]

theorem exists_adopt_of_loadLines (known : Known) (lines : List (Option (List Char))) :
    ∃ assignments, loadLines known lines = known.process.adopt assignments := by
  induction lines generalizing known with
  | nil => exact ⟨[], rfl⟩
  | cons line lines ih =>
    cases line with
    | none => exact ⟨[], rfl⟩
    | some line =>
      unfold loadLines
      cases readLine known line with
      | malformed => exact ⟨[], rfl⟩
      | empty => exact ih known
      | assign name value =>
        obtain ⟨assignments, hrest⟩ := ih ⟨if (known.process.get? name).isSome then known.process
          else known.process ++ [(name, value)], (name, value) :: known.earlier⟩
        exact ⟨(name, value) :: assignments, hrest⟩

/-- A variable file adopts the assignments of its lines, up to the first line that is malformed. -/
theorem exists_adopt_of_loadBytes (process : Variables) (file : Bytes) :
    ∃ assignments, loadBytes process file = process.adopt assignments := by
  unfold loadBytes load
  simp only
  split
  · exact exists_adopt_of_loadLines ⟨process, []⟩ _
  · exact exists_adopt_of_loadLines ⟨process, []⟩ _

end StressBatch.Dotenv
