/-!
# Paths

Paths are texts of names between slashes. Names that are empty or a single point lead nowhere,
except for a single point at the front, which stands for the current directory. Each path is
shorter than the ones it encloses (`length_lt_of_parentChars?`).
-/

set_option autoImplicit false

namespace GridChess.Path

/-- The names between the slashes, empty ones too. -/
def names : List Char → List (List Char)
  | [] => [[]]
  | '/' :: rest => [] :: names rest
  | c :: rest =>
    match names rest with
    | name :: later => (c :: name) :: later
    | [] => [[c]]

def joined (parts : List (List Char)) : List Char := ['/'].intercalate parts

def isIdle (name : List Char) : Bool := name = [] || name = ['.']

def dropIdleEnd (parts : List (List Char)) : List (List Char) :=
  (parts.reverse.dropWhile isIdle).reverse

/-- What follows the home sign of a path, if it starts with one. -/
def belowHome? (path : List Char) : Option (List Char) :=
  match names path with
  | ['~'] :: rest => some (joined (dropIdleEnd (rest.dropWhile isIdle)))
  | _ => none

/-- A relative path below a directory. -/
def below (directory path : List Char) : List Char :=
  if directory = [] ∨ directory.getLast? = some '/' then directory ++ path
  else directory ++ '/' :: path

/-- Puts the home directory, if there is one, for a home sign at the front of a path. -/
def expandHome (home : Option String) (path : String) : String :=
  match home, belowHome? path.toList with
  | some home, some rest => String.ofList (below home.toList rest)
  | _, _ => path

/-- The path without its last name; none where there is no name. -/
def parentChars? (path : List Char) : Option (List Char) :=
  match names path with
  | [] => none
  | first :: rest =>
    match dropIdleEnd rest with
    | [] => if first = [] then none else some []
    | kept =>
      let outer := dropIdleEnd kept.dropLast
      if first = [] ∧ outer = [] then some ['/'] else some (joined (first :: outer))

def parent? (path : String) : Option String := (parentChars? path.toList).map String.ofList

theorem joined_cons_cons (part next : List Char) (parts : List (List Char)) :
    joined (part :: next :: parts) = part ++ '/' :: joined (next :: parts) := by
  simp [joined, List.intercalate, List.intersperse]

theorem names_ne_nil (path : List Char) : names path ≠ [] := by
  fun_induction names path <;> simp_all

/-- Nothing of a path is lost between its names. -/
theorem joined_names (path : List Char) : joined (names path) = path := by
  fun_induction names path with
  | case1 => rfl
  | case2 rest ih =>
    obtain ⟨name, later, h⟩ := List.exists_cons_of_ne_nil (names_ne_nil rest)
    rw [h] at ih ⊢
    rw [joined_cons_cons, ih, List.nil_append]
  | case3 c rest hc name later h ih =>
    rw [h] at ih
    cases later with
    | nil => simpa [joined, List.intercalate] using ih
    | cons next later => rw [joined_cons_cons] at ih ⊢; rw [List.cons_append, ih]
  | case4 c rest hc h => exact absurd h (names_ne_nil rest)

theorem length_joined_cons (part : List Char) (parts : List (List Char)) :
    (joined (part :: parts)).length =
      part.length + (parts.map fun part => part.length + 1).foldr (· + ·) 0 := by
  induction parts generalizing part with
  | nil => simp [joined, List.intercalate]
  | cons next parts ih =>
    rw [joined_cons_cons, List.length_append, List.length_cons, ih, List.map_cons,
      List.foldr_cons]
    omega

theorem exists_append_dropIdleEnd (parts : List (List Char)) :
    ∃ idle, parts = dropIdleEnd parts ++ idle := by
  obtain ⟨idle, h⟩ := List.dropWhile_suffix (l := parts.reverse) isIdle
  exact ⟨idle.reverse, by rw [dropIdleEnd, ← List.reverse_append, h, List.reverse_reverse]⟩

theorem not_isIdle_getLast_dropIdleEnd {parts : List (List Char)} (h : dropIdleEnd parts ≠ []) :
    isIdle ((dropIdleEnd parts).getLast h) = false := by
  have kept : parts.reverse.dropWhile isIdle ≠ [] := by simpa [dropIdleEnd] using h
  simpa [dropIdleEnd] using List.head_dropWhile_not isIdle kept

/-- What encloses a path is shorter. -/
theorem length_lt_of_parentChars? {path outer : List Char} (h : parentChars? path = some outer) :
    outer.length < path.length := by
  unfold parentChars? at h
  obtain ⟨first, rest, parts⟩ := List.exists_cons_of_ne_nil (names_ne_nil path)
  have whole := length_joined_cons first rest
  rw [← parts, joined_names, ← List.sum_eq_foldr] at whole
  simp only [parts] at h
  obtain ⟨idle, hrest⟩ := exists_append_dropIdleEnd rest
  have last := @not_isIdle_getLast_dropIdleEnd rest
  generalize dropIdleEnd rest = kept at h hrest last
  cases kept with
  | nil =>
    by_cases hf : first = []
    · simp [hf] at h
    · have := List.length_pos_iff.2 hf
      simp only [if_neg hf, Option.some.injEq] at h
      rw [← h, List.length_nil]
      omega
  | cons name names =>
    simp only at h
    have hkept : name :: names ≠ [] := by simp
    have named := last hkept
    rw [← List.dropLast_concat_getLast hkept] at hrest
    obtain ⟨inner, hinner⟩ := exists_append_dropIdleEnd (name :: names).dropLast
    generalize (name :: names).getLast hkept = final at hrest named
    generalize dropIdleEnd (name :: names).dropLast = outerNames at h hinner
    have positive : 0 < final.length := by
      apply List.length_pos_iff.2
      rintro rfl
      simp [isIdle] at named
    rw [hrest, hinner] at whole
    simp only [List.map_append, List.sum_append, List.map_cons, List.map_nil, List.sum_cons,
      List.sum_nil] at whole
    split at h
    · simp only [Option.some.injEq] at h
      simp only [← h, List.length_cons, List.length_nil]
      omega
    · simp only [Option.some.injEq] at h
      rw [← h, length_joined_cons, ← List.sum_eq_foldr]
      omega

/-- A path and those that enclose it, up to the current directory or the root, which is left
out. -/
def withParentsChars (path : List Char) : List (List Char) :=
  match _h : parentChars? path with
  | none => []
  | some outer => path :: withParentsChars outer
termination_by path.length
decreasing_by exact length_lt_of_parentChars? ‹_›

def withParents (path : String) : List String :=
  (withParentsChars path.toList).map String.ofList

end GridChess.Path
